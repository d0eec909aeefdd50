import HealthRelay.CommandLine
import Std.Time.DateTime.Timestamp

/-!
The command as a program: real clocks, real files, and a monitor that is moved on as time passes.
-/

namespace HealthRelay.CommandLine

/-- The date. -/
def readStamp : IO Timestamp := do
  let nanos := (← Std.Time.Timestamp.now).toNanosecondsSinceUnixEpoch.val
  return (Timestamp.ofUnix? (nanos / 1000000000) (nanos % 1000000000)).getD .epoch

/-- The entry at a path, if there is one. -/
def readEntry? (path : String) : IO (Option FileEntry) := do
  try return some (.file (← IO.FS.readBinFile path))
  catch
    | .noFileOrDirectory .. => return none
    | _ => return some .directory

/-- The files that the command can see: the one that its arguments name. -/
def readFiles (arguments : List String) : IO FileTree := do
  match parse arguments with
  | .ok (.run path) =>
    match ← readEntry? path with
    | some entry => return FileTree.empty.put path entry
    | none => return .empty
  | _ => return .empty

/-- Prints the reports that wait for the host. -/
def printReports (t : Timeline) : IO Timeline := do
  let (reports, stream) := t.monitor.stream.drain
  IO.print (Status.printed reports)
  (← IO.getStdout).flush
  return { t with monitor := t.monitor.withStream stream }

/-- Follows the clock from the time when the monitor was started. -/
partial def follow (started : Nat) (t : Timeline) : IO UInt32 := do
  let t ← printReports t
  IO.sleep slice.millis.toUInt32
  let elapsed := (← IO.monoNanosNow) - started
  let passed := (Duration.ofNanos? (elapsed - t.now)).getD .zero
  follow started ({ t with stamp := ← readStamp }.await (fun _ => false) passed).2

end HealthRelay.CommandLine

open HealthRelay CommandLine in
def main (arguments : List String) : IO UInt32 := do
  match launch (← readFiles arguments) (← readStamp) arguments with
  | .ok t => follow (← IO.monoNanosNow) t
  | .error ending =>
    for line in ending.output do
      IO.println line
    if let some complaint := ending.complaint then
      IO.eprintln complaint
    return ending.code.toUInt32
