import HealthRelay.Monitor.Timeline
import HealthRelay.Registry
import HealthRelay.Status.Document

/-!
The command that runs one monitor and prints every report on a line of its own.
-/

namespace HealthRelay.CommandLine

/-- What the arguments ask for. -/
inductive Command where
  | run (path : String)
  | help
  deriving DecidableEq

/-- Arguments that ask for nothing. -/
inductive ArgumentError where
  | missingValue
  | unknown (argument : String)
  | missingPath
  deriving DecidableEq

def ArgumentError.message : ArgumentError → String
  | .missingValue => "error: --config requires a value"
  | .unknown argument => "error: unknown argument: " ++ argument
  | .missingPath => "error: --config is required"

def isPathOption (argument : String) : Bool := argument = "--config" || argument = "-c"

def isHelpOption (argument : String) : Bool := argument = "--help" || argument = "-h"

/-- Reads arguments from left to right, with the path found so far. The last path counts, and asking
for help ends the reading. -/
def parseFrom (path : Option String) : List String → Except ArgumentError Command
  | [] => path.elim (.error .missingPath) fun path => .ok (.run path)
  | argument :: rest =>
    if isPathOption argument then
      match rest with
      | [] => .error .missingValue
      | value :: rest => parseFrom (some value) rest
    else if isHelpOption argument then .ok .help
    else .error (.unknown argument)

def parse (arguments : List String) : Except ArgumentError Command := parseFrom none arguments

def helpLines : List String := [
  "monitor-proxy - external health-check plugin runner",
  "",
  "USAGE:",
  "    monitor-proxy --config <PATH>",
  "",
  "OPTIONS:",
  "    -c, --config <PATH>       External monitor config file",
  "    -h, --help                Print help information",
  "",
  "Log filtering follows RUST_LOG [default: info]."]

/-- How a command ends: its exit code and what it prints. -/
structure Ending where
  code : Nat
  output : List String
  complaint : Option String
  deriving DecidableEq

/-- The case of an error and its parts, as the command ends with it. -/
def inspect : RelayError → String
  | .settings e => "Config(" ++ e.inspect ++ ")"
  | e => e.message

/-- The external monitor that settings at a path describe. -/
def build (files : FileTree) (path : String) : Except RelayError Monitor :=
  match Registry.empty.registerExternal with
  | .error e => .error (.registry e)
  | .ok registry => registry.create Registry.externalName files path

/-- Begins what the arguments ask for: it ends at once, or a monitor runs. -/
def launch (files : FileTree) (stamp : Timestamp) (arguments : List String) :
    Except Ending Timeline :=
  match parse arguments with
  | .error e => .error ⟨1, [], some e.message⟩
  | .ok .help => .error ⟨0, helpLines, none⟩
  | .ok (.run path) =>
    match (build files path).bind fun m => (Timeline.mk m 0 stamp).start with
    | .error e => .error ⟨1, [], some ("Error: " ++ inspect e)⟩
    | .ok t => .ok t

/-- How long the command waits for a report before it looks whether it has been interrupted. -/
def slice : Duration := ⟨500000000, by decide⟩

end HealthRelay.CommandLine
