import HealthRelay.FileTree
import HealthRelay.Settings.Check
import HealthRelay.Settings.Document

/-!
Settings from files.
-/

namespace HealthRelay.Settings

/-- The settings in a file, as they stand there. -/
def ofFile (files : FileTree) (path : String) : Except SettingsError Settings :=
  match files.readText path with
  | .error e => .error (.unreadable path e.message)
  | .ok text => parse text

/-- The settings a monitor runs with: read from a file, zeros filled in, and checked. -/
def load (files : FileTree) (path : String) : Except SettingsError Settings := do
  let s := (← ofFile files path).withDefaults
  s.check
  return s

end HealthRelay.Settings
