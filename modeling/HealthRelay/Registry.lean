import HealthRelay.Monitor

/-!
The kinds of monitors that a host can run, by name. Each builds monitors from files of settings.
-/

namespace HealthRelay

/-- A kind of monitor. -/
structure MonitorKind where
  /-- The help text for the option that lists the files. -/
  description : String
  /-- Builds a monitor from the file at a path. -/
  create : FileTree → String → Except RelayError Monitor

namespace MonitorKind

/-- The kind for a reader. -/
def inspect (k : MonitorKind) : String :=
  "MonitorHandler \x7b option_description: " ++ Text.quoted k.description ++ ", .. \x7d"

/-- Monitors whose plugins are reached in process. -/
def inProcess (description : String) (plugin : Plugin) : MonitorKind where
  description := description
  create files path := Monitor.load (.new .inProcess files plugin) path

/-- Monitors whose plugins listen on sockets. -/
def external : MonitorKind where
  description := "Set to external monitor config file paths."
  create files path := Monitor.load (.new .socket files .silent) path

end MonitorKind

structure Registry where
  kinds : Table MonitorKind

namespace Registry

/-- The name of the kind whose plugins listen on sockets. -/
def externalName : String := "external-monitor"

def empty : Registry := ⟨.empty⟩

/-- Adds a kind under a name that is not taken. -/
def register (r : Registry) (name : String) (kind : MonitorKind) : Except RegistryError Registry :=
  if r.kinds.contains name then .error (.duplicateMonitor name)
  else .ok ⟨r.kinds.insert name kind⟩

/-- Adds the kind whose plugins listen on sockets. -/
def registerExternal (r : Registry) : Except RegistryError Registry :=
  r.register externalName .external

/-- The kind under a name. -/
def kind? (r : Registry) (name : String) : Option MonitorKind := r.kinds.get? name

/-- The names in order. -/
def names (r : Registry) : List String := r.kinds.keys

/-- Builds a monitor of the kind under a name. -/
def create (r : Registry) (name : String) (files : FileTree) (path : String) :
    Except RelayError Monitor :=
  match r.kind? name with
  | some kind => kind.create files path
  | none => .error (.registry (.unknownMonitor name))

end Registry

end HealthRelay
