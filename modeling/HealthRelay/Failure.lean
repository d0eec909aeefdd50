import HealthRelay.Binary64.Text
import HealthRelay.Duration
import HealthRelay.Json.Reader
import HealthRelay.Text.Quoted

/-!
What can go wrong, by cause, and how it is worded.

Only settings that are wrong, and misuse, reach the host as errors. What goes wrong with the plugin
is absorbed into the state of the connection.
-/

namespace HealthRelay

/-- Settings that cannot be used. -/
inductive SettingsError where
  | invalidPlugin (got : String)
  | missingField (field : String)
  | intervalTooShort (actual : Duration)
  | timeoutTooShort (actual : Duration)
  | timeoutNotBelowInterval (timeout interval : Duration)
  | maxAttemptsTooLow
  | multiplierTooLow (actual : Binary64)
  | errorThresholdTooLow
  | probeIntervalZero
  /-- The `index`-th condition lacks a text. -/
  | incompleteCondition (index : Nat) (field : String)
  | invalidDuration (input reason : String)
  /-- The file could not be read. -/
  | unreadable (path message : String)
  /-- The text of the file could not be read as settings. -/
  | unparsable (fault : Json.Fault)
  deriving DecidableEq

namespace SettingsError

/-- The wording for a reader. -/
def message : SettingsError → String
  | .invalidPlugin got => "plugin must be \"external\", got " ++ Text.quoted got
  | .missingField field => "Required field '" ++ field ++ "' is missing"
  | .intervalTooShort actual => "invoke_interval must be at least 1 second, got " ++ actual.inspect
  | .timeoutTooShort actual => "timeout must be at least 1 second, got " ++ actual.inspect
  | .timeoutNotBelowInterval timeout interval =>
    "timeout (" ++ timeout.inspect ++ ") must be less than invoke_interval (" ++
      interval.inspect ++ ")"
  | .maxAttemptsTooLow => "retryPolicy.maxAttempts must be at least 1"
  | .multiplierTooLow actual =>
    "retryPolicy.backoffMultiplier must be at least 1.0, got " ++ actual.text .positional
  | .errorThresholdTooLow => "healthCheck.errorThreshold must be at least 1"
  | .probeIntervalZero => "healthCheck.interval must be non-zero"
  | .incompleteCondition index field =>
    "condition[" ++ toString index ++ "]." ++ field ++ " is required"
  | .invalidDuration input reason => "Invalid duration " ++ Text.quoted input ++ ": " ++ reason
  | .unreadable path message => "Failed to read config file " ++ path ++ ": " ++ message
  | .unparsable fault => "Failed to parse configuration: " ++ fault.message

/-- A case with its named parts. -/
def case (name : String) (parts : List (String × String)) : String :=
  name ++ " \x7b " ++ ", ".intercalate (parts.map fun p => p.1 ++ ": " ++ p.2) ++ " \x7d"

/-- The case and its parts, for a report of the program that ends with the error. -/
def inspect : SettingsError → String
  | .invalidPlugin got => case "InvalidPlugin" [("got", Text.quoted got)]
  | .missingField field => case "MissingField" [("field", Text.quoted field)]
  | .intervalTooShort actual => case "IntervalTooShort" [("actual", actual.inspect)]
  | .timeoutTooShort actual => case "TimeoutTooShort" [("actual", actual.inspect)]
  | .timeoutNotBelowInterval timeout interval =>
    case "TimeoutNotBelowInterval" [("timeout", timeout.inspect), ("interval", interval.inspect)]
  | .maxAttemptsTooLow => "MaxAttemptsTooLow"
  | .multiplierTooLow actual => case "MultiplierTooLow" [("actual", actual.text .inspected)]
  | .errorThresholdTooLow => "ErrorThresholdTooLow"
  | .probeIntervalZero => "HealthIntervalZero"
  | .incompleteCondition index field =>
    case "IncompleteCondition" [("index", toString index), ("field", Text.quoted field)]
  | .invalidDuration input reason =>
    case "InvalidDuration" [("input", Text.quoted input), ("reason", Text.quoted reason)]
  | .unreadable path message =>
    case "Read" [("path", Text.quoted path), ("message", Text.quoted message)]
  | .unparsable fault => case "Parse" [("message", Text.quoted fault.message)]

end SettingsError

/-- No session could be opened. -/
inductive ConnectError where
  | endpointMissing (endpoint : String)
  | unreachable (endpoint message : String)
  | runtime (message : String)
  deriving DecidableEq

def ConnectError.message : ConnectError → String
  | .endpointMissing endpoint => "Endpoint " ++ endpoint ++ " does not exist"
  | .unreachable endpoint message => "Failed to connect to " ++ endpoint ++ ": " ++ message
  | .runtime message => "Transport runtime error: " ++ message

/-- The status code a call ends with. -/
inductive StatusCode where
  | ok
  | cancelled
  | unknown
  | invalidArgument
  | deadlineExceeded
  | notFound
  | alreadyExists
  | permissionDenied
  | resourceExhausted
  | failedPrecondition
  | aborted
  | outOfRange
  | unimplemented
  | internal
  | unavailable
  | dataLoss
  | unauthenticated
  deriving DecidableEq

namespace StatusCode

/-- All codes, in the order of their numbers. -/
def all : List StatusCode :=
  [.ok, .cancelled, .unknown, .invalidArgument, .deadlineExceeded, .notFound, .alreadyExists,
    .permissionDenied, .resourceExhausted, .failedPrecondition, .aborted, .outOfRange,
    .unimplemented, .internal, .unavailable, .dataLoss, .unauthenticated]

/-- The code of a number; a number without one is unknown. -/
def ofInt (n : Int) : StatusCode :=
  if n < 0 then .unknown else all[n.toNat]?.getD .unknown

def number (c : StatusCode) : Nat := all.idxOf c

def name : StatusCode → String
  | .ok => "Ok"
  | .cancelled => "Cancelled"
  | .unknown => "Unknown"
  | .invalidArgument => "InvalidArgument"
  | .deadlineExceeded => "DeadlineExceeded"
  | .notFound => "NotFound"
  | .alreadyExists => "AlreadyExists"
  | .permissionDenied => "PermissionDenied"
  | .resourceExhausted => "ResourceExhausted"
  | .failedPrecondition => "FailedPrecondition"
  | .aborted => "Aborted"
  | .outOfRange => "OutOfRange"
  | .unimplemented => "Unimplemented"
  | .internal => "Internal"
  | .unavailable => "Unavailable"
  | .dataLoss => "DataLoss"
  | .unauthenticated => "Unauthenticated"

end StatusCode

/-- The refusal of a call by the plugin: a code and its own words. -/
structure Refusal where
  code : StatusCode
  message : String
  deriving DecidableEq

/-- A call that failed. -/
structure CallError where
  operation : String
  code : StatusCode
  detail : String
  deriving DecidableEq

namespace CallError

/-- The call was refused. -/
def ofRefusal (operation : String) (r : Refusal) : CallError := ⟨operation, r.code, r.message⟩

/-- No answer came in time. -/
def deadlineExceeded (operation : String) (timeout : Duration) : CallError :=
  ⟨operation, .deadlineExceeded, "no response within " ++ toString timeout.millis ++ "ms"⟩

def message (e : CallError) : String :=
  e.operation ++ " failed (" ++ e.code.name ++ "): " ++ e.detail

end CallError

/-- Misuse of the registry. -/
inductive RegistryError where
  | duplicateMonitor (name : String)
  | unknownMonitor (name : String)
  deriving DecidableEq

def RegistryError.message : RegistryError → String
  | .duplicateMonitor name => "Monitor " ++ Text.quoted name ++ " is already registered"
  | .unknownMonitor name => "No monitor registered under " ++ Text.quoted name

/-- Everything a host can be told. -/
inductive RelayError where
  | settings (e : SettingsError)
  | connect (e : ConnectError)
  | call (e : CallError)
  | registry (e : RegistryError)
  | alreadyStarted (name : String)
  | spawn (worker message : String)
  | streamClosed
  | streamTimeout (millis : Nat)
  deriving DecidableEq

namespace RelayError

def message : RelayError → String
  | .settings e => "Invalid configuration: " ++ e.message
  | .connect e => "Connection error: " ++ e.message
  | .call e => "Call error: " ++ e.message
  | .registry e => "Registry error: " ++ e.message
  | .alreadyStarted name => "Monitor " ++ name ++ " was already started"
  | .spawn worker message => "Failed to spawn worker " ++ worker ++ ": " ++ message
  | .streamClosed => "Status stream closed"
  | .streamTimeout millis => "No status received within " ++ toString millis ++ "ms"

/-- The settings are at fault. -/
def isSettings : RelayError → Bool
  | .settings _ => true
  | _ => false

/-- Trying again later may succeed. -/
def isRetryable : RelayError → Bool
  | .connect _ | .streamTimeout _ => true
  | .call e => e.code = .unavailable || e.code = .deadlineExceeded
  | _ => false

end RelayError

end HealthRelay
