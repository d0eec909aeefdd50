import HealthRelay.Failure
import HealthRelay.Table

/-!
Plugins as the other end of a call: what they are asked and what they answer.

A plugin answers from scripts, one for each kind of call, and keeps what it was asked.
-/

namespace HealthRelay

variable {α : Type}

namespace Plugin

/-- A point in time as a plugin gives it: seconds since the first of January 1970 and nanoseconds,
neither of them checked. -/
structure Instant where
  seconds : Int
  nanos : Int
  deriving DecidableEq

/-- A notice as a plugin gives it. -/
structure Event where
  severity : Int
  timestamp : Option Instant
  reason : String
  message : String
  deriving DecidableEq

/-- A condition as a plugin gives it. -/
structure Condition where
  type : String
  status : Int
  transition : Option Instant
  reason : String
  message : String
  deriving DecidableEq

/-- The answer to a health check. -/
structure Report where
  source : String
  events : List Event
  conditions : List Condition
  deriving DecidableEq

/-- What a plugin says about itself. -/
structure Metadata where
  name : String
  version : String
  description : String
  supportedConditions : List String
  capabilities : Table String
  apiVersion : String
  deriving DecidableEq

/-- A call that reached the plugin. -/
inductive Request where
  | checkHealth (sequence : Int) (parameters : Table String)
  | getMetadata
  | stop
  deriving DecidableEq

/-- Answers given one after another, the last of them for ever. -/
structure Script (α : Type) where
  next : α
  later : List α

namespace Script

/-- The answers of a list; without any, the fallback. -/
def ofList (fallback : α) : List α → Script α
  | [] => ⟨fallback, []⟩
  | a :: rest => ⟨a, rest⟩

/-- The answers after the next one. -/
def advance (s : Script α) : Script α := ofList s.next s.later

end Script

def emptyReport : Report := ⟨"", [], []⟩

/-- The answer of a plugin that does not describe itself. -/
def undescribed : Refusal := ⟨.unimplemented, "GetMetadata is not implemented"⟩

end Plugin

open Plugin in
structure Plugin where
  health : Script (Except Refusal Report)
  metadata : Script (Except Refusal Metadata)
  stopping : Script (Except Refusal Unit)
  /-- The calls that reached it, the latest first. -/
  received : List Request

namespace Plugin

/-- A plugin with the given answers. -/
def ofAnswers (health : List (Except Refusal Report)) (metadata : List (Except Refusal Metadata))
    (stopping : List (Except Refusal Unit)) : Plugin where
  health := .ofList (.ok emptyReport) health
  metadata := .ofList (.error undescribed) metadata
  stopping := .ofList (.ok ()) stopping
  received := []

/-- A plugin that reports nothing. -/
def silent : Plugin := ofAnswers [] [] []

def checkHealth (sequence : Int) (parameters : Table String) (p : Plugin) :
    Except Refusal Report × Plugin :=
  (p.health.next,
    { p with
      health := p.health.advance
      received := .checkHealth sequence parameters :: p.received })

def getMetadata (p : Plugin) : Except Refusal Metadata × Plugin :=
  (p.metadata.next,
    { p with metadata := p.metadata.advance, received := .getMetadata :: p.received })

def stop (p : Plugin) : Except Refusal Unit × Plugin :=
  (p.stopping.next,
    { p with stopping := p.stopping.advance, received := .stop :: p.received })

end Plugin

end HealthRelay
