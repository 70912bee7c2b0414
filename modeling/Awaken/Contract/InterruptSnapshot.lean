import Awaken.Contract.Message
import Awaken.Lib.JsonValue

namespace Awaken.Contract

open Awaken.Lib

variable {N : Type}

structure JsonText (N : Type) where
  toText : Value N → String
  fromText : String → Option (Value N)
  nonempty : fromText "" = none

structure ReparsedJsonText (N : Type) extends JsonText N where
  inverse : ∀ {text value}, fromText text = some value → fromText (toText value) = some value

namespace Executor

def isNull : Value N → Bool
  | .null => true
  | _ => false

structure InFlightTool where
  id : String
  name : String
  partialArgs : String
deriving DecidableEq

structure Partial where
  id : String
  name : String
  argsJson : String
deriving DecidableEq

structure InterruptSnapshot (N : Type) where
  text : Option String
  completedToolCalls : List (ToolCall (Value N))
  inFlightTool : Option InFlightTool
  bytesReceived : Nat

inductive RecoveryPlan (N : Type) where
  | continueText (assistantPart : String)
  | synthesizeToolUse (completed : List (ToolCall (Value N)))
      (cancelledToolHint : Option InFlightTool)
  | truncateBeforeTool (assistantPart cancelledToolId cancelledToolName : String)
  | wholeRestart

inductive InterruptCause where
  | connectionReset
  | idleStall
  | goAway
  | provider5xxMidStream (status : Nat)
  | resumedFromCheckpoint
deriving DecidableEq

def InterruptCause.display : InterruptCause → String
  | connectionReset => "connection reset"
  | idleStall => "idle stall"
  | goAway => "goaway"
  | provider5xxMidStream status => s!"provider {status} mid-stream"
  | resumedFromCheckpoint => "resumed from checkpoint"

def Partial.complete (json : JsonText N) (self : Partial) : Option (ToolCall (Value N)) :=
  if self.name = "" then none
  else match json.fromText self.argsJson with
    | some arguments =>
      if !isNull arguments || self.argsJson = "" then some ⟨self.id, self.name, arguments⟩ else none
    | none => none

def Partial.inFlight (self : Partial) : InFlightTool :=
  if self.name = "" then ⟨self.id, "", self.argsJson⟩ else ⟨self.id, self.name, self.argsJson⟩

namespace InterruptSnapshot

/-- The loop of `fromPartials` with the calls that it has sorted. -/
def sortPartials (json : JsonText N) (completed : List (ToolCall (Value N)))
    (inFlight : Option InFlightTool) :
    List Partial → List (ToolCall (Value N)) × Option InFlightTool
  | [] => (completed, inFlight)
  | part :: partials =>
    match part.complete json with
    | some call => sortPartials json (completed ++ [call]) inFlight partials
    | none => sortPartials json completed (some part.inFlight) partials

def fromPartials (json : JsonText N) (text : Option String) (partials : List Partial)
    (bytesReceived : Nat) : InterruptSnapshot N :=
  let sorted := sortPartials json [] none partials
  ⟨text, sorted.1, sorted.2, bytesReceived⟩

def plan (self : InterruptSnapshot N) : RecoveryPlan N :=
  let text := self.text.getD ""
  if !self.completedToolCalls.isEmpty then
    .synthesizeToolUse self.completedToolCalls self.inFlightTool
  else if text ≠ "" then
    match self.inFlightTool with
    | some tool => .truncateBeforeTool text tool.id tool.name
    | none => .continueText text
  else .wholeRestart

end InterruptSnapshot

lemma Partial.inFlight_eq (self : Partial) : self.inFlight = ⟨self.id, self.name, self.argsJson⟩ := by
  unfold Partial.inFlight
  split
  · next hname => rw [hname]
  · rfl

def openPartials (json : JsonText N) (partials : List Partial) : List Partial :=
  partials.filter (fun part => (part.complete json).isNone)

namespace InterruptSnapshot

lemma sortPartials_eq (json : JsonText N) (completed : List (ToolCall (Value N)))
    (inFlight : Option InFlightTool) (partials : List Partial) :
    sortPartials json completed inFlight partials =
      (completed ++ partials.filterMap (Partial.complete json),
        ((openPartials json partials).getLast?.map Partial.inFlight).or inFlight) := by
  induction partials generalizing completed inFlight with
  | nil => simp [sortPartials, openPartials]
  | cons part partials ih =>
    cases hpart : part.complete json with
    | some call =>
      have hopen : openPartials json (part :: partials) = openPartials json partials := by
        simp [openPartials, hpart]
      rw [sortPartials, hpart, hopen, List.filterMap_cons_some hpart]
      change sortPartials json (completed ++ [call]) inFlight partials = _
      rw [ih, List.append_assoc, List.singleton_append]
    | none =>
      have hopen : openPartials json (part :: partials) = part :: openPartials json partials := by
        simp [openPartials, hpart]
      rw [sortPartials, hpart, hopen, List.filterMap_cons_none hpart, List.getLast?_cons]
      change sortPartials json completed (some part.inFlight) partials = _
      rw [ih]
      cases (openPartials json partials).getLast? <;> rfl

theorem fromPartials_eq (json : JsonText N) (text : Option String) (partials : List Partial)
    (bytesReceived : Nat) : fromPartials json text partials bytesReceived = {
      text := text
      completedToolCalls := partials.filterMap (Partial.complete json)
      inFlightTool := (openPartials json partials).getLast?.map Partial.inFlight
      bytesReceived := bytesReceived } := by
  rw [fromPartials, sortPartials_eq, List.nil_append, Option.or_none]

end InterruptSnapshot

end Executor

end Awaken.Contract
