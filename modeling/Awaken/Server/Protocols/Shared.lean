import Awaken.Contract.AgentEvent
import Awaken.Lib.Bracket

namespace Awaken.Server.Protocols

open Awaken.Contract.Event

structure TerminalGuard where
  finished : Bool
deriving DecidableEq

def TerminalGuard.new : TerminalGuard := ⟨false⟩

def TerminalGuard.markFinished (_ : TerminalGuard) : TerminalGuard := ⟨true⟩

inductive ResumedOutcome where
  | error (message : String)
  | denied
  | success
deriving DecidableEq

variable {U J : Type}

def classifyResumedResult (json : JsonReader U J) (result : J) : ResumedOutcome :=
  match json.getString result "error" with
  | some message => .error message
  | none =>
    if (json.getField result "approved").bind json.asBool = some false then .denied
    else .success

section Blocks

open Awaken.Lib

inductive BlockKind where
  | text
  | reasoning
deriving DecidableEq

abbrev StreamMark := Mark BlockKind String

abbrev OpenBlocks := Blocks BlockKind String

def stopMark (kind : BlockKind) : Option String → List StreamMark
  | some id => [.stops kind id]
  | none => []

section Stops

variable {blocks : OpenBlocks}

lemma bracketed_stopMark (hended : blocks.ended = false) (kind : BlockKind) :
    blocks.Bracketed (stopMark kind (blocks.openId kind)) ∧
      blocks.advanceAll (stopMark kind (blocks.openId kind)) = blocks.setOpen kind none := by
  cases hid : blocks.openId kind with
  | none =>
    refine ⟨Blocks.bracketed_nil, Blocks.ext ?_ rfl⟩
    funext other
    rw [Blocks.openId_setOpen]
    split
    · next heq => exact heq ▸ hid
    · rfl
  | some id => exact ⟨Blocks.bracketed_cons.mpr ⟨⟨hended, hid⟩, Blocks.bracketed_nil⟩, rfl⟩

lemma bracketed_stops (hended : blocks.ended = false) :
    blocks.Bracketed (stopMark .text (blocks.openId .text) ++
        stopMark .reasoning (blocks.openId .reasoning)) ∧
      blocks.advanceAll (stopMark .text (blocks.openId .text) ++
        stopMark .reasoning (blocks.openId .reasoning)) = Blocks.closed := by
  obtain ⟨htext, hafter⟩ := bracketed_stopMark hended .text
  obtain ⟨hreasoning, hclosed⟩ :=
    @bracketed_stopMark (blocks.setOpen .text none) hended .reasoning
  rw [Blocks.bracketed_append, Blocks.advanceAll_append, hafter]
  refine ⟨⟨htext, hreasoning⟩, hclosed.trans (Blocks.ext ?_ hended)⟩
  funext kind
  cases kind <;> rfl

end Stops

end Blocks

end Awaken.Server.Protocols
