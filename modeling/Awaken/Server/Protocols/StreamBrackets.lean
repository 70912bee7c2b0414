import Awaken.Server.Protocols.AiSdkBlocks
import Awaken.Server.Protocols.AgUiBlocks

namespace Awaken.Server.Protocols

open Awaken.Lib Awaken.Contract Awaken.Contract.Event Awaken.Contract.Lifecycle

variable {I U J : Type}

namespace AiSdk

def stream (json : JsonReader U J) (encoder : AiSdkEncoder) :
    List (AgentEvent I U J) → List (UIStreamEvent J)
  | [] => []
  | event :: events =>
    (encoder.onAgentEvent json event).2 ++ stream json (encoder.onAgentEvent json event).1 events

lemma marks_stream (json : JsonReader U J) (encoder : AiSdkEncoder)
    (events : List (AgentEvent I U J)) :
    (stream json encoder events).map UIStreamEvent.mark =
      Marked.output (emit json) encoder events := by
  induction events generalizing encoder with
  | nil => rfl
  | cons event events ih => rw [stream, List.map_append, ih, Marked.output, emit]

def start : Marked AiSdkEncoder BlockKind String := ⟨.new, .closed⟩

lemma tied_start : Tied start := ⟨rfl, rfl, rfl, fun _ => ⟨rfl, rfl⟩⟩

end AiSdk

namespace AgUi

def stream (json : JsonReader U J) (encoder : AgUiEncoder) :
    List (AgentEvent I U J) → List (Event J)
  | [] => []
  | event :: events =>
    (encoder.onAgentEvent json event).2 ++ stream json (encoder.onAgentEvent json event).1 events

lemma marks_stream (json : JsonReader U J) (encoder : AgUiEncoder)
    (events : List (AgentEvent I U J)) :
    (stream json encoder events).map Event.mark = Marked.output (emit json) encoder events := by
  induction events generalizing encoder with
  | nil => rfl
  | cons event events ih => rw [stream, List.map_append, ih, Marked.output, emit]

def start : Marked AgUiEncoder BlockKind String := ⟨.new, .closed⟩

lemma tied_start : Tied start := ⟨rfl, rfl, rfl, fun _ => ⟨rfl, rfl⟩⟩

end AgUi

/-- The AI SDK stream of a run is bracketed exactly when no run starts or fails while a block is
open and no reasoning continues under a new id. The AG-UI stream is so exactly when no run starts
or fails while a block is open and no block is continued or closed under another message id. -/
theorem streams_bracketed_iff (json : JsonReader U J) (events : List (AgentEvent I U J)) :
    (Blocks.closed.Bracketed ((AiSdk.stream json .new events).map AiSdk.UIStreamEvent.mark) ↔
      ∀ τ ∈ trace (Marked.step (AiSdk.emit json)) AiSdk.start events,
        AiSdk.Respects τ.pre.machine τ.label) ∧
    (Blocks.closed.Bracketed ((AgUi.stream json .new events).map AgUi.Event.mark) ↔
      ∀ τ ∈ trace (Marked.step (AgUi.emit json)) AgUi.start events, AgUi.Respects τ.pre τ.label) := by
  rw [AiSdk.marks_stream, AgUi.marks_stream]
  constructor
  · exact Marked.bracketed_iff (I := AiSdk.Tied)
      (C := fun state event => AiSdk.Respects state.machine event) (AiSdk.emit json)
      (fun _ event h => AiSdk.onAgentEvent_spec h event) AiSdk.tied_start events
  · exact Marked.bracketed_iff (I := AgUi.Tied) (C := AgUi.Respects) (AgUi.emit json)
      (fun _ event h => AgUi.onAgentEvent_spec h event) AgUi.tied_start events

section Examples

def unitJson : JsonReader Unit Unit where
  null := ()
  bool _ := ()
  string _ := ()
  object _ := ()
  render _ := "null"
  array _ := ()
  natural _ := ()
  usage _ := ()
  asObject _ := none
  asString _ := none
  asBool _ := none

def failedText : List (AgentEvent Unit Unit Unit) :=
  [.runStart "thread" "run" none none, .textDelta "partial", .error "provider unavailable" none]

theorem failedText_unbracketed :
    ¬ Blocks.closed.Bracketed ((AiSdk.stream unitJson .new failedText).map
      AiSdk.UIStreamEvent.mark) ∧
    ¬ Blocks.closed.Bracketed ((AgUi.stream unitJson .new failedText).map AgUi.Event.mark) := by
  constructor
  · intro h
    have hmarks : (AiSdk.stream unitJson .new failedText).map AiSdk.UIStreamEvent.mark =
        [.begins, .other, .starts .text "txt_0", .inside .text "txt_0", .ends] := rfl
    rw [hmarks] at h
    simp only [Blocks.bracketed_cons] at h
    have hend := h.2.2.2.2.1.2 .text
    cases hend
  · intro h
    have hmarks : (AgUi.stream unitJson .new failedText).map AgUi.Event.mark =
        [.begins, .starts .text "run", .inside .text "run", .ends] := rfl
    rw [hmarks] at h
    simp only [Blocks.bracketed_cons] at h
    have hend := h.2.2.2.1.2 .text
    cases hend

end Examples

end Awaken.Server.Protocols
