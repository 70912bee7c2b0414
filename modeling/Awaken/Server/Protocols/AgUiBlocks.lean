import Awaken.Server.Protocols.Shared
import Awaken.Server.Protocols.AgUiEncoder

namespace Awaken.Server.Protocols.AgUi

open Awaken.Lib Awaken.Contract Awaken.Contract.Event Awaken.Contract.Lifecycle

variable {I U J : Type}

def Event.mark : Event J → StreamMark
  | .runStarted .. => .begins
  | .textMessageStart messageId _ => .starts .text messageId
  | .textMessageContent messageId _ => .inside .text messageId
  | .textMessageEnd messageId => .stops .text messageId
  | .reasoningMessageStart messageId _ => .starts .reasoning messageId
  | .reasoningMessageContent messageId _ => .inside .reasoning messageId
  | .reasoningMessageEnd messageId => .stops .reasoning messageId
  | .runFinished .. | .runError .. => .ends
  | _ => .other

variable (json : JsonReader U J)

def emit (encoder : AgUiEncoder) (event : AgentEvent I U J) : AgUiEncoder × List StreamMark :=
  ((encoder.onAgentEvent json event).1, (encoder.onAgentEvent json event).2.map Event.mark)

def SameId (messageId : String) (openId : Option String) : Prop :=
  ∀ id, openId = some id → id = messageId

/-- The event leaves no block open behind it and continues or closes none under another id. -/
def Respects (state : Marked AgUiEncoder BlockKind String) (event : AgentEvent I U J) : Prop :=
  state.machine.guard.finished = false →
    match event with
    | .runStart .. | .error .. =>
      state.machine.textOpen = false ∧ state.machine.reasoningOpen = false
    | .textDelta _ => SameId state.machine.messageId (state.blocks.openId .text)
    | .reasoningDelta _ => SameId state.machine.messageId (state.blocks.openId .reasoning)
    | .toolCallStart .. | .stepEnd | .runFinish .. =>
      SameId state.machine.messageId (state.blocks.openId .text) ∧
        SameId state.machine.messageId (state.blocks.openId .reasoning)
    | _ => True

structure Tied (state : Marked AgUiEncoder BlockKind String) : Prop where
  ended : state.blocks.ended = state.machine.guard.finished
  text : state.machine.textOpen = (state.blocks.openId .text).isSome
  reasoning : state.machine.reasoningOpen = (state.blocks.openId .reasoning).isSome
  finished : state.machine.guard.finished = true →
    state.machine.textOpen = false ∧ state.machine.reasoningOpen = false

section Steps

open AgUiEncoder Event Blocks

variable {json : JsonReader U J} {state : Marked AgUiEncoder BlockKind String}

lemma Tied.closed_iff (h : Tied state) : (∀ kind, state.blocks.openId kind = none) ↔
    state.machine.textOpen = false ∧ state.machine.reasoningOpen = false := by
  rw [h.text, h.reasoning, Option.isSome_eq_false_iff, Option.isSome_eq_false_iff,
    Option.isNone_iff_eq_none, Option.isNone_iff_eq_none]
  constructor
  · exact fun hall => ⟨hall .text, hall .reasoning⟩
  · rintro ⟨ht, hr⟩ kind
    cases kind with
    | text => exact ht
    | reasoning => exact hr

lemma bracketed_stopAs {blocks : OpenBlocks} (hended : blocks.ended = false) (kind : BlockKind)
    (messageId : String) :
    blocks.Bracketed (stopMark kind ((blocks.openId kind).map (fun _ => messageId))) ↔
      SameId messageId (blocks.openId kind) := by
  cases hid : blocks.openId kind with
  | none =>
    refine ⟨fun _ id hsome => ?_, fun _ => bracketed_nil⟩
    cases hsome
  | some id =>
    constructor
    · intro hbracketed other hother
      cases hother
      have hallowed := (bracketed_cons.mp hbracketed).1.2
      exact Option.some.inj (hid.symm.trans hallowed)
    · intro hsame
      rw [← hsame id rfl]
      exact bracketed_cons.mpr ⟨⟨hended, hid⟩, bracketed_nil⟩

lemma map_of_sameId {messageId : String} {openId : Option String} (h : SameId messageId openId) :
    openId.map (fun _ => messageId) = openId := by
  cases openId with
  | none => rfl
  | some id => rw [Option.map_some, h id rfl]

lemma marks_closeBlocks {encoder : AgUiEncoder} {text reasoning : Option String}
    (htext : encoder.textOpen = text.isSome) (hreasoning : encoder.reasoningOpen = reasoning.isSome) :
    (closeBlocks (J := J) encoder).2.map mark =
      stopMark .text (text.map (fun _ => encoder.messageId)) ++
        stopMark .reasoning (reasoning.map (fun _ => encoder.messageId)) := by
  unfold closeBlocks closeText closeReasoning
  cases text <;> cases reasoning <;>
    simp only [Option.isSome_none, Option.isSome_some] at htext hreasoning <;>
    simp [htext, hreasoning, stopMark, mark]

lemma closeBlocks_machine (encoder : AgUiEncoder) :
    (closeBlocks (J := J) encoder).1.textOpen = false ∧
      (closeBlocks (J := J) encoder).1.reasoningOpen = false ∧
      (closeBlocks (J := J) encoder).1.guard = encoder.guard := by
  unfold closeBlocks closeText closeReasoning
  cases htext : encoder.textOpen <;> cases hreasoning : encoder.reasoningOpen <;>
    simp [htext, hreasoning]

lemma others_spec (h : Tied state) (hopen : state.machine.guard.finished = false)
    {encoder : AgUiEncoder} {events : List (Event J)}
    (hevents : ∀ event ∈ events, event.mark = .other)
    (hsame : encoder.textOpen = state.machine.textOpen ∧
      encoder.reasoningOpen = state.machine.reasoningOpen ∧ encoder.guard = state.machine.guard) :
    state.blocks.Bracketed (events.map mark) ∧
      Tied ⟨encoder, state.blocks.advanceAll (events.map mark)⟩ := by
  have hmarks : ∀ m ∈ events.map mark, m = .other := by
    simpa using hevents
  obtain ⟨hbracketed, hadvance⟩ := bracketed_other hmarks (h.ended.trans hopen)
  obtain ⟨htext, hreasoning, hguard⟩ := hsame
  refine ⟨hbracketed, ?_⟩
  rw [hadvance]
  exact ⟨h.ended.trans (by rw [hguard]), htext.trans h.text, hreasoning.trans h.reasoning,
    by rw [hguard, htext, hreasoning]; exact h.finished⟩

lemma mark_singleton {event : Event J} (h : event.mark = .other) :
    ∀ other ∈ [event], other.mark = .other := by
  rintro other (_ | ⟨_, hmem⟩)
  · exact h
  · cases hmem

lemma onToolCallDone_spec (json : JsonReader U J) (encoder : AgUiEncoder) (id messageId : String)
    (result : ToolResult J) :
    (∀ event ∈ (encoder.onToolCallDone json id messageId result).2, event.mark = .other) ∧
      (encoder.onToolCallDone json id messageId result).1.textOpen = encoder.textOpen ∧
      (encoder.onToolCallDone json id messageId result).1.reasoningOpen = encoder.reasoningOpen ∧
      (encoder.onToolCallDone json id messageId result).1.guard = encoder.guard := by
  unfold onToolCallDone
  split
  · exact ⟨mark_singleton rfl, rfl, rfl, rfl⟩
  · exact ⟨mark_singleton rfl, rfl, rfl, rfl⟩
  · split
    · exact ⟨by simp, rfl, rfl, rfl⟩
    · exact ⟨by simp, rfl, rfl, rfl⟩

lemma runStart_spec (json : JsonReader U J) (h : Tied state) (guard : TerminalGuard)
    (hguard : guard.finished = false) (threadId runId : String) (parentRunId : Option String)
    (identity : Option I) :
    let next := encode json { state.machine with guard }
      (.runStart threadId runId parentRunId identity : AgentEvent I U J)
    (state.blocks.Bracketed (next.2.map mark) ↔
        state.machine.textOpen = false ∧ state.machine.reasoningOpen = false) ∧
      Tied ⟨next.1, state.blocks.advanceAll (next.2.map mark)⟩ := by
  intro next
  have hmarks : next.2.map mark = [.begins] := rfl
  rw [hmarks]
  refine ⟨?_, ⟨hguard.symm, h.text, h.reasoning, fun hfinished => ?_⟩⟩
  · rw [bracketed_cons, ← h.closed_iff]
    exact ⟨fun hb => hb.1, fun hall => ⟨hall, bracketed_nil⟩⟩
  · cases hguard.symm.trans hfinished

def EncodesSpec (json : JsonReader U J) (state : Marked AgUiEncoder BlockKind String)
    (event : AgentEvent I U J) : Prop :=
  (state.blocks.Bracketed ((encode json state.machine event).2.map mark) ↔
      Respects state event) ∧
    (Respects state event → Tied ⟨(encode json state.machine event).1,
      state.blocks.advanceAll ((encode json state.machine event).2.map mark)⟩)

lemma bracketed_delta {blocks : OpenBlocks} (hended : blocks.ended = false) (kind : BlockKind)
    (messageId : String) :
    let marks := (if (blocks.openId kind).isSome then [] else [.starts kind messageId]) ++
      [.inside kind messageId]
    (blocks.Bracketed marks ↔ SameId messageId (blocks.openId kind)) ∧
      (SameId messageId (blocks.openId kind) →
        blocks.advanceAll marks = blocks.setOpen kind (some messageId)) := by
  intro marks
  cases hid : blocks.openId kind with
  | none =>
    have hmarks : marks = [.starts kind messageId, .inside kind messageId] := by simp [marks, hid]
    rw [hmarks]
    have hstarted : (blocks.advance (.starts kind messageId)).openId kind = some messageId :=
      if_pos rfl
    refine ⟨⟨fun _ id hsome => ?_, fun _ => ?_⟩, fun _ => rfl⟩
    · cases hsome
    · exact bracketed_cons.mpr ⟨⟨hended, hid⟩,
        bracketed_cons.mpr ⟨⟨hended, hstarted⟩, bracketed_nil⟩⟩
  | some id =>
    have hmarks : marks = [.inside kind messageId] := by simp [marks, hid]
    rw [hmarks]
    refine ⟨⟨fun hbracketed other hother => ?_, fun hsame => ?_⟩, fun hsame => ?_⟩
    · cases hother
      have hallowed := (bracketed_cons.mp hbracketed).1.2
      exact Option.some.inj (hid.symm.trans hallowed)
    · rw [hsame id rfl] at hid
      exact bracketed_cons.mpr ⟨⟨hended, hid⟩, bracketed_nil⟩
    · rw [hsame id rfl] at hid
      refine Blocks.ext ?_ rfl
      funext other
      rw [openId_setOpen]
      split
      · next heq => exact heq ▸ hid
      · rfl

lemma textDelta_spec (h : Tied state) (hopen : state.machine.guard.finished = false)
    (delta : String) : EncodesSpec json state (.textDelta delta : AgentEvent I U J) := by
  obtain ⟨hiff, hafter⟩ :=
    bracketed_delta (h.ended.trans hopen) .text state.machine.messageId
  have hmarks : (encode json state.machine (.textDelta delta : AgentEvent I U J)).2.map mark =
      (if (state.blocks.openId .text).isSome then [] else [.starts .text state.machine.messageId]) ++
        [.inside .text state.machine.messageId] := by
    simp only [encode, h.text]
    split <;> rfl
  refine ⟨?_, fun hrespects => ?_⟩
  · rw [hmarks, hiff]
    exact ⟨fun hc _ => hc, fun hc => hc hopen⟩
  · rw [hmarks, hafter (hrespects hopen)]
    refine ⟨h.ended, rfl, h.reasoning, fun hfinished => ?_⟩
    cases hopen.symm.trans hfinished

lemma reasoningDelta_spec (h : Tied state) (hopen : state.machine.guard.finished = false)
    (delta : String) : EncodesSpec json state (.reasoningDelta delta : AgentEvent I U J) := by
  obtain ⟨hiff, hafter⟩ :=
    bracketed_delta (h.ended.trans hopen) .reasoning state.machine.messageId
  have hmarks : (encode json state.machine (.reasoningDelta delta : AgentEvent I U J)).2.map mark =
      (if (state.blocks.openId .reasoning).isSome then []
        else [.starts .reasoning state.machine.messageId]) ++
        [.inside .reasoning state.machine.messageId] := by
    simp only [encode, h.reasoning]
    split <;> rfl
  refine ⟨?_, fun hrespects => ?_⟩
  · rw [hmarks, hiff]
    exact ⟨fun hc _ => hc, fun hc => hc hopen⟩
  · rw [hmarks, hafter (hrespects hopen)]
    refine ⟨h.ended, h.text, rfl, fun hfinished => ?_⟩
    cases hopen.symm.trans hfinished

lemma closing_spec {encoder : AgUiEncoder} {blocks : OpenBlocks} (hended : blocks.ended = false)
    (htext : encoder.textOpen = (blocks.openId .text).isSome)
    (hreasoning : encoder.reasoningOpen = (blocks.openId .reasoning).isSome)
    {rest : List (Event J)} (hrest : Blocks.closed.Bracketed (rest.map mark))
    (hafter : Blocks.closed.advanceAll (rest.map mark) =
      { Blocks.closed with ended := encoder.guard.finished }) :
    (blocks.Bracketed ((encoder.closeBlocks.2 ++ rest).map mark) ↔
        SameId encoder.messageId (blocks.openId .text) ∧
          SameId encoder.messageId (blocks.openId .reasoning)) ∧
      (SameId encoder.messageId (blocks.openId .text) ∧
          SameId encoder.messageId (blocks.openId .reasoning) →
        Tied ⟨(closeBlocks (J := J) encoder).1,
          blocks.advanceAll ((encoder.closeBlocks.2 ++ rest).map mark)⟩) := by
  obtain ⟨htextOpen, hreasoningOpen, hguard⟩ := closeBlocks_machine (J := J) encoder
  rw [List.map_append, marks_closeBlocks htext hreasoning]
  constructor
  · constructor
    · intro hbracketed
      have hstops := (bracketed_append.mp (bracketed_append.mp hbracketed).1)
      have hsame := (bracketed_stopAs hended .text _).mp hstops.1
      refine ⟨hsame, ?_⟩
      have hreasoning := hstops.2
      rw [map_of_sameId hsame, (bracketed_stopMark hended .text).2] at hreasoning
      exact (@bracketed_stopAs (blocks.setOpen .text none) hended .reasoning _).mp hreasoning
    · rintro ⟨hsame, hsame'⟩
      obtain ⟨hstops, hclosed⟩ := bracketed_stops hended
      rw [map_of_sameId hsame, map_of_sameId hsame', bracketed_append, hclosed]
      exact ⟨hstops, hrest⟩
  · rintro ⟨hsame, hsame'⟩
    rw [map_of_sameId hsame, map_of_sameId hsame', advanceAll_append, (bracketed_stops hended).2,
      hafter]
    exact ⟨congrArg TerminalGuard.finished hguard.symm, htextOpen, hreasoningOpen,
      fun _ => ⟨htextOpen, hreasoningOpen⟩⟩

lemma toolCallStart_spec (h : Tied state) (hopen : state.machine.guard.finished = false)
    (id name : String) : EncodesSpec json state (.toolCallStart id name : AgentEvent I U J) := by
  let rest : List (Event J) :=
    [.toolCallStart id name (some (closeBlocks (J := J) state.machine).1.messageId)]
  have hrest : Blocks.closed.Bracketed (rest.map mark) := bracketed_cons.mpr ⟨rfl, bracketed_nil⟩
  have hafter : Blocks.closed.advanceAll (rest.map mark) =
      { Blocks.closed with ended := state.machine.guard.finished } := by
    rw [hopen]
    rfl
  obtain ⟨hiff, hnext⟩ := closing_spec (h.ended.trans hopen) h.text h.reasoning hrest hafter
  exact ⟨hiff.trans ⟨fun hc _ => hc, fun hc => hc hopen⟩, fun hc => hnext (hc hopen)⟩

lemma stepEnd_spec (h : Tied state) (hopen : state.machine.guard.finished = false) :
    EncodesSpec json state (.stepEnd : AgentEvent I U J) := by
  let rest : List (Event J) :=
    [.stepFinished s!"step_{(closeBlocks (J := J) state.machine).1.stepCounter}"]
  have hrest : Blocks.closed.Bracketed (rest.map mark) := bracketed_cons.mpr ⟨rfl, bracketed_nil⟩
  have hafter : Blocks.closed.advanceAll (rest.map mark) =
      { Blocks.closed with ended := state.machine.guard.finished } := by
    rw [hopen]
    rfl
  obtain ⟨hiff, hnext⟩ := closing_spec (h.ended.trans hopen) h.text h.reasoning hrest hafter
  exact ⟨hiff.trans ⟨fun hc _ => hc, fun hc => hc hopen⟩, fun hc => hnext (hc hopen)⟩

lemma mark_runEnding (encoder : AgUiEncoder) (threadId runId : String) (result : Option J)
    (termination : TerminationReason) :
    (encoder.runEnding threadId runId result termination).mark = .ends := by
  cases termination <;> rfl

lemma runFinish_spec (h : Tied state) (hopen : state.machine.guard.finished = false)
    (threadId runId : String) (identity : Option I) (result : Option J)
    (termination : TerminationReason) :
    EncodesSpec json state
      (.runFinish threadId runId identity result termination : AgentEvent I U J) := by
  let rest : List (Event J) := [(closeBlocks (J := J) state.machine.markFinished).1.runEnding
    threadId runId result termination]
  have hmarks : rest.map mark = [.ends] := congrArg (· :: []) (mark_runEnding _ _ _ _ _)
  have hrest : Blocks.closed.Bracketed (rest.map mark) := by
    rw [hmarks]
    exact bracketed_cons.mpr ⟨⟨rfl, fun _ => rfl⟩, bracketed_nil⟩
  have hafter : Blocks.closed.advanceAll (rest.map mark) =
      { Blocks.closed with ended := state.machine.markFinished.guard.finished } := by
    rw [hmarks]
    rfl
  have htext : state.machine.markFinished.textOpen = (state.blocks.openId .text).isSome := h.text
  obtain ⟨hiff, hnext⟩ := closing_spec (h.ended.trans hopen) htext h.reasoning hrest hafter
  exact ⟨hiff.trans ⟨fun hc _ => hc, fun hc => hc hopen⟩, fun hc => hnext (hc hopen)⟩

lemma error_spec (h : Tied state) (hopen : state.machine.guard.finished = false)
    (message : String) (code : Option String) :
    EncodesSpec json state (.error message code : AgentEvent I U J) := by
  have hrespects : Respects state (.error message code : AgentEvent I U J) ↔
      ∀ kind, state.blocks.openId kind = none :=
    ⟨fun hc => h.closed_iff.mpr (hc hopen), fun hall _ => h.closed_iff.mp hall⟩
  constructor
  · rw [hrespects]
    constructor
    · exact fun hbracketed => (bracketed_cons.mp hbracketed).1.2
    · exact fun hall => bracketed_cons.mpr ⟨⟨h.ended.trans hopen, hall⟩, bracketed_nil⟩
  · rw [hrespects]
    intro hall
    exact ⟨rfl, h.text, h.reasoning, fun _ => h.closed_iff.mp hall⟩

lemma encode_spec (h : Tied state) (hopen : state.machine.guard.finished = false)
    (event : AgentEvent I U J) : EncodesSpec json state event := by
  have hother : ∀ (event : AgentEvent I U J),
      (∀ uiEvent ∈ (encode json state.machine event).2, uiEvent.mark = .other) →
      ((encode json state.machine event).1.textOpen = state.machine.textOpen ∧
        (encode json state.machine event).1.reasoningOpen = state.machine.reasoningOpen ∧
        (encode json state.machine event).1.guard = state.machine.guard) →
      Respects state event → EncodesSpec json state event := by
    intro event hevents hsame hrespects
    obtain ⟨hbracketed, hnext⟩ := others_spec h hopen hevents hsame
    exact ⟨⟨fun _ => hrespects, fun _ => hbracketed⟩, fun _ => hnext⟩
  cases event with
  | runStart threadId runId parentRunId identity =>
    obtain ⟨hiff, hnext⟩ :=
      runStart_spec json h state.machine.guard hopen threadId runId parentRunId identity
    exact ⟨hiff.trans ⟨fun hc _ => hc, fun hc => hc hopen⟩, fun _ => hnext⟩
  | runFinish threadId runId identity result termination => exact runFinish_spec h hopen _ _ _ _ _
  | textDelta delta => exact textDelta_spec h hopen delta
  | reasoningDelta delta => exact reasoningDelta_spec h hopen delta
  | toolCallStart id name => exact toolCallStart_spec h hopen id name
  | toolCallDone id messageId result outcome =>
    obtain ⟨hmarks, hsame⟩ := onToolCallDone_spec json state.machine id messageId result
    exact hother _ hmarks hsame (fun _ => trivial)
  | stepEnd => exact stepEnd_spec h hopen
  | error message code => exact error_spec h hopen message code
  | inferenceComplete | toolCallCancel | streamReset =>
    exact hother _ (fun _ hmem => by cases hmem) ⟨rfl, rfl, rfl⟩ (fun _ => trivial)
  | toolCallDelta | toolCallReady | toolCallStreamDelta | reasoningEncryptedValue
  | messagesSnapshot | activitySnapshot | activityDelta | toolCallResumed | stepStart
  | stateSnapshot | stateDelta =>
    exact hother _ (mark_singleton rfl) ⟨rfl, rfl, rfl⟩ (fun _ => trivial)

lemma onAgentEvent_spec (h : Tied state) (event : AgentEvent I U J) :
    (state.blocks.Bracketed (emit json state.machine event).2 ↔ Respects state event) ∧
      (Respects state event → Tied (state.step (emit json) event)) := by
  cases hfinished : state.machine.guard.finished with
  | false =>
    have hsame : onAgentEvent json state.machine event = encode json state.machine event := by
      unfold onAgentEvent
      rw [hfinished, if_neg Bool.false_ne_true]
    simp only [emit, Marked.step, hsame]
    exact encode_spec h hfinished event
  | true =>
    have hnot : ¬ state.machine.guard.finished = false := by simp [hfinished]
    cases event with
    | runStart threadId runId parentRunId identity =>
      have hsame : onAgentEvent json state.machine
          (.runStart threadId runId parentRunId identity : AgentEvent I U J) =
          encode json { state.machine with guard := .new }
            (.runStart threadId runId parentRunId identity) := by
        unfold onAgentEvent
        rw [hfinished, if_pos rfl]
      obtain ⟨hiff, hnext⟩ :=
        runStart_spec json h .new rfl threadId runId parentRunId identity
      simp only [emit, Marked.step, hsame]
      exact ⟨⟨fun _ hopen => absurd hopen hnot, fun _ => hiff.mpr (h.finished hfinished)⟩,
        fun _ => hnext⟩
    | _ =>
      simp only [emit, Marked.step, onAgentEvent, hfinished, if_true]
      exact ⟨⟨fun _ hopen => absurd hopen hnot, fun _ => bracketed_nil⟩, fun _ => h⟩

end Steps

end Awaken.Server.Protocols.AgUi
