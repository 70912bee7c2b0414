import Awaken.Server.Protocols.Shared
import Awaken.Server.Protocols.AiSdkEncoder

namespace Awaken.Server.Protocols

open Awaken.Lib Awaken.Contract Awaken.Contract.Event Awaken.Contract.Lifecycle

variable {I U J : Type}

namespace AiSdk

def UIStreamEvent.mark : UIStreamEvent J → StreamMark
  | .messageStart _ => .begins
  | .textStart id => .starts .text id
  | .textDelta id _ => .inside .text id
  | .textEnd id => .stops .text id
  | .reasoningStart id => .starts .reasoning id
  | .reasoningDelta id _ => .inside .reasoning id
  | .reasoningEnd id => .stops .reasoning id
  | .finish _ | .error _ => .ends
  | _ => .other

variable (json : JsonReader U J)

def emit (encoder : AiSdkEncoder) (event : AgentEvent I U J) : AiSdkEncoder × List StreamMark :=
  ((encoder.onAgentEvent json event).1, (encoder.onAgentEvent json event).2.map UIStreamEvent.mark)

/-- The event leaves no block open behind it and opens none beside an open one. -/
def Respects (encoder : AiSdkEncoder) (event : AgentEvent I U J) : Prop :=
  encoder.guard.finished = false →
    match event with
    | .runStart .. | .error .. => encoder.textOpen = false ∧ encoder.openReasoningIds = []
    | .reasoningDelta _ =>
      ∀ id ∈ encoder.openReasoningIds, id = reasoningIdFor encoder.messageId none
    | _ => True

structure Tied (state : Marked AiSdkEncoder BlockKind String) : Prop where
  ended : state.blocks.ended = state.machine.guard.finished
  text : state.blocks.openId .text =
    if state.machine.textOpen then some state.machine.textId else none
  reasoning : state.machine.openReasoningIds = (state.blocks.openId .reasoning).toList
  finished : state.machine.guard.finished = true →
    state.machine.textOpen = false ∧ state.machine.openReasoningIds = []

section Steps

open AiSdkEncoder UIStreamEvent Blocks

variable {json : JsonReader U J} {state : Marked AiSdkEncoder BlockKind String}

lemma Tied.closed_iff (h : Tied state) : (∀ kind, state.blocks.openId kind = none) ↔
    state.machine.textOpen = false ∧ state.machine.openReasoningIds = [] := by
  have htext : state.blocks.openId .text = none ↔ state.machine.textOpen = false := by
    rw [h.text]
    cases state.machine.textOpen <;> simp
  have hreasoning : state.blocks.openId .reasoning = none ↔
      state.machine.openReasoningIds = [] := by
    rw [h.reasoning, Option.toList_eq_nil_iff]
  rw [← htext, ← hreasoning]
  constructor
  · exact fun hall => ⟨hall .text, hall .reasoning⟩
  · rintro ⟨ht, hr⟩ kind
    cases kind with
    | text => exact ht
    | reasoning => exact hr

lemma others_spec (h : Tied state) (hopen : state.machine.guard.finished = false)
    {encoder : AiSdkEncoder} {events : List (UIStreamEvent J)}
    (hevents : ∀ event ∈ events, event.mark = .other)
    (hsame : encoder.textOpen = state.machine.textOpen ∧ encoder.textId = state.machine.textId ∧
      encoder.guard = state.machine.guard ∧
      encoder.openReasoningIds = state.machine.openReasoningIds) :
    state.blocks.Bracketed (events.map mark) ∧
      Tied ⟨encoder, state.blocks.advanceAll (events.map mark)⟩ := by
  have hended : state.blocks.ended = false := h.ended.trans hopen
  have hmarks : ∀ m ∈ events.map mark, m = .other := by
    simpa using hevents
  obtain ⟨hbracketed, hadvance⟩ := bracketed_other hmarks hended
  obtain ⟨htext, hid, hguard, hreasoning⟩ := hsame
  refine ⟨hbracketed, ?_⟩
  rw [hadvance]
  exact ⟨h.ended.trans (by rw [hguard]), by rw [h.text, htext, hid], hreasoning.trans h.reasoning,
    by rw [hguard, htext, hreasoning]; exact h.finished⟩

lemma mark_singleton {event : UIStreamEvent J} (h : event.mark = .other) :
    ∀ other ∈ [event], other.mark = .other := by
  rintro other (_ | ⟨_, hmem⟩)
  · exact h
  · cases hmem

lemma mark_onToolCallDone (id : String) (result : ToolResult J) :
    ∀ event ∈ onToolCallDone json id result, event.mark = .other := by
  unfold onToolCallDone
  split
  · simp [mark]
  · split
    · split <;> simp [mark]
    · simp
  · simp [mark]

lemma mark_onToolCallResumed (targetId : String) (result : J) :
    ∀ event ∈ onToolCallResumed json targetId result, event.mark = .other := by
  unfold onToolCallResumed
  split <;> simp [mark]

lemma mark_dedicatedEvents (messageId activityType : String) (content : J) :
    ∀ event ∈ dedicatedEvents json messageId activityType content, event.mark = .other := by
  unfold dedicatedEvents
  split
  · simp
  · split
    · simp [mark]
    · split
      · simp [mark]
      · split <;> simp [mark]

lemma marks_closeBlocks {encoder : AiSdkEncoder} {blocks : OpenBlocks}
    (htext : blocks.openId .text = if encoder.textOpen then some encoder.textId else none)
    (hreasoning : encoder.openReasoningIds = (blocks.openId .reasoning).toList) :
    (closeBlocks (J := J) encoder).2.map mark =
      stopMark .text (blocks.openId .text) ++ stopMark .reasoning (blocks.openId .reasoning) := by
  have hsort : encoder.openReasoningIds.mergeSort (fun a b => a ≤ b) =
      encoder.openReasoningIds := by
    rw [hreasoning]
    cases blocks.openId .reasoning with
    | none => exact List.mergeSort_nil
    | some id => exact List.mergeSort_singleton id
  have hstop : (closeText (J := J) encoder).2.map mark = stopMark .text (blocks.openId .text) := by
    rw [htext, closeText]
    split <;> rfl
  have hids : (closeText (J := J) encoder).1.openReasoningIds = encoder.openReasoningIds := by
    unfold closeText
    split <;> rfl
  rw [closeBlocks, List.map_append, hstop, closeAllReasoning]
  simp only [hids, hsort, List.map_map]
  rw [hreasoning]
  cases blocks.openId .reasoning <;> rfl

lemma closeBlocks_machine (encoder : AiSdkEncoder) :
    (closeBlocks (J := J) encoder).1.textOpen = false ∧
      (closeBlocks (J := J) encoder).1.openReasoningIds = [] ∧
      (closeBlocks (J := J) encoder).1.guard = encoder.guard := by
  unfold closeBlocks closeText closeAllReasoning
  cases h : encoder.textOpen with
  | true => exact ⟨rfl, rfl, rfl⟩
  | false => exact ⟨h, rfl, rfl⟩

lemma runStart_spec (json : JsonReader U J) (h : Tied state) (guard : TerminalGuard) (hguard : guard.finished = false)
    (threadId runId : String) (parentRunId : Option String) (identity : Option I) :
    let next := encode json { state.machine with guard }
      (.runStart threadId runId parentRunId identity : AgentEvent I U J)
    (state.blocks.Bracketed (next.2.map mark) ↔
        state.machine.textOpen = false ∧ state.machine.openReasoningIds = []) ∧
      Tied ⟨next.1, state.blocks.advanceAll (next.2.map mark)⟩ := by
  intro next
  have hmarks : next.2.map mark = [.begins, .other] := rfl
  rw [hmarks]
  refine ⟨?_, ⟨hguard.symm, h.text, h.reasoning, fun hfinished => ?_⟩⟩
  · rw [bracketed_cons, ← h.closed_iff]
    exact ⟨fun hb => hb.1, fun hall => ⟨hall, bracketed_cons.mpr ⟨rfl, bracketed_nil⟩⟩⟩
  · cases hguard.symm.trans hfinished

def EncodesSpec (json : JsonReader U J) (state : Marked AiSdkEncoder BlockKind String)
    (event : AgentEvent I U J) : Prop :=
  (state.blocks.Bracketed ((encode json state.machine event).2.map mark) ↔
      Respects state.machine event) ∧
    (Respects state.machine event → Tied ⟨(encode json state.machine event).1,
      state.blocks.advanceAll ((encode json state.machine event).2.map mark)⟩)

lemma encodesSpec_of {event : AgentEvent I U J} (hrespects : Respects state.machine event)
    (hbracketed : state.blocks.Bracketed ((encode json state.machine event).2.map mark))
    (hnext : Tied ⟨(encode json state.machine event).1,
      state.blocks.advanceAll ((encode json state.machine event).2.map mark)⟩) :
    EncodesSpec json state event :=
  ⟨⟨fun _ => hrespects, fun _ => hbracketed⟩, fun _ => hnext⟩

lemma textDelta_spec (h : Tied state) (hopen : state.machine.guard.finished = false)
    (delta : String) : EncodesSpec json state (.textDelta delta : AgentEvent I U J) := by
  have hended : state.blocks.ended = false := h.ended.trans hopen
  have htext := h.text
  cases hopenText : state.machine.textOpen with
  | true =>
    rw [hopenText, if_pos rfl] at htext
    have hencode : encode json state.machine (.textDelta delta : AgentEvent I U J) =
        (state.machine, [.textDelta state.machine.textId delta]) := by
      simp only [encode, openText, hopenText, if_true]
      rfl
    refine encodesSpec_of (fun _ => trivial) ?_ ?_
    · rw [hencode]
      exact bracketed_cons.mpr ⟨⟨hended, htext⟩, bracketed_nil⟩
    · rw [hencode]
      exact h
  | false =>
    rw [hopenText, if_neg Bool.false_ne_true] at htext
    have hencode : encode json state.machine (.textDelta delta : AgentEvent I U J) =
        ({ state.machine with textOpen := true },
          [.textStart state.machine.textId, .textDelta state.machine.textId delta]) := by
      simp only [encode, openText, hopenText, Bool.false_eq_true, if_false]
      rfl
    refine encodesSpec_of (fun _ => trivial) ?_ ?_
    · rw [hencode]
      exact bracketed_cons.mpr ⟨⟨hended, htext⟩,
        bracketed_cons.mpr ⟨⟨hended, rfl⟩, bracketed_nil⟩⟩
    · rw [hencode]
      refine ⟨h.ended, rfl, h.reasoning, fun hfinished => ?_⟩
      cases hopen.symm.trans hfinished

lemma reasoningDelta_spec (h : Tied state) (hopen : state.machine.guard.finished = false)
    (delta : String) : EncodesSpec json state (.reasoningDelta delta : AgentEvent I U J) := by
  have hended : state.blocks.ended = false := h.ended.trans hopen
  have hids := h.reasoning
  let id := reasoningIdFor state.machine.messageId none
  have hrespects : Respects state.machine (.reasoningDelta delta : AgentEvent I U J) ↔
      ∀ other ∈ state.machine.openReasoningIds, other = id := ⟨fun hc => hc hopen, fun hc _ => hc⟩
  by_cases hmem : id ∈ state.machine.openReasoningIds
  · have hencode : encode json state.machine (.reasoningDelta delta : AgentEvent I U J) =
        (state.machine, [.reasoningDelta id delta]) := by
      simp only [encode, startReasoningIfNeeded]
      rw [if_pos hmem]
      rfl
    have hid : state.blocks.openId .reasoning = some id := by
      rw [hids] at hmem
      exact Option.mem_toList.mp hmem
    refine encodesSpec_of ?_ ?_ ?_
    · rw [hrespects, hids, hid]
      simp
    · rw [hencode]
      exact bracketed_cons.mpr ⟨⟨hended, hid⟩, bracketed_nil⟩
    · rw [hencode]
      exact h
  · have hencode : encode json state.machine (.reasoningDelta delta : AgentEvent I U J) =
        ({ state.machine with openReasoningIds := id :: state.machine.openReasoningIds },
          [.reasoningStart id, .reasoningDelta id delta]) := by
      simp only [encode, startReasoningIfNeeded]
      rw [if_neg hmem]
      rfl
    have hnone : Respects state.machine (.reasoningDelta delta : AgentEvent I U J) ↔
        state.blocks.openId .reasoning = none := by
      rw [hrespects, hids]
      cases hid : state.blocks.openId .reasoning with
      | none => simp
      | some other =>
        rw [hids, hid] at hmem
        simp only [Option.toList_some, List.mem_singleton, forall_eq, reduceCtorEq, iff_false]
        exact fun heq => hmem (by simp [heq])
    constructor
    · rw [hencode, hnone]
      constructor
      · intro hbracketed
        exact (bracketed_cons.mp hbracketed).1.2
      · intro hfree
        exact bracketed_cons.mpr ⟨⟨hended, hfree⟩,
          bracketed_cons.mpr ⟨⟨hended, rfl⟩, bracketed_nil⟩⟩
    · rw [hencode, hnone]
      intro hfree
      refine ⟨h.ended, h.text, ?_, fun hfinished => ?_⟩
      · change id :: state.machine.openReasoningIds = [id]
        rw [hids, hfree]
        rfl
      · cases hopen.symm.trans hfinished

lemma toolCallStart_spec (h : Tied state) (hopen : state.machine.guard.finished = false)
    (id name : String) : EncodesSpec json state (.toolCallStart id name : AgentEvent I U J) := by
  have hended : state.blocks.ended = false := h.ended.trans hopen
  have htext := h.text
  cases hopenText : state.machine.textOpen with
  | true =>
    rw [hopenText, if_pos rfl] at htext
    have hencode : encode json state.machine (.toolCallStart id name : AgentEvent I U J) =
        ({ state.machine with textOpen := false, textCounter := state.machine.textCounter + 1 },
          [.textEnd state.machine.textId, .toolInputStart id name]) := by
      simp only [encode, closeText, hopenText, if_true]
      rfl
    refine encodesSpec_of (fun _ => trivial) ?_ ?_
    · rw [hencode]
      exact bracketed_cons.mpr ⟨⟨hended, htext⟩, bracketed_cons.mpr ⟨hended, bracketed_nil⟩⟩
    · rw [hencode]
      refine ⟨h.ended, rfl, h.reasoning, fun hfinished => ?_⟩
      cases hopen.symm.trans hfinished
  | false =>
    have hencode : encode json state.machine (.toolCallStart id name : AgentEvent I U J) =
        (state.machine, [.toolInputStart id name]) := by
      simp only [encode, closeText, hopenText, Bool.false_eq_true, if_false]
      rfl
    refine encodesSpec_of (fun _ => trivial) ?_ ?_
    · rw [hencode]
      exact bracketed_cons.mpr ⟨hended, bracketed_nil⟩
    · rw [hencode]
      exact h

lemma closing_spec {encoder : AiSdkEncoder} {blocks : OpenBlocks} (hended : blocks.ended = false)
    (htext : blocks.openId .text = if encoder.textOpen then some encoder.textId else none)
    (hreasoning : encoder.openReasoningIds = (blocks.openId .reasoning).toList)
    {rest : List (UIStreamEvent J)} (hrest : Blocks.closed.Bracketed (rest.map mark))
    (hafter : Blocks.closed.advanceAll (rest.map mark) =
      { Blocks.closed with ended := encoder.guard.finished }) :
    blocks.Bracketed ((encoder.closeBlocks.2 ++ rest).map mark) ∧
      Tied ⟨(closeBlocks (J := J) encoder).1,
        blocks.advanceAll ((encoder.closeBlocks.2 ++ rest).map mark)⟩ := by
  obtain ⟨hstops, hclosed⟩ := bracketed_stops hended
  obtain ⟨htextOpen, hids, hguard⟩ := closeBlocks_machine (J := J) encoder
  rw [List.map_append, marks_closeBlocks htext hreasoning, advanceAll_append, hclosed, hafter,
    bracketed_append, hclosed]
  refine ⟨⟨hstops, hrest⟩, ⟨congrArg TerminalGuard.finished hguard.symm, ?_, hids,
    fun _ => ⟨htextOpen, hids⟩⟩⟩
  rw [htextOpen]
  rfl

lemma stepEnd_spec (h : Tied state) (hopen : state.machine.guard.finished = false) :
    EncodesSpec json state (.stepEnd : AgentEvent I U J) := by
  have hrest : Blocks.closed.Bracketed ([UIStreamEvent.finishStep (J := J)].map mark) :=
    bracketed_cons.mpr ⟨rfl, bracketed_nil⟩
  have hafter : Blocks.closed.advanceAll ([UIStreamEvent.finishStep (J := J)].map mark) =
      { Blocks.closed with ended := state.machine.guard.finished } := by
    rw [hopen]
    rfl
  obtain ⟨hbracketed, hnext⟩ :=
    closing_spec (h.ended.trans hopen) h.text h.reasoning hrest hafter
  exact encodesSpec_of (fun _ => trivial) hbracketed hnext

lemma runFinish_spec (h : Tied state) (hopen : state.machine.guard.finished = false)
    (threadId runId : String) (identity : Option I) (result : Option J)
    (termination : TerminationReason) :
    EncodesSpec json state
      (.runFinish threadId runId identity result termination : AgentEvent I U J) := by
  have hclosing : ∀ rest : List (UIStreamEvent J), Blocks.closed.Bracketed (rest.map mark) →
      Blocks.closed.advanceAll (rest.map mark) = { Blocks.closed with ended := true } →
      encode json state.machine (.runFinish threadId runId identity result termination) =
        ((closeBlocks (J := J) state.machine.markFinished).1,
          state.machine.markFinished.closeBlocks.2 ++ rest) →
      EncodesSpec json state
        (.runFinish threadId runId identity result termination : AgentEvent I U J) := by
    intro rest hrest hafter hencode
    have htext : state.blocks.openId .text = if state.machine.markFinished.textOpen then
        some state.machine.markFinished.textId else none := h.text
    obtain ⟨hbracketed, hnext⟩ :=
      closing_spec (h.ended.trans hopen) htext h.reasoning hrest hafter
    refine encodesSpec_of (fun _ => trivial) ?_ ?_
    · rw [hencode]
      exact hbracketed
    · rw [hencode]
      exact hnext
  by_cases hsuspended : termination = .suspended
  · refine hclosing [.finishStep, .finish (some "tool-calls")] ?_ rfl ?_
    · exact bracketed_cons.mpr ⟨rfl, bracketed_cons.mpr ⟨⟨rfl, fun _ => rfl⟩, bracketed_nil⟩⟩
    · simp only [encode, hsuspended, if_true]
  · refine hclosing [.finish (some (finishReason termination))] ?_ rfl ?_
    · exact bracketed_cons.mpr ⟨⟨rfl, fun _ => rfl⟩, bracketed_nil⟩
    · simp only [encode, hsuspended, if_false]

lemma error_spec (h : Tied state) (hopen : state.machine.guard.finished = false)
    (message : String) (code : Option String) :
    EncodesSpec json state (.error message code : AgentEvent I U J) := by
  have hrespects : Respects state.machine (.error message code : AgentEvent I U J) ↔
      ∀ kind, state.blocks.openId kind = none :=
    ⟨fun hc => h.closed_iff.mpr (hc hopen), fun hall _ => h.closed_iff.mp hall⟩
  constructor
  · rw [hrespects]
    constructor
    · exact fun hbracketed => (bracketed_cons.mp hbracketed).1.2
    · exact fun hall => bracketed_cons.mpr ⟨⟨h.ended.trans hopen, hall⟩, bracketed_nil⟩
  · rw [hrespects]
    intro hall
    exact ⟨rfl, h.text, h.reasoning, fun _ => h.closed_iff.mp hall⟩

lemma encode_spec (h : Tied state) (hopen : state.machine.guard.finished = false)
    (event : AgentEvent I U J) : EncodesSpec json state event := by
  have hother : ∀ (event : AgentEvent I U J),
      (∀ uiEvent ∈ (encode json state.machine event).2, uiEvent.mark = .other) →
      ((encode json state.machine event).1.textOpen = state.machine.textOpen ∧
        (encode json state.machine event).1.textId = state.machine.textId ∧
        (encode json state.machine event).1.guard = state.machine.guard ∧
        (encode json state.machine event).1.openReasoningIds =
          state.machine.openReasoningIds) →
      Respects state.machine event → EncodesSpec json state event := by
    intro event hevents hsame hrespects
    obtain ⟨hbracketed, hnext⟩ := others_spec h hopen hevents hsame
    exact encodesSpec_of hrespects hbracketed hnext
  cases event with
  | runStart threadId runId parentRunId identity =>
    obtain ⟨hiff, hnext⟩ :=
      runStart_spec json h state.machine.guard hopen threadId runId parentRunId identity
    exact ⟨hiff.trans ⟨fun hc _ => hc, fun hc => hc hopen⟩, fun _ => hnext⟩
  | runFinish threadId runId identity result termination => exact runFinish_spec h hopen _ _ _ _ _
  | textDelta delta => exact textDelta_spec h hopen delta
  | reasoningDelta delta => exact reasoningDelta_spec h hopen delta
  | toolCallStart id name => exact toolCallStart_spec h hopen id name
  | toolCallDone id messageId result outcome =>
    exact hother _ (mark_onToolCallDone id result) ⟨rfl, rfl, rfl, rfl⟩ (fun _ => trivial)
  | activitySnapshot messageId activityType content replace =>
    refine hother _ ?_ ⟨rfl, rfl, rfl, rfl⟩ (fun _ => trivial)
    intro event hmem
    rcases List.mem_append.mp hmem with hmem | hmem
    · exact mark_dedicatedEvents messageId activityType content event hmem
    · exact mark_singleton rfl event hmem
  | toolCallResumed targetId result =>
    exact hother _ (mark_onToolCallResumed targetId result) ⟨rfl, rfl, rfl, rfl⟩ (fun _ => trivial)
  | toolCallCancel | streamReset =>
    exact hother _ (fun _ hmem => by cases hmem) ⟨rfl, rfl, rfl, rfl⟩ (fun _ => trivial)
  | stepStart messageId =>
    refine hother _ (mark_singleton rfl) ?_ (fun _ => trivial)
    simp only [encode]
    split <;> exact ⟨rfl, rfl, rfl, rfl⟩
  | stepEnd => exact stepEnd_spec h hopen
  | error message code => exact error_spec h hopen message code
  | toolCallDelta | toolCallReady | toolCallStreamDelta | reasoningEncryptedValue
  | messagesSnapshot | activityDelta | inferenceComplete | stateSnapshot | stateDelta =>
    exact hother _ (mark_singleton rfl) ⟨rfl, rfl, rfl, rfl⟩ (fun _ => trivial)

lemma onAgentEvent_spec (h : Tied state) (event : AgentEvent I U J) :
    (state.blocks.Bracketed (emit json state.machine event).2 ↔ Respects state.machine event) ∧
      (Respects state.machine event → Tied (state.step (emit json) event)) := by
  cases hfinished : state.machine.guard.finished with
  | false =>
    have hsame : onAgentEvent json state.machine event = encode json state.machine event := by
      unfold onAgentEvent
      rw [hfinished, if_neg Bool.false_ne_true]
    simp only [emit, Marked.step, hsame]
    exact encode_spec h hfinished event
  | true =>
    have hnot : ¬ state.machine.guard.finished = false := by simp [hfinished]
    cases event with
    | runStart threadId runId parentRunId identity =>
      have hsame : onAgentEvent json state.machine
          (.runStart threadId runId parentRunId identity : AgentEvent I U J) =
          encode json { state.machine with guard := .new }
            (.runStart threadId runId parentRunId identity) := by
        unfold onAgentEvent
        rw [hfinished, if_pos rfl]
      obtain ⟨hiff, hnext⟩ :=
        runStart_spec json h .new rfl threadId runId parentRunId identity
      simp only [emit, Marked.step, hsame]
      exact ⟨⟨fun _ hopen => absurd hopen hnot, fun _ => hiff.mpr (h.finished hfinished)⟩,
        fun _ => hnext⟩
    | _ =>
      simp only [emit, Marked.step, onAgentEvent, hfinished, if_true]
      exact ⟨⟨fun _ hopen => absurd hopen hnot, fun _ => bracketed_nil⟩, fun _ => h⟩

end Steps

end AiSdk

end Awaken.Server.Protocols
