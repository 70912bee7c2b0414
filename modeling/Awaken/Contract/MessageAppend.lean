import Mathlib.Data.List.Basic
import Mathlib.Tactic.Lemma
import Awaken.Lib.Text
import Awaken.Contract.Lifecycle
import Awaken.Contract.Message

namespace Awaken.Contract.MessageAppend

open Awaken.Lib.Text Awaken.Contract.Storage
open Awaken.Agent.LoopState (Role)

variable {J C : Type}

def invalid {α : Type} (text : String) : Except StorageError α := .error (.validation text)

def validateToolCallId (messageId : String) (message : Message J C) : Except StorageError Unit :=
  if message.role = .tool then
    match message.toolCallId with
    | none => invalid s!"tool message '{messageId}' must carry tool_call_id"
    | some toolCallId =>
      if isBlank toolCallId then
        invalid s!"tool message '{messageId}' tool_call_id must not be empty"
      else .ok ()
  else if message.toolCallId.isSome then
    invalid s!"non-tool message '{messageId}' must not carry tool_call_id"
  else .ok ()

def validateToolCalls (messageId : String) (ids : List String) :
    List (ToolCall J) → Except StorageError Unit
  | [] => .ok ()
  | call :: calls =>
    if isBlank call.id then
      invalid s!"assistant message '{messageId}' tool call id must not be empty"
    else if isBlank call.name then
      invalid s!"assistant message '{messageId}' tool call name must not be empty"
    else if call.id ∈ ids then
      invalid s!"assistant message '{messageId}' contains duplicate tool call id '{call.id}'"
    else validateToolCalls messageId (call.id :: ids) calls

def validateMessageShape (message : Message J C) (context : String) : Except StorageError Unit :=
  match message.id with
  | none => invalid s!"{context} message id must not be missing"
  | some messageId =>
    if isBlank messageId then invalid s!"{context} message id must not be empty"
    else do
      validateToolCallId messageId message
      if message.role ≠ .assistant ∧ message.toolCalls.isSome then
        invalid s!"non-assistant message '{messageId}' must not carry tool_calls"
      else validateToolCalls messageId [] (message.toolCalls.getD [])

def validateCompactionMark (messageId : String) (mark : CompactionMark) (summarySeq : Nat) :
    Except StorageError Unit :=
  if mark.fromSeq = 0 ∨ mark.fromSeq > mark.toSeq then
    invalid s!"compaction mark on message '{messageId}' must be 1-based and non-empty"
  else if mark.toSeq ≥ summarySeq then
    invalid (s!"compaction mark on summary message '{messageId}' must not cover the summary seq " ++
      s!"{summarySeq}")
  else .ok ()

def validateMessageForAppend (message : Message J C) (summarySeq : Nat) :
    Except StorageError Unit := do
  validateMessageShape message "append delta"
  match message.metadata.bind (·.compaction) with
  | some mark => validateCompactionMark (message.id.getD "") mark summarySeq
  | none => .ok ()

/-- The loop over the delta: `summarySeq` is the number its first message will get, `deltaIds` are
the ids before it. -/
def validateDelta (existingIds : List String) (summarySeq : Nat) (deltaIds : List String) :
    List (Message J C) → Except StorageError Unit
  | [] => .ok ()
  | message :: delta => do
    validateMessageForAppend message summarySeq
    let messageId := message.id.getD ""
    if messageId ∈ existingIds then
      invalid s!"append delta contains already committed message id '{messageId}'"
    else if messageId ∈ deltaIds then
      invalid s!"append delta contains duplicate message id '{messageId}'"
    else validateDelta existingIds (summarySeq + 1) (messageId :: deltaIds) delta

def messageIds (messages : List (Message J C)) : List String := messages.filterMap (·.id)

def validateAppendOnlyDelta (existing delta : List (Message J C)) : Except StorageError Unit :=
  validateDelta (messageIds existing) (existing.length + 1) [] delta

def validateCommittedMessages (messages : List (Message J C)) : Except StorageError Unit :=
  validateAppendOnlyDelta [] messages

def mergeCheckpointAppendMessages (existing delta : List (Message J C)) :
    Except StorageError (List (Message J C)) := do
  validateAppendOnlyDelta existing delta
  return existing ++ delta

section Accepted

lemma bind_ok {α β : Type} {x : Except StorageError α} {f : α → Except StorageError β} {b : β}
    (h : (x >>= f) = .ok b) : ∃ a, x = .ok a ∧ f a = .ok b := by
  cases x with
  | error e => cases h
  | ok a => exact ⟨a, rfl, h⟩

lemma validateMessageShape_ok {message : Message J C} {context : String}
    (h : validateMessageShape message context = .ok ()) : message.id.isSome := by
  cases hid : message.id with
  | some messageId => rfl
  | none =>
    rw [validateMessageShape, hid] at h
    cases h

lemma validateMessageForAppend_ok {message : Message J C} {summarySeq : Nat}
    (h : validateMessageForAppend message summarySeq = .ok ()) : message.id.isSome := by
  obtain ⟨_, hshape, -⟩ := bind_ok h
  exact validateMessageShape_ok hshape

lemma messageIds_cons {message : Message J C} (h : message.id.isSome) (delta : List (Message J C)) :
    messageIds (message :: delta) = message.id.getD "" :: messageIds delta := by
  obtain ⟨messageId, hid⟩ := Option.isSome_iff_exists.mp h
  simp [messageIds, hid]

lemma validateDelta_cons {existingIds deltaIds : List String} {summarySeq : Nat}
    {message : Message J C} {delta : List (Message J C)} :
    validateDelta existingIds summarySeq deltaIds (message :: delta) = .ok () ↔
      validateMessageForAppend message summarySeq = .ok () ∧
        message.id.getD "" ∉ existingIds ∧ message.id.getD "" ∉ deltaIds ∧
        validateDelta existingIds (summarySeq + 1) (message.id.getD "" :: deltaIds) delta =
          .ok () := by
  rw [validateDelta]
  cases hm : validateMessageForAppend message summarySeq with
  | error e =>
    constructor
    · intro h
      cases h
    · rintro ⟨h, -⟩
      cases h
  | ok u =>
    change (if _ then _ else _) = _ ↔ _
    split
    · rename_i hin
      constructor
      · intro h
        cases h
      · rintro ⟨-, h, -⟩
        exact absurd hin h
    · rename_i hex
      split
      · rename_i hin
        constructor
        · intro h
          cases h
        · rintro ⟨-, -, h, -⟩
          exact absurd hin h
      · rename_i hde
        exact ⟨fun h => ⟨rfl, hex, hde, h⟩, fun h => h.2.2.2⟩

lemma validateDelta_ids {existingIds deltaIds : List String} {summarySeq : Nat}
    {delta : List (Message J C)}
    (h : validateDelta existingIds summarySeq deltaIds delta = .ok ()) :
    (∀ m ∈ delta, m.id.isSome) ∧ (messageIds delta).Nodup ∧
      ∀ messageId ∈ messageIds delta, messageId ∉ existingIds ∧ messageId ∉ deltaIds := by
  induction delta generalizing summarySeq deltaIds with
  | nil => simp [messageIds]
  | cons message delta ih =>
    obtain ⟨hm, hex, hde, hrest⟩ := (validateDelta_cons).mp h
    obtain ⟨hsome, hnodup, hnew⟩ := ih hrest
    have hid := validateMessageForAppend_ok hm
    rw [messageIds_cons hid]
    refine ⟨?_, ?_, ?_⟩
    · intro m hmem
      rcases List.mem_cons.mp hmem with rfl | hmem
      · exact hid
      · exact hsome m hmem
    · refine List.nodup_cons.mpr ⟨?_, hnodup⟩
      intro hin
      exact (hnew _ hin).2 List.mem_cons_self
    · intro messageId hmem
      rcases List.mem_cons.mp hmem with rfl | hmem
      · exact ⟨hex, hde⟩
      · obtain ⟨h₁, h₂⟩ := hnew messageId hmem
        exact ⟨h₁, fun hin => h₂ (List.mem_cons_of_mem _ hin)⟩

lemma validateDelta_append {existingIds deltaIds : List String} {summarySeq : Nat}
    {first second : List (Message J C)} :
    validateDelta existingIds summarySeq deltaIds (first ++ second) = .ok () ↔
      validateDelta existingIds summarySeq deltaIds first = .ok () ∧
        validateDelta existingIds (summarySeq + first.length)
          ((messageIds first).reverse ++ deltaIds) second = .ok () := by
  induction first generalizing summarySeq deltaIds with
  | nil => simp [messageIds, validateDelta]
  | cons message first ih =>
    rw [List.cons_append, validateDelta_cons, validateDelta_cons, ih]
    have hlen : summarySeq + 1 + first.length = summarySeq + (message :: first).length := by
      simp only [List.length_cons]
      omega
    rw [hlen]
    constructor
    · rintro ⟨hm, hex, hde, hfirst, hsecond⟩
      refine ⟨⟨hm, hex, hde, hfirst⟩, ?_⟩
      rw [messageIds_cons (validateMessageForAppend_ok hm), List.reverse_cons, List.append_assoc]
      exact hsecond
    · rintro ⟨⟨hm, hex, hde, hfirst⟩, hsecond⟩
      rw [messageIds_cons (validateMessageForAppend_ok hm), List.reverse_cons,
        List.append_assoc] at hsecond
      exact ⟨hm, hex, hde, hfirst, hsecond⟩

lemma validateDelta_congr {existingIds deltaIds existingIds' deltaIds' : List String}
    {summarySeq : Nat} {delta : List (Message J C)}
    (hids : ∀ x, (x ∈ existingIds ∨ x ∈ deltaIds) ↔ (x ∈ existingIds' ∨ x ∈ deltaIds')) :
    validateDelta existingIds summarySeq deltaIds delta = .ok () ↔
      validateDelta existingIds' summarySeq deltaIds' delta = .ok () := by
  induction delta generalizing summarySeq deltaIds deltaIds' with
  | nil => simp [validateDelta]
  | cons message delta ih =>
    have hids' : ∀ x, (x ∈ existingIds ∨ x ∈ message.id.getD "" :: deltaIds) ↔
        (x ∈ existingIds' ∨ x ∈ message.id.getD "" :: deltaIds') := by
      intro x
      have := hids x
      simp only [List.mem_cons]
      tauto
    have hid := hids (message.id.getD "")
    rw [validateDelta_cons, validateDelta_cons, ih hids']
    tauto

theorem validateCommittedMessages_append {log delta : List (Message J C)} :
    validateCommittedMessages (log ++ delta) = .ok () ↔
      validateCommittedMessages log = .ok () ∧ validateAppendOnlyDelta log delta = .ok () := by
  have hstart : ([] : List (Message J C)).length + 1 + log.length = log.length + 1 := by
    simp only [List.length_nil]
    omega
  rw [validateCommittedMessages, validateAppendOnlyDelta, validateDelta_append, hstart,
    validateCommittedMessages, validateAppendOnlyDelta, validateAppendOnlyDelta]
  refine and_congr_right (fun _ => validateDelta_congr ?_)
  intro x
  simp [messageIds]

theorem validateCommittedMessages_ids {log : List (Message J C)}
    (h : validateCommittedMessages log = .ok ()) :
    (∀ m ∈ log, m.id.isSome) ∧ (messageIds log).Nodup :=
  ⟨(validateDelta_ids h).1, (validateDelta_ids h).2.1⟩

end Accepted

end Awaken.Contract.MessageAppend
