import Awaken.LoopRunner.Materialize

namespace Awaken.LoopRunner

open Awaken.Contract Awaken.Contract.MessageAppend

variable {J C : Type}

section Ids

def outputIds (record : Option (RunRecord J)) : List String :=
  ((record.bind (·.output)).map (·.messageIds)).getD []

def addId (ids : List String) (id : String) : List String :=
  if id ∈ ids then ids else ids ++ [id]

lemma foldl_addId {ids added : List String} (h : (added.filter (· ∉ ids)).Nodup) :
    added.foldl addId ids = ids ++ added.filter (· ∉ ids) := by
  induction added generalizing ids with
  | nil => simp
  | cons id added ih =>
    rw [List.foldl_cons, addId]
    by_cases hid : id ∈ ids
    · have hskip : (id :: added).filter (· ∉ ids) = added.filter (· ∉ ids) :=
        List.filter_cons_of_neg (by simp [hid])
      rw [if_pos hid, hskip]
      exact ih (hskip ▸ h)
    · have hkeep : (id :: added).filter (· ∉ ids) = id :: added.filter (· ∉ ids) :=
        List.filter_cons_of_pos (by simp [hid])
      rw [hkeep] at h
      obtain ⟨hnot, hrest⟩ := List.nodup_cons.mp h
      have hsame : added.filter (· ∉ ids ++ [id]) = added.filter (· ∉ ids) := by
        refine List.filter_congr (fun a ha => ?_)
        have hne : a ∉ ids → a ≠ id := by
          rintro hnew rfl
          exact hnot (List.mem_filter.mpr ⟨ha, decide_eq_true hnew⟩)
        simp only [List.mem_append, List.mem_singleton, decide_eq_decide]
        tauto
      rw [if_neg hid, ih (hsame ▸ hrest), hsame, hkeep, List.append_assoc, List.singleton_append]

lemma foldl_addId_nil {added ids : List String} (h : added.foldl addId ids = []) : ids = [] := by
  induction added generalizing ids with
  | nil => exact h
  | cons id added ih =>
    have hone := ih h
    unfold addId at hone
    split at hone
    · exact hone
    · exact (List.append_eq_nil_iff.mp hone).1

end Ids

lemma committedById_mem {committed : List (Message J C)} {id : String} {found : Nat × Message J C}
    (h : committedById committed id = some found) :
    found.2 ∈ committed ∧ found.2.id = some id := by
  obtain ⟨entry, hentry, rfl⟩ := Option.map_eq_some_iff.mp h
  have hid := List.find?_some hentry
  have hmem := List.mem_reverse.mp (List.mem_of_find?_eq_some hentry)
  exact ⟨List.fst_mem_of_mem_zipIdx hmem, of_decide_eq_true hid⟩

section Recorded

variable (identity : RunIdentity) (committed : List (Message J C)) (previousOutputIds : List String)
  (inputMessageCount : Nat)

/-- The message stands for a new output of the run. -/
def newOutputAt (index : Nat) (message : Message J C) : Bool :=
  IsNew committed message && index ≥ inputMessageCount && isRunOutputMessage message

def alreadyRecordedOutput (message : Message J C) : Bool :=
  message.producedByRunId = some identity.runId ||
    (message.id.bind (committedById committed)).any
      (·.2.producedByRunId = some identity.runId) ||
    message.id.any (· ∈ previousOutputIds)

def recordedAt (index : Nat) (message : Message J C) : Bool :=
  alreadyRecordedOutput identity committed previousOutputIds message ||
    newOutputAt committed inputMessageCount index message

lemma isRunOutputMessage_markIfRecorded (stepIndex : Option Nat) (recorded : Bool)
    (found : Option (Nat × Message J C)) (message : Message J C) :
    isRunOutputMessage (markIfRecorded identity stepIndex recorded found message) =
      isRunOutputMessage message := by
  unfold markIfRecorded
  split <;> rfl

lemma newOutputAt_mark (stepIndex : Option Nat) (recorded : Bool)
    (found : Option (Nat × Message J C)) (index : Nat) (message : Message J C) :
    newOutputAt committed inputMessageCount index
        (markIfRecorded identity stepIndex recorded found message) =
      newOutputAt committed inputMessageCount index message := by
  rw [newOutputAt, newOutputAt, IsNew, IsNew, markIfRecorded_id, isRunOutputMessage_markIfRecorded]

def markedMessage (stepIndex : Option Nat) (index : Nat) (message : Message J C) : Message J C :=
  markIfNew identity stepIndex (newOutputAt committed inputMessageCount index message)
    (markIfRecorded identity stepIndex
      (alreadyRecordedOutput identity committed previousOutputIds message)
      (message.id.bind (committedById committed)) message)

lemma markedMessage_id (stepIndex : Option Nat) (index : Nat) (message : Message J C) :
    (markedMessage identity committed previousOutputIds inputMessageCount stepIndex index message).id =
      message.id := by
  rw [markedMessage, markIfNew_id, markIfRecorded_id]

lemma materializeMessage_recorded (stepIndex : Option Nat) (result : Materialized J C) (index : Nat)
    (message : Message J C) :
    (materializeMessage identity committed previousOutputIds stepIndex inputMessageCount result index
        message).outputMessageIds =
      (if recordedAt identity committed previousOutputIds inputMessageCount index message then
        message.id.toList else []).foldl addId result.outputMessageIds ∧
    (materializeMessage identity committed previousOutputIds stepIndex inputMessageCount result index
        message).delta =
      if IsNew committed message then
        result.delta ++
          [markedMessage identity committed previousOutputIds inputMessageCount stepIndex index message]
      else result.delta := by
  have hnew := newOutputAt_mark identity committed inputMessageCount stepIndex
    (alreadyRecordedOutput identity committed previousOutputIds message)
    (message.id.bind (committedById committed)) index message
  unfold newOutputAt alreadyRecordedOutput IsNew at hnew
  rw [markIfRecorded_id] at hnew
  unfold materializeMessage recordedAt markedMessage alreadyRecordedOutput newOutputAt IsNew
  simp only [Option.isNone_map, markIfNew_id, markIfRecorded_id, hnew]
  refine ⟨?_, trivial⟩
  split
  · cases message.id with
    | none => simp
    | some id =>
      simp only [Option.toList_some, List.foldl_cons, List.foldl_nil, addId]
      by_cases hid : id ∈ result.outputMessageIds <;> simp [hid]
  · simp

def recordedFrom (index : Nat) (messages : List (Message J C)) : List String :=
  messageIds (((messages.zipIdx index).filter (fun entry =>
    recordedAt identity committed previousOutputIds inputMessageCount entry.2 entry.1)).map Prod.fst)

lemma recordedFrom_cons (index : Nat) (message : Message J C) (messages : List (Message J C)) :
    recordedFrom identity committed previousOutputIds inputMessageCount index (message :: messages) =
      (if recordedAt identity committed previousOutputIds inputMessageCount index message then
        message.id.toList else []) ++
      recordedFrom identity committed previousOutputIds inputMessageCount (index + 1) messages := by
  rw [recordedFrom, List.zipIdx_cons, List.filter_cons]
  split
  · cases hid : message.id <;> simp [recordedFrom, messageIds, hid]
  · rfl

lemma recordedFrom_append (index : Nat) (front messages : List (Message J C)) :
    recordedFrom identity committed previousOutputIds inputMessageCount index (front ++ messages) =
      recordedFrom identity committed previousOutputIds inputMessageCount index front ++
      recordedFrom identity committed previousOutputIds inputMessageCount (index + front.length)
        messages := by
  simp only [recordedFrom, messageIds, List.zipIdx_append, List.filter_append, List.map_append,
    List.filterMap_append]

lemma materializeFrom_outputMessageIds (stepIndex : Option Nat) (result : Materialized J C)
    (index : Nat) (messages : List (Message J C)) :
    (materializeFrom identity committed previousOutputIds stepIndex inputMessageCount result index
        messages).outputMessageIds =
      (recordedFrom identity committed previousOutputIds inputMessageCount index messages).foldl addId
        result.outputMessageIds := by
  induction messages generalizing result index with
  | nil => rfl
  | cons message messages ih =>
    rw [materializeFrom, ih, recordedFrom_cons, List.foldl_append]
    rw [(materializeMessage_recorded identity committed previousOutputIds inputMessageCount stepIndex
      result index message).1]

lemma materializeFrom_delta (stepIndex : Option Nat) (result : Materialized J C) (index : Nat)
    (messages : List (Message J C)) {appended : Message J C}
    (h : appended ∈ (materializeFrom identity committed previousOutputIds stepIndex inputMessageCount
      result index messages).delta) :
    appended ∈ result.delta ∨ ∃ i message, messages[i]? = some message ∧
      IsNew committed message = true ∧
      appended = markedMessage identity committed previousOutputIds inputMessageCount stepIndex
        (index + i) message := by
  induction messages generalizing result index with
  | nil => exact .inl h
  | cons message messages ih =>
    rw [materializeFrom] at h
    obtain h | ⟨i, later, hlater, hnew, happended⟩ := ih _ _ h
    · rw [(materializeMessage_recorded identity committed previousOutputIds inputMessageCount stepIndex
        result index message).2] at h
      split at h
      · rename_i hnew
        rcases List.mem_append.mp h with h | h
        · exact .inl h
        · exact .inr ⟨0, message, rfl, hnew, List.mem_singleton.mp h⟩
      · exact .inl h
    · refine .inr ⟨i + 1, later, hlater, hnew, ?_⟩
      rw [happended, Nat.add_right_comm, Nat.add_assoc]

variable {identity committed previousOutputIds inputMessageCount}

lemma markProducedBy_of_unmarked {message : Message J C} {runId : String} {stepIndex : Option Nat}
    (h : message.metadata = none) :
    (message.markProducedBy runId stepIndex).producedByRunId = some runId := by
  rw [Message.producedByRunId, Message.markProducedBy, h]
  rfl

lemma markedMessage_marked {stepIndex : Option Nat} {index : Nat} {message : Message J C}
    (h : (markedMessage identity committed previousOutputIds inputMessageCount stepIndex index
      message).producedByRunId = some identity.runId) :
    recordedAt identity committed previousOutputIds inputMessageCount index message = true := by
  cases hnew : newOutputAt committed inputMessageCount index message with
  | true => rw [recordedAt, hnew, Bool.or_true]
  | false =>
    cases halready : alreadyRecordedOutput identity committed previousOutputIds message with
    | true => rw [recordedAt, halready, Bool.true_or]
    | false =>
      rw [markedMessage, hnew, halready, markIfNew, markIfRecorded] at h
      simp only [Bool.false_and, Bool.false_eq_true, if_false] at h
      rw [alreadyRecordedOutput, h] at halready
      simp at halready

lemma markedMessage_of_new {stepIndex : Option Nat} {index : Nat} {message : Message J C}
    (hnew : newOutputAt committed inputMessageCount index message = true)
    (hmetadata : message.metadata = none) :
    (markedMessage identity committed previousOutputIds inputMessageCount stepIndex index
      message).producedByRunId = some identity.runId := by
  have hunfound : message.id.bind (committedById committed) = none := by
    rw [newOutputAt, Bool.and_eq_true, Bool.and_eq_true] at hnew
    exact Option.isNone_iff_eq_none.mp hnew.1.1
  rw [markedMessage, hnew, hunfound, markIfNew, if_pos rfl]
  unfold markIfRecorded markRecorded
  split
  · simp only [Option.bind_none, Option.filter_none, Option.none_or, Message.markProducedBy,
      Message.producedByRunId, hmetadata, Option.getD_none, Option.getD_some, Option.bind_some,
      MessageMetadata.default, Option.some_or]
  · exact markProducedBy_of_unmarked hmetadata

variable {messages : List (Message J C)} {previous : Option (RunRecord J)} {stepCount : Nat}

variable (identity committed inputMessageCount messages previous stepCount) in
def materialized : Materialized J C :=
  materializeFrom identity committed (outputIds previous)
    (if stepCount = 0 then none else some (stepCount - 1)) inputMessageCount
    ⟨outputIds previous, previousOutputSeqs previous, [], committed.length + 1⟩ 0 messages

lemma materializeCheckpointAppend_eq :
    materializeCheckpointAppend identity committed inputMessageCount messages previous stepCount =
      ((materialized identity committed inputMessageCount messages previous stepCount).delta,
        if (materialized identity committed inputMessageCount messages previous
          stepCount).outputMessageIds.isEmpty then previous.bind (·.output)
        else some ⟨identity.threadId,
          contiguousOutputRange
            (materialized identity committed inputMessageCount messages previous
              stepCount).outputMessageIds.length
            (materialized identity committed inputMessageCount messages previous
              stepCount).outputSeqs,
          (materialized identity committed inputMessageCount messages previous
            stepCount).outputMessageIds⟩) := rfl

theorem materializeCheckpointAppend_outputIds {record : RunRecord J}
    (h : record.output = (materializeCheckpointAppend identity committed inputMessageCount messages
      previous stepCount).2) :
    outputIds (some record) =
      (recordedFrom identity committed (outputIds previous) inputMessageCount 0 messages).foldl addId
        (outputIds previous) := by
  have hids : (materialized identity committed inputMessageCount messages previous
      stepCount).outputMessageIds = _ :=
    materializeFrom_outputMessageIds identity committed (outputIds previous) inputMessageCount _ _ 0
      messages
  rw [materializeCheckpointAppend_eq] at h
  dsimp only at h hids
  rw [← hids, outputIds, Option.bind_some, h]
  split
  · rename_i hempty
    rw [List.isEmpty_iff] at hempty
    rw [hempty] at hids ⊢
    exact foldl_addId_nil hids.symm
  · rfl

theorem mem_materializeCheckpointAppend {appended : Message J C}
    (h : appended ∈ (materializeCheckpointAppend identity committed inputMessageCount messages
      previous stepCount).1) :
    ∃ i message stepIndex, messages[i]? = some message ∧ IsNew committed message = true ∧
      appended = markedMessage identity committed (outputIds previous) inputMessageCount stepIndex i
        message := by
  rw [materializeCheckpointAppend_eq] at h
  obtain h | ⟨i, message, hmessage, hnew, happended⟩ := materializeFrom_delta identity committed
    (outputIds previous) inputMessageCount _ _ 0 messages h
  · cases h
  · exact ⟨i, message, _, hmessage, hnew, by rw [happended, Nat.zero_add]⟩

end Recorded

section Stamps

variable {isSummaryText : List C → Bool} {committed delta : List (Message J C)}
  {boundaryId : Option String}

lemma stampMark_same (mark : CompactionMark) (message : Message J C) :
    (stampMark isSummaryText mark message).id = message.id ∧
      (stampMark isSummaryText mark message).producedByRunId = message.producedByRunId := by
  unfold stampMark
  split
  · refine ⟨rfl, ?_⟩
    cases hmetadata : message.metadata <;> simp [Message.producedByRunId, hmetadata,
      MessageMetadata.default]
  · exact ⟨rfl, rfl⟩

lemma mem_stampCompactionMarks {stamped : Message J C}
    (h : stamped ∈ stampCompactionMarks isSummaryText delta committed boundaryId) :
    ∃ message ∈ delta, stamped.id = message.id ∧
      stamped.producedByRunId = message.producedByRunId := by
  unfold stampCompactionMarks at h
  split at h
  · exact ⟨stamped, h, rfl, rfl⟩
  · split at h
    · exact ⟨stamped, h, rfl, rfl⟩
    · split at h
      · exact ⟨stamped, h, rfl, rfl⟩
      · obtain ⟨message, hmessage, rfl⟩ := List.mem_map.mp h
        exact ⟨message, hmessage, stampMark_same _ message⟩

end Stamps

end Awaken.LoopRunner
