import Mathlib.Data.List.Dedup
import Mathlib.Data.List.Sort
import Awaken.Contract.RunRecord
import Awaken.Contract.MessageAppend

namespace Awaken.Contract.MessageSeqRange

def new (fromSeq toSeq : Nat) : Option MessageSeqRange :=
  if fromSeq > 0 ∧ fromSeq ≤ toSeq then some ⟨fromSeq, toSeq⟩ else none

def len (self : MessageSeqRange) : Nat := self.toSeq - self.fromSeq + 1

def seqs (self : MessageSeqRange) : List Nat := List.range' self.fromSeq self.len

end Awaken.Contract.MessageSeqRange

namespace Awaken.LoopRunner

open Awaken.Contract Awaken.Contract.MessageAppend
open Awaken.Agent.LoopState (Role Visibility)

variable {J C : Type}

structure RunIdentity where
  threadId : String
  runId : String

section Range

def previousOutputSeqs (previous : Option (RunRecord J)) : List Nat :=
  match previous.bind (·.output) with
  | none => []
  | some output =>
    match output.range with
    | none => []
    | some range => if range.len ≠ output.messageIds.length then [] else range.seqs

def contiguousOutputRange (messageIdsLen : Nat) (seqs : List Nat) : Option MessageSeqRange :=
  if messageIdsLen = 0 ∨ seqs.length ≠ messageIdsLen then none
  else
    let seqs := (seqs.insertionSort (· ≤ ·)).dedup
    if seqs.length ≠ messageIdsLen then none
    else do
      let fromSeq ← seqs.head?
      let toSeq ← seqs.getLast?
      if toSeq - fromSeq + 1 = messageIdsLen then MessageSeqRange.new fromSeq toSeq else none

end Range

section Materialize

def isRunOutputMessage (message : Message J C) : Bool :=
  message.visibility = .all && (message.role = .assistant || message.role = .tool)

def committedById (committed : List (Message J C)) (id : String) : Option (Nat × Message J C) :=
  ((committed.zipIdx 1).reverse.find? (fun entry => entry.1.id = some id)).map Prod.swap

structure Materialized (J C : Type) where
  outputMessageIds : List String
  outputSeqs : List Nat
  delta : List (Message J C)
  nextAppendSeq : Nat

variable (identity : RunIdentity) (committed : List (Message J C)) (previousOutputIds : List String)
  (stepIndex : Option Nat) (inputMessageCount : Nat)

def markRecorded (found : Option (Nat × Message J C)) (message : Message J C) : Message J C :=
  let metadata := (found.bind (·.2.metadata)).filter (·.runId = some identity.runId)
  { message with metadata := metadata.or message.metadata }.markProducedBy identity.runId stepIndex

def markIfRecorded (recorded : Bool) (found : Option (Nat × Message J C)) (message : Message J C) :
    Message J C :=
  if recorded && message.producedByRunId ≠ some identity.runId then
    markRecorded identity stepIndex found message
  else message

def markIfNew (newOutput : Bool) (message : Message J C) : Message J C :=
  if newOutput then message.markProducedBy identity.runId stepIndex else message

def materializeMessage (self : Materialized J C) (index : Nat) (message : Message J C) :
    Materialized J C :=
  let found := message.id.bind (committedById committed)
  let committedSeq := found.map Prod.fst
  let seq := committedSeq.getD self.nextAppendSeq
  let committedOutput := found.any (·.2.producedByRunId = some identity.runId)
  let previousOutput := message.id.any (· ∈ previousOutputIds)
  let alreadyRecordedOutput :=
    message.producedByRunId = some identity.runId || committedOutput || previousOutput
  let message := markIfRecorded identity stepIndex alreadyRecordedOutput found message
  let newOutput := committedSeq.isNone && index ≥ inputMessageCount && isRunOutputMessage message
  let message := markIfNew identity stepIndex newOutput message
  let recorded :=
    if alreadyRecordedOutput || newOutput then
      message.id.toList.filter (· ∉ self.outputMessageIds)
    else []
  { outputMessageIds := self.outputMessageIds ++ recorded
    outputSeqs := self.outputSeqs ++ recorded.map fun _ => seq
    delta := if committedSeq.isNone then self.delta ++ [message] else self.delta
    nextAppendSeq := if committedSeq.isNone then self.nextAppendSeq + 1 else self.nextAppendSeq }

def materializeFrom (self : Materialized J C) (index : Nat) : List (Message J C) → Materialized J C
  | [] => self
  | message :: messages =>
    materializeFrom
      (materializeMessage identity committed previousOutputIds stepIndex inputMessageCount self index
        message)
      (index + 1) messages

def materializeCheckpointAppend (messages : List (Message J C)) (previous : Option (RunRecord J))
    (stepCount : Nat) : List (Message J C) × Option RunMessageOutput :=
  let previousOutput := previous.bind (·.output)
  let messageIds := (previousOutput.map (·.messageIds)).getD []
  let stepIndex := if stepCount = 0 then none else some (stepCount - 1)
  let result := materializeFrom identity committed messageIds stepIndex inputMessageCount
    ⟨messageIds, previousOutputSeqs previous, [], committed.length + 1⟩ 0 messages
  let output :=
    if result.outputMessageIds.isEmpty then previousOutput
    else some ⟨identity.threadId,
      contiguousOutputRange result.outputMessageIds.length result.outputSeqs,
      result.outputMessageIds⟩
  (result.delta, output)

end Materialize

section Compaction

variable (isSummaryText : List C → Bool)

def isCompactionSummary (message : Message J C) : Bool :=
  message.role = .system && message.visibility = .internal && isSummaryText message.content

def stampMark (mark : CompactionMark) (message : Message J C) : Message J C :=
  if isCompactionSummary isSummaryText message &&
      (message.metadata.bind (·.compaction)).isNone then
    { message with metadata := some { message.metadata.getD .default with compaction := some mark } }
  else message

def stampCompactionMarks (delta committed : List (Message J C)) (boundaryId : Option String) :
    List (Message J C) :=
  if !delta.any (isCompactionSummary isSummaryText) then delta
  else
    match boundaryId.filter (· ≠ "") with
    | none => delta
    | some boundaryId =>
      match committed.findIdx? (fun message => message.id = some boundaryId) with
      | none => delta
      | some index => delta.map (stampMark isSummaryText ⟨1, index + 1⟩)

end Compaction

section Numbers

def idAt (log : List (Message J C)) (seq : Nat) : Option String := (log[seq - 1]?).bind (·.id)

lemma idAt_append_left {log delta : List (Message J C)} {seq : Nat} {id : String}
    (h : idAt log seq = some id) : idAt (log ++ delta) seq = some id := by
  obtain ⟨message, hmessage, hid⟩ := Option.bind_eq_some_iff.mp h
  have hlt : seq - 1 < log.length := (List.getElem?_eq_some_iff.mp hmessage).1
  rw [idAt, List.getElem?_append_left hlt, hmessage]
  exact hid

lemma idAt_append_next (log : List (Message J C)) (message : Message J C) :
    idAt (log ++ [message]) (log.length + 1) = message.id := by
  simp [idAt]

lemma map_idAt_append {log delta : List (Message J C)} {seqs : List Nat} {ids : List String}
    (h : seqs.map (idAt log) = ids.map some) : seqs.map (idAt (log ++ delta)) = ids.map some := by
  induction seqs generalizing ids with
  | nil => exact h
  | cons seq seqs ih =>
    cases ids with
    | nil => cases h
    | cons id ids =>
      obtain ⟨hseq, hseqs⟩ := List.cons.inj h
      rw [List.map_cons, List.map_cons, idAt_append_left hseq, ih hseqs]

lemma map_idAt_append_of_perm {log delta : List (Message J C)} {seqs : List Nat}
    {ids : List String} (h : (seqs.map (idAt log)).Perm (ids.map some)) :
    (seqs.map (idAt (log ++ delta))).Perm (ids.map some) := by
  have hsame : seqs.map (idAt (log ++ delta)) = seqs.map (idAt log) := by
    refine List.map_congr_left (fun seq hseq => ?_)
    obtain ⟨id, -, hid⟩ := List.mem_map.mp (h.subset (List.mem_map_of_mem hseq))
    rw [← hid, idAt_append_left hid.symm]
  rwa [hsame]

lemma committedById_some {committed : List (Message J C)} {id : String} {found : Nat × Message J C}
    (h : committedById committed id = some found) : idAt committed found.1 = some id := by
  obtain ⟨⟨message, seq⟩, hentry, rfl⟩ := Option.map_eq_some_iff.mp h
  have hid := List.find?_some hentry
  have hmem := List.mem_reverse.mp (List.mem_of_find?_eq_some hentry)
  obtain ⟨-, hget⟩ := List.mk_mem_zipIdx_iff_le_and_getElem?_sub.mp hmem
  rw [Prod.fst_swap, idAt, hget]
  exact of_decide_eq_true hid

lemma committedById_isNone {committed : List (Message J C)} {id : String} :
    committedById committed id = none ↔ id ∉ messageIds committed := by
  rw [committedById, Option.map_eq_none_iff, List.find?_eq_none]
  constructor
  · intro h hmem
    obtain ⟨message, hmessage, hid⟩ := List.mem_filterMap.mp hmem
    obtain ⟨i, hi, rfl⟩ := List.getElem_of_mem hmessage
    have hentry : (committed[i], i + 1) ∈ committed.zipIdx 1 := by
      rw [List.mk_mem_zipIdx_iff_le_and_getElem?_sub]
      exact ⟨Nat.le_add_left 1 i, List.getElem?_eq_getElem hi⟩
    exact h _ (List.mem_reverse.mpr hentry) (decide_eq_true hid)
  · rintro h ⟨message, seq⟩ hmem hid
    have hmessage := List.fst_mem_of_mem_zipIdx (List.mem_reverse.mp hmem)
    exact h (List.mem_filterMap.mpr ⟨message, hmessage, of_decide_eq_true hid⟩)

end Numbers

section Contiguous

lemma first_le {sorted : List Nat} (h : sorted.Pairwise (· ≤ ·)) {a x : Nat}
    (ha : sorted.head? = some a) (hx : x ∈ sorted) : a ≤ x := by
  obtain ⟨rest, rfl⟩ := List.head?_eq_some_iff.mp ha
  rcases List.mem_cons.mp hx with rfl | hx
  · exact le_rfl
  · exact (List.pairwise_cons.mp h).1 x hx

lemma le_last {sorted : List Nat} (h : sorted.Pairwise (· ≤ ·)) {b x : Nat}
    (hb : sorted.getLast? = some b) (hx : x ∈ sorted) : x ≤ b := by
  obtain ⟨front, rfl⟩ := List.getLast?_eq_some_iff.mp hb
  rcases List.mem_append.mp hx with hx | hx
  · exact (List.pairwise_append.mp h).2.2 x hx b (List.mem_singleton_self b)
  · rw [List.mem_singleton.mp hx]

lemma contiguousOutputRange_some {n : Nat} {seqs : List Nat} {range : MessageSeqRange}
    (h : contiguousOutputRange n seqs = some range) : seqs.length = n ∧ seqs.Perm range.seqs := by
  unfold contiguousOutputRange at h
  split at h
  · cases h
  · rename_i hne
    have hlen : seqs.length = n := not_not.mp (not_or.mp hne).2
    have hperm := List.perm_insertionSort (· ≤ ·) seqs
    have hsorted := List.pairwise_insertionSort (· ≤ ·) seqs
    generalize seqs.insertionSort (· ≤ ·) = sorted at h hperm hsorted
    dsimp only at h
    split at h
    · cases h
    · rename_i hdedup
      have hsame : sorted.dedup = sorted :=
        (List.dedup_sublist sorted).eq_of_length (by rw [hperm.length_eq]; omega)
      have hnodup : sorted.Nodup := hsame ▸ List.nodup_dedup sorted
      rw [hsame] at h
      obtain ⟨fromSeq, hfrom, h⟩ := Option.bind_eq_some_iff.mp h
      obtain ⟨toSeq, hto, h⟩ := Option.bind_eq_some_iff.mp h
      split at h
      · rename_i hcount
        unfold MessageSeqRange.new at h
        split at h
        · obtain rfl := Option.some.inj h
          refine ⟨hlen, hperm.symm.trans ?_⟩
          refine (List.subperm_of_subset hnodup fun x hx => ?_).perm_of_length_le ?_
          · have hle := first_le hsorted hfrom hx
            have hge := le_last hsorted hto hx
            simp only [MessageSeqRange.seqs, MessageSeqRange.len, List.mem_range'_1]
            omega
          · simp only [MessageSeqRange.seqs, MessageSeqRange.len, List.length_range']
            rw [hperm.length_eq]
            omega
        · cases h
      · cases h

end Contiguous

section Spec

variable {identity : RunIdentity} {committed : List (Message J C)} {previousOutputIds : List String}
  {stepIndex : Option Nat} {inputMessageCount : Nat}

def IsNew (committed : List (Message J C)) (message : Message J C) : Bool :=
  (message.id.bind (committedById committed)).isNone

lemma markIfRecorded_id (recorded : Bool) (found : Option (Nat × Message J C))
    (message : Message J C) :
    (markIfRecorded identity stepIndex recorded found message).id = message.id := by
  unfold markIfRecorded
  split <;> rfl

lemma markIfNew_id (newOutput : Bool) (message : Message J C) :
    (markIfNew identity stepIndex newOutput message).id = message.id := by
  unfold markIfNew
  split <;> rfl

/-- What the loop has collected from the messages before: the ids of its outputs beside the numbers
that these messages have once the delta is appended. -/
structure Collected (committed : List (Message J C)) (previousIds : List String)
    (previousSeqs : List Nat) (done : List (Message J C)) (result : Materialized J C) : Prop where
  next : result.nextAppendSeq = committed.length + result.delta.length + 1
  outputs : ∃ ids seqs, result.outputMessageIds = previousIds ++ ids ∧
    result.outputSeqs = previousSeqs ++ seqs ∧
    seqs.map (idAt (committed ++ result.delta)) = ids.map some
  delta : result.delta.map (·.id) = (done.filter (IsNew committed)).map (·.id)

lemma map_idAt_const {log : List (Message J C)} {seq : Nat} {recorded : List String}
    (h : ∀ id ∈ recorded, idAt log seq = some id) :
    (recorded.map fun _ => seq).map (idAt log) = recorded.map some := by
  rw [List.map_map]
  exact List.map_congr_left h

variable (identity committed previousOutputIds stepIndex inputMessageCount)

lemma materializeMessage_eq (result : Materialized J C) (index : Nat) (message : Message J C) :
    ∃ (marked : Message J C) (recorded : List String), marked.id = message.id ∧
      (∀ id ∈ recorded, message.id = some id) ∧
      materializeMessage identity committed previousOutputIds stepIndex inputMessageCount result index
        message =
        { outputMessageIds := result.outputMessageIds ++ recorded
          outputSeqs := result.outputSeqs ++ recorded.map fun _ =>
            ((message.id.bind (committedById committed)).map Prod.fst).getD result.nextAppendSeq
          delta := if IsNew committed message then result.delta ++ [marked] else result.delta
          nextAppendSeq :=
            if IsNew committed message then result.nextAppendSeq + 1 else result.nextAppendSeq } := by
  unfold materializeMessage IsNew
  simp only [Option.isNone_map]
  refine ⟨_, _, ?_, fun id hid => ?_, rfl⟩
  · rw [markIfNew_id, markIfRecorded_id]
  · rw [markIfNew_id, markIfRecorded_id] at hid
    split at hid
    · exact Option.mem_toList.mp (List.mem_filter.mp hid).1
    · cases hid

variable {committed}

lemma collected_materializeMessage {previousIds : List String} {previousSeqs : List Nat}
    {done : List (Message J C)} {result : Materialized J C}
    (h : Collected committed previousIds previousSeqs done result) (index : Nat)
    (message : Message J C) :
    Collected committed previousIds previousSeqs (done ++ [message])
      (materializeMessage identity committed previousOutputIds stepIndex inputMessageCount result index
        message) := by
  obtain ⟨marked, recorded, hmarked, hrecorded, heq⟩ := materializeMessage_eq identity committed
    previousOutputIds stepIndex inputMessageCount result index message
  obtain ⟨ids, seqs, hids, hseqs, hpairs⟩ := h.outputs
  rw [heq]
  cases hfound : message.id.bind (committedById committed) with
  | some found =>
    have hnew : IsNew committed message = false := by rw [IsNew, hfound]; rfl
    have hat : ∀ id ∈ recorded, idAt (committed ++ result.delta) found.1 = some id := by
      intro id hid
      rw [hrecorded id hid, Option.bind_some] at hfound
      exact idAt_append_left (committedById_some hfound)
    refine ⟨by simp [hnew, h.next], ⟨ids ++ recorded, seqs ++ recorded.map fun _ => found.1, ?_, ?_, ?_⟩, ?_⟩
    · simp [hids]
    · simp [hseqs]
    · simp only [hnew, Bool.false_eq_true, if_false, List.map_append, hpairs]
      rw [map_idAt_const hat]
    · simp [hnew, h.delta]
  | none =>
    have hnew : IsNew committed message = true := by rw [IsNew, hfound]; rfl
    have hat : ∀ id ∈ recorded,
        idAt (committed ++ (result.delta ++ [marked])) result.nextAppendSeq = some id := by
      intro id hid
      rw [← List.append_assoc, h.next, ← List.length_append, idAt_append_next, hmarked]
      exact hrecorded id hid
    refine ⟨by simp [hnew, h.next]; omega,
      ⟨ids ++ recorded, seqs ++ recorded.map fun _ => result.nextAppendSeq, ?_, ?_, ?_⟩, ?_⟩
    · simp [hids]
    · simp [hseqs]
    · simp only [hnew, if_true, List.map_append]
      rw [map_idAt_const hat, ← List.append_assoc, map_idAt_append hpairs]
    · simp [hnew, h.delta, hmarked]

lemma collected_materializeFrom {previousIds : List String} {previousSeqs : List Nat}
    {done : List (Message J C)} {result : Materialized J C}
    (h : Collected committed previousIds previousSeqs done result) (index : Nat)
    (messages : List (Message J C)) :
    Collected committed previousIds previousSeqs (done ++ messages)
      (materializeFrom identity committed previousOutputIds stepIndex inputMessageCount result index
        messages) := by
  induction messages generalizing result index done with
  | nil => rwa [List.append_nil]
  | cons message messages ih =>
    rw [List.append_cons]
    exact ih (collected_materializeMessage identity previousOutputIds stepIndex inputMessageCount h
      index message) (index + 1)

def OutputMatches (log : List (Message J C)) (output : RunMessageOutput) : Prop :=
  ∀ range, output.range = some range →
    (range.seqs.map (idAt log)).Perm (output.messageIds.map some)

lemma OutputMatches.append {log : List (Message J C)} {output : RunMessageOutput}
    (h : OutputMatches log output) (delta : List (Message J C)) :
    OutputMatches (log ++ delta) output :=
  fun range hrange => map_idAt_append_of_perm (h range hrange)

lemma idAt_congr {log log' : List (Message J C)} (h : log.map (·.id) = log'.map (·.id)) :
    idAt log = idAt log' := by
  have hjoin : ∀ (l : List (Message J C)) seq, idAt l seq = ((l.map (·.id))[seq - 1]?).join := by
    intro l seq
    rw [List.getElem?_map, idAt]
    cases l[seq - 1]? <;> rfl
  funext seq
  rw [hjoin, hjoin, h]

lemma previousOutputSeqs_perm {previous : Option (RunRecord J)}
    (hprevious : ∀ output, previous.bind (·.output) = some output → OutputMatches committed output)
    (hlen : (previousOutputSeqs previous).length =
      ((previous.bind (·.output)).elim [] (·.messageIds)).length) :
    ((previousOutputSeqs previous).map (idAt committed)).Perm
      (((previous.bind (·.output)).elim [] (·.messageIds)).map some) := by
  have hnil : ∀ {ids : List String}, ([] : List Nat).length = ids.length →
      (([] : List Nat).map (idAt committed)).Perm (ids.map some) := by
    intro ids hl
    rw [List.eq_nil_of_length_eq_zero hl.symm]
    exact .nil
  unfold previousOutputSeqs at hlen ⊢
  cases houtput : previous.bind (·.output) with
  | none => exact .nil
  | some output =>
    simp only [houtput, Option.elim_some] at hlen ⊢
    cases hrange : output.range with
    | none =>
      rw [hrange] at hlen
      exact hnil hlen
    | some range =>
      simp only [hrange] at hlen ⊢
      split
      · rename_i hne
        rw [if_pos hne] at hlen
        exact hnil hlen
      · exact hprevious output houtput range hrange

variable {identity inputMessageCount} {messages : List (Message J C)}
  {previous : Option (RunRecord J)} {stepCount : Nat}

variable (identity committed inputMessageCount messages previous stepCount) in
lemma collected_materializeCheckpointAppend :
    ∃ result : Materialized J C,
      Collected committed ((previous.bind (·.output)).elim [] (·.messageIds))
        (previousOutputSeqs previous) messages result ∧
      materializeCheckpointAppend identity committed inputMessageCount messages previous stepCount =
        (result.delta, if result.outputMessageIds.isEmpty then previous.bind (·.output)
          else some ⟨identity.threadId,
            contiguousOutputRange result.outputMessageIds.length result.outputSeqs,
            result.outputMessageIds⟩) := by
  have hids : ((previous.bind (·.output)).map (·.messageIds)).getD [] =
      (previous.bind (·.output)).elim [] (·.messageIds) := by
    cases previous.bind (·.output) <;> rfl
  refine ⟨_, ?_, rfl⟩
  rw [hids]
  have hstart : Collected committed ((previous.bind (·.output)).elim [] (·.messageIds))
      (previousOutputSeqs previous) [] ⟨(previous.bind (·.output)).elim [] (·.messageIds),
        previousOutputSeqs previous, [], committed.length + 1⟩ :=
    ⟨rfl, ⟨[], [], (List.append_nil _).symm, (List.append_nil _).symm, rfl⟩, rfl⟩
  exact collected_materializeFrom _ _ _ _ hstart 0 messages

theorem materializeCheckpointAppend_delta :
    (materializeCheckpointAppend identity committed inputMessageCount messages previous
      stepCount).1.map (·.id) = (messages.filter (IsNew committed)).map (·.id) := by
  obtain ⟨result, hresult, heq⟩ := collected_materializeCheckpointAppend identity committed
    inputMessageCount messages previous stepCount
  rw [heq]
  exact hresult.delta

theorem materializeCheckpointAppend_output {output : RunMessageOutput}
    (hprevious : ∀ o, previous.bind (·.output) = some o → OutputMatches committed o)
    (h : (materializeCheckpointAppend identity committed inputMessageCount messages previous
      stepCount).2 = some output) :
    OutputMatches (committed ++ (materializeCheckpointAppend identity committed inputMessageCount
      messages previous stepCount).1) output := by
  obtain ⟨result, hresult, heq⟩ := collected_materializeCheckpointAppend identity committed
    inputMessageCount messages previous stepCount
  rw [heq] at h ⊢
  dsimp only at h ⊢
  split at h
  · exact (hprevious output h).append _
  · obtain rfl := Option.some.inj h
    intro range hrange
    obtain ⟨hlen, hperm⟩ := contiguousOutputRange_some hrange
    obtain ⟨ids, seqs, hids, hseqs, hpairs⟩ := hresult.outputs
    have hnew : seqs.length = ids.length := by
      simpa only [List.length_map] using congrArg List.length hpairs
    rw [hids, hseqs, List.length_append, List.length_append, hnew] at hlen
    refine (hperm.symm.map _).trans ?_
    rw [hids, hseqs, List.map_append, List.map_append, hpairs]
    exact (map_idAt_append_of_perm
      (previousOutputSeqs_perm hprevious (Nat.add_right_cancel hlen))).append_right _

lemma stampCompactionMarks_ids (isSummaryText : List C → Bool) (delta : List (Message J C))
    (boundaryId : Option String) :
    (stampCompactionMarks isSummaryText delta committed boundaryId).map (·.id) =
      delta.map (·.id) := by
  have hmark : ∀ mark (message : Message J C),
      (stampMark isSummaryText mark message).id = message.id := by
    intro mark message
    unfold stampMark
    split <;> rfl
  unfold stampCompactionMarks
  split
  · rfl
  · split
    · rfl
    · split
      · rfl
      · rw [List.map_map]
        exact List.map_congr_left fun message _ => hmark _ message

end Spec

end Awaken.LoopRunner
