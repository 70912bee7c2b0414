import Awaken.LoopRunner.CheckpointRuns
import Awaken.LoopRunner.RunHistory

namespace Awaken.LoopRunner

open Awaken.Lib Awaken.Contract Awaken.Contract.MessageAppend Awaken.Context
open Awaken.Agent.LoopState (Role)

variable {J B : Type}

section Entries

lemma entryIds_append (l l' : List (Entry J B)) : entryIds (l ++ l') = entryIds l ++ entryIds l' := by
  rw [entryIds, List.map_append, messageIds_append]
  rfl

lemma mem_entryIds {l : List (Entry J B)} {id : String} :
    id ∈ entryIds l ↔ ∃ e ∈ l, e.message.id = some id := by
  simp [entryIds, messageIds]

lemma entryIds_sublist {l l' : List (Entry J B)} (h : l.Sublist l') :
    (entryIds l).Sublist (entryIds l') := (h.map _).filterMap _

lemma eq_of_entryIds {l : List (Entry J B)} (h : (entryIds l).Nodup) {e e' : Entry J B} {id : String}
    (he : e ∈ l) (he' : e' ∈ l) (hid : e.message.id = some id) (hid' : e'.message.id = some id) :
    e = e' := by
  induction l with
  | nil => cases he
  | cons a l ih =>
    have hsplit : entryIds (a :: l) = entryIds [a] ++ entryIds l := entryIds_append [a] l
    rw [hsplit, List.nodup_append] at h
    obtain ⟨-, htail, hdisjoint⟩ := h
    have hapart : ∀ e' ∈ l, a.message.id = some id → e'.message.id ≠ some id := by
      intro e' he' ha hid'
      exact hdisjoint id (mem_entryIds.mpr ⟨a, List.mem_singleton_self a, ha⟩) id
        (mem_entryIds.mpr ⟨e', he', hid'⟩) rfl
    rcases List.mem_cons.mp he with rfl | hmem
    · rcases List.mem_cons.mp he' with rfl | hmem'
      · rfl
      · exact absurd hid' (hapart e' hmem' hid)
    · rcases List.mem_cons.mp he' with rfl | hmem'
      · exact absurd hid (hapart e hmem hid')
      · exact ih htail hmem hmem'

lemma within_iff {log : List (ChatMessage J B)} {e : Entry J B} {id : String}
    (hid : e.message.id = some id) : e.within log = true ↔ id ∈ messageIds log := by
  have h : IsNew log e.message = true ↔ id ∉ messageIds log := isNew_iff hid
  rw [Entry.within, Bool.not_eq_true', ← Bool.not_eq_true, h, not_not]

end Entries

section Invariant

variable {identity : RunIdentity} {earlier : List String} {s : RunHistory J B}

def RunHistory.outputs (s : RunHistory J B) : List (Entry J B) := s.history.filter Entry.isOutput

structure SummaryHead (s : RunHistory J B) (message : ChatMessage J B) : Prop where
  role : message.role = .system
  unmarked : message.metadata = none
  apart : ∀ id, message.id = some id → id ∉ s.producedIds

def Windowed (s : RunHistory J B) : Prop :=
  ∃ head, s.live = head ++ (s.history.drop s.taken).map (·.message) ∧
    s.taken = s.shift + head.length ∧ head.length ≤ 1 ∧ ∀ message ∈ head, SummaryHead s message

lemma Windowed.of_log (h : Windowed s) (committed : List (ChatMessage J B))
    (stored : Option (RunRecord J)) :
    Windowed { s with committed := committed, stored := stored } := by
  obtain ⟨head, hlive, htaken, hlen, hhead⟩ := h
  exact ⟨head, hlive, htaken, hlen, fun message hmessage =>
    ⟨(hhead message hmessage).role, (hhead message hmessage).unmarked,
      (hhead message hmessage).apart⟩⟩

/-- What holds of the messages whatever the summaries took away: how they are named, and which carry
the mark of the run. -/
structure Tracked (identity : RunIdentity) (earlier : List String) (s : RunHistory J B) : Prop where
  window : Windowed s
  taken : s.taken ≤ s.history.length
  produced : ∀ e ∈ s.history, e.produced = true →
    e.message.metadata = none ∧ ∃ id, e.message.id = some id ∧ id ∉ earlier
  ids : s.producedIds.Nodup
  apart : ∀ e ∈ s.history, e.produced = false → ∀ id, e.message.id = some id → id ∉ s.producedIds
  marks : ∀ e ∈ s.history, e.message.producedByRunId = some identity.runId →
    ∀ id, e.message.id = some id → id ∈ earlier
  marked : ∀ message ∈ s.committed, message.producedByRunId = some identity.runId →
    ∀ id, message.id = some id → id ∈ earlier ∨ id ∈ entryIds s.outputs
  copies : ∀ e ∈ s.outputs, ∀ message ∈ s.committed, message.id = e.message.id →
    message.producedByRunId = some identity.runId
  inTurn : ((s.history.drop s.taken).filter Entry.isOutput).Pairwise
    (fun e e' => e'.within s.committed = true → e.within s.committed = true)
  cached : s.cached.isSome → outputIds s.cached = earlier

lemma Entry.produced_of_isOutput {e : Entry J B} (h : e.isOutput = true) : e.produced = true :=
  (Bool.and_eq_true _ _ ▸ h).1

lemma mem_outputs {e : Entry J B} : e ∈ s.outputs ↔ e ∈ s.history ∧ e.isOutput = true :=
  List.mem_filter

lemma outputs_sublist_produced : s.outputs.Sublist (s.history.filter (·.produced)) := by
  refine List.monotone_filter_right s.history (fun e he => ?_)
  exact Entry.produced_of_isOutput he

lemma entryIds_outputs_subset {id : String} (h : id ∈ entryIds s.outputs) : id ∈ s.producedIds :=
  (entryIds_sublist outputs_sublist_produced).subset h

lemma Tracked.outputs_nodup (h : Tracked identity earlier s) : (entryIds s.outputs).Nodup :=
  (entryIds_sublist outputs_sublist_produced).nodup h.ids

lemma Tracked.exists_id (h : Tracked identity earlier s) {e : Entry J B} (he : e ∈ s.outputs) :
    ∃ id, e.message.id = some id ∧ id ∉ earlier :=
  (h.produced e (mem_outputs.mp he).1 (Entry.produced_of_isOutput (mem_outputs.mp he).2)).2

lemma Tracked.eq_output (h : Tracked identity earlier s) {e e' : Entry J B} (he : e ∈ s.outputs)
    (he' : e' ∈ s.history) (hid : e'.message.id = e.message.id) : e' = e := by
  obtain ⟨id, heid, -⟩ := h.exists_id he
  rw [heid] at hid
  have hin : id ∈ s.producedIds :=
    entryIds_outputs_subset (mem_entryIds.mpr ⟨e, he, heid⟩)
  cases hproduced : e'.produced with
  | false => exact absurd hin (h.apart e' he' hproduced id hid)
  | true =>
    exact eq_of_entryIds h.ids (List.mem_filter.mpr ⟨he', hproduced⟩)
      (outputs_sublist_produced.subset he) hid heid

lemma getElem?_live {head : List (ChatMessage J B)}
    (hlive : s.live = head ++ (s.history.drop s.taken).map (·.message))
    (htaken : s.taken = s.shift + head.length) {i : Nat} {message : ChatMessage J B}
    (h : s.live[i]? = some message) :
    message ∈ head ∨ ∃ index e, s.history[index]? = some e ∧ e.message = message ∧
      s.taken ≤ index ∧ index = i + s.shift := by
  rw [hlive] at h
  by_cases hi : i < head.length
  · rw [List.getElem?_append_left hi] at h
    exact .inl (List.mem_of_getElem? h)
  · rw [List.getElem?_append_right (Nat.not_lt.mp hi), List.getElem?_map, List.getElem?_drop] at h
    obtain ⟨e, he, hmessage⟩ := Option.map_eq_some_iff.mp h
    exact .inr ⟨_, e, he, hmessage, by omega, by omega⟩

end Invariant

section Checkpoint

variable {identity : RunIdentity} {isSummaryText : List (ContentBlock B) → Bool}
  {earlier : List String} {s : RunHistory J B}

lemma mem_messageIds {log : List (ChatMessage J B)} {id : String} :
    id ∈ messageIds log ↔ ∃ message ∈ log, message.id = some id := List.mem_filterMap

lemma Tracked.committed_marked (h : Tracked identity earlier s) {message : ChatMessage J B}
    (hany : (message.id.bind (committedById s.committed)).any
      (·.2.producedByRunId = some identity.runId) = true) :
    ∃ id, message.id = some id ∧ (id ∈ earlier ∨ id ∈ entryIds s.outputs) := by
  cases hid : message.id with
  | none => simp [hid] at hany
  | some id =>
    rw [hid, Option.bind_some, Option.any_eq_true] at hany
    obtain ⟨⟨seq, found⟩, hfound, hmark⟩ := hany
    obtain ⟨hmem, hfid⟩ := committedById_mem hfound
    exact ⟨id, rfl, h.marked found hmem (of_decide_eq_true hmark) id hfid⟩

lemma isOutput_of_entryIds (h : Tracked identity earlier s) {e : Entry J B} (he : e ∈ s.history)
    {id : String} (hid : e.message.id = some id) (hin : id ∈ entryIds s.outputs) :
    e.isOutput = true := by
  obtain ⟨output, houtput, houtputId⟩ := (mem_entryIds).mp hin
  obtain rfl := h.eq_output houtput he (hid.trans houtputId.symm)
  exact (mem_outputs.mp houtput).2

variable {previousIds : List String}

lemma recordedAt_live (h : Tracked identity earlier s) (hseparated : Separated s)
    (hearlier : earlier ⊆ previousIds) {index : Nat} {e : Entry J B}
    (he : s.history[index]? = some e) (htaken : s.taken ≤ index) (hshift : s.shift ≤ index)
    {id : String} (hid : e.message.id = some id) (hnot : id ∉ previousIds) :
    recordedAt identity s.committed previousIds s.inputMessageCount (index - s.shift) e.message =
      e.isOutput := by
  have hmem := List.mem_of_getElem? he
  have hunlisted : id ∉ earlier := fun hin => hnot (hearlier hin)
  refine Bool.eq_iff_iff.mpr ⟨fun hrecorded => ?_, fun houtput => ?_⟩
  · rw [recordedAt, alreadyRecordedOutput, Bool.or_eq_true, Bool.or_eq_true, Bool.or_eq_true]
      at hrecorded
    obtain ((hmark | hcopy) | hlisted) | hnew := hrecorded
    · exact absurd (h.marks e hmem (of_decide_eq_true hmark) id hid) hunlisted
    · obtain ⟨id', hid', hin⟩ := h.committed_marked hcopy
      obtain rfl := Option.some.inj (hid.symm.trans hid')
      exact isOutput_of_entryIds h hmem hid (hin.resolve_left hunlisted)
    · rw [hid] at hlisted
      exact absurd (of_decide_eq_true hlisted) hnot
    · rw [newOutputAt, Bool.and_eq_true, Bool.and_eq_true] at hnew
      obtain ⟨⟨hfresh, hindex⟩, hkind⟩ := hnew
      have hbehind := of_decide_eq_true hindex
      have hproduced := (hseparated.new index e he htaken hfresh hkind).mp (by omega)
      rw [Entry.isOutput, hproduced, hkind]
      rfl
  · rw [recordedAt, Bool.or_eq_true]
    obtain ⟨hproduced, hkind⟩ := Bool.and_eq_true _ _ ▸ houtput
    cases hfresh : IsNew s.committed e.message with
    | true =>
      have hbehind := (hseparated.new index e he htaken hfresh hkind).mpr hproduced
      have hindex : index - s.shift ≥ s.inputMessageCount := by omega
      exact .inr (by simp [newOutputAt, hfresh, hkind, hindex])
    | false =>
      obtain ⟨found, hfound⟩ : ∃ found, committedById s.committed id = some found := by
        rw [IsNew, hid, Option.bind_some] at hfresh
        cases hfound : committedById s.committed id with
        | none => simp [hfound] at hfresh
        | some found => exact ⟨found, rfl⟩
      obtain ⟨hcommitted, hfid⟩ := committedById_mem hfound
      have hmark := h.copies e (mem_outputs.mpr ⟨hmem, houtput⟩) found.2 hcommitted
        (hfid.trans hid.symm)
      exact .inl (by simp [alreadyRecordedOutput, hid, hfound, hmark])

lemma recordedAt_head (h : Tracked identity earlier s) (hearlier : earlier ⊆ previousIds)
    {message : ChatMessage J B} (hhead : SummaryHead s message) {index : Nat} {id : String}
    (hid : message.id = some id) (hnot : id ∉ previousIds) :
    recordedAt identity s.committed previousIds s.inputMessageCount index message = false := by
  rw [← Bool.not_eq_true]
  intro hrecorded
  rw [recordedAt, alreadyRecordedOutput, Bool.or_eq_true, Bool.or_eq_true, Bool.or_eq_true]
    at hrecorded
  obtain ((hmark | hcopy) | hlisted) | hnew := hrecorded
  · simp [Message.producedByRunId, hhead.unmarked] at hmark
  · obtain ⟨id', hid', hin⟩ := h.committed_marked hcopy
    obtain rfl := Option.some.inj (hid.symm.trans hid')
    rcases hin with hin | hin
    · exact hnot (hearlier hin)
    · exact hhead.apart id hid (entryIds_outputs_subset hin)
  · rw [hid] at hlisted
    exact hnot (of_decide_eq_true hlisted)
  · simp [newOutputAt, isRunOutputMessage, hhead.role] at hnew

lemma recordedFrom_head (h : Tracked identity earlier s) (hearlier : earlier ⊆ previousIds)
    {head : List (ChatMessage J B)} (hhead : ∀ message ∈ head, SummaryHead s message) (index : Nat) :
    (recordedFrom identity s.committed previousIds s.inputMessageCount index head).filter
      (· ∉ previousIds) = [] := by
  refine List.filter_eq_nil_iff.mpr (fun id hid hnot => ?_)
  obtain ⟨message, hmessage, hmid⟩ := (mem_messageIds).mp hid
  obtain ⟨⟨_, i⟩, hentry, rfl⟩ := List.mem_map.mp hmessage
  obtain ⟨hzip, hrecorded⟩ := List.mem_filter.mp hentry
  rw [recordedAt_head h hearlier (hhead _ (List.fst_mem_of_mem_zipIdx hzip)) hmid
    (of_decide_eq_true hnot)] at hrecorded
  cases hrecorded

lemma recordedFrom_entries {log : List (ChatMessage J B)} {count : Nat} {entries : List (Entry J B)}
    {index : Nat}
    (h : ∀ k e, entries[k]? = some e → ∀ id, e.message.id = some id → id ∉ previousIds →
      recordedAt identity log previousIds count (index + k) e.message = e.isOutput) :
    (recordedFrom identity log previousIds count index (entries.map (·.message))).filter
        (· ∉ previousIds) =
      (entryIds (entries.filter Entry.isOutput)).filter (· ∉ previousIds) := by
  induction entries generalizing index with
  | nil => rfl
  | cons e entries ih =>
    have hafter : ∀ k e', entries[k]? = some e' → ∀ id, e'.message.id = some id →
        id ∉ previousIds →
        recordedAt identity log previousIds count (index + 1 + k) e'.message = e'.isOutput := by
      intro k e' he' id hid hnot
      rw [Nat.add_assoc, Nat.add_comm 1 k]
      exact h (k + 1) e' he' id hid hnot
    have htail := ih hafter
    have hhead : (if recordedAt identity log previousIds count index e.message then
        e.message.id.toList else []).filter (· ∉ previousIds) =
        (entryIds ([e].filter Entry.isOutput)).filter (· ∉ previousIds) := by
      cases hid : e.message.id with
      | none => cases he : e.isOutput <;> simp [entryIds, messageIds, hid, he]
      | some id =>
        by_cases hin : id ∈ previousIds
        · cases he : e.isOutput <;> simp [entryIds, messageIds, hid, he, hin]
        · rw [show index = index + 0 from rfl, h 0 e rfl id hid hin]
          cases he : e.isOutput <;> simp [entryIds, messageIds, hid, he, hin]
    have hsplit : (e :: entries).filter Entry.isOutput =
        [e].filter Entry.isOutput ++ entries.filter Entry.isOutput := by
      rw [← List.filter_append, List.singleton_append]
    rw [List.map_cons, recordedFrom_cons, List.filter_append, htail, hhead, hsplit, entryIds_append,
      List.filter_append]

lemma recordedFrom_live (h : Tracked identity earlier s) (hseparated : Separated s)
    (hearlier : earlier ⊆ previousIds) :
    (recordedFrom identity s.committed previousIds s.inputMessageCount 0 s.live).filter
        (· ∉ previousIds) =
      (entryIds ((s.history.drop s.taken).filter Entry.isOutput)).filter (· ∉ previousIds) := by
  obtain ⟨head, hlive, htaken, -, hhead⟩ := h.window
  rw [hlive, recordedFrom_append, List.filter_append, recordedFrom_head h hearlier hhead,
    List.nil_append]
  refine recordedFrom_entries (fun k e he id hid hnot => ?_)
  rw [List.getElem?_drop] at he
  have hrecorded := recordedAt_live h hseparated hearlier he (by omega) (by omega) hid hnot
  rw [← hrecorded]
  congr 1
  omega

variable {base : RunRecord J} {stepCount : Nat} {boundaryId : Option String}

lemma plan_ids :
    messageIds (s.plan identity isSummaryText base stepCount boundaryId).messageDelta =
      messageIds (s.live.filter (IsNew s.committed)) := by
  have hjoin : ∀ l : List (ChatMessage J B), messageIds l = (l.map (·.id)).filterMap id := by
    intro l
    rw [messageIds, List.filterMap_map]
    rfl
  have hids : (s.plan identity isSummaryText base stepCount boundaryId).messageDelta.map (·.id) =
      (s.live.filter (IsNew s.committed)).map (·.id) :=
    (stampCompactionMarks_ids isSummaryText _ boundaryId).trans materializeCheckpointAppend_delta
  rw [hjoin, hjoin, hids]

lemma mem_plan_ids {id : String} :
    id ∈ messageIds (s.committed ++
        (s.plan identity isSummaryText base stepCount boundaryId).messageDelta) ↔
      id ∈ messageIds s.committed ∨ id ∈ messageIds s.live := by
  rw [messageIds_append, List.mem_append, plan_ids]
  constructor
  · rintro (h | h)
    · exact .inl h
    · obtain ⟨message, hmessage, hid⟩ := (mem_messageIds).mp h
      exact .inr (mem_messageIds.mpr ⟨message, (List.mem_filter.mp hmessage).1, hid⟩)
  · rintro (h | h)
    · exact .inl h
    · by_cases hin : id ∈ messageIds s.committed
      · exact .inl hin
      · obtain ⟨message, hmessage, hid⟩ := (mem_messageIds).mp h
        exact .inr (mem_messageIds.mpr
          ⟨message, List.mem_filter.mpr ⟨hmessage, (isNew_iff hid).mpr hin⟩, hid⟩)

lemma Tracked.gone (h : Tracked identity earlier s) {e : Entry J B} (he : e ∈ s.history.take s.taken)
    (houtput : e.isOutput = true) {id : String} (hid : e.message.id = some id) :
    id ∉ messageIds s.live := by
  intro hin
  have hmem := (mem_outputs).mpr ⟨List.mem_of_mem_take he, houtput⟩
  obtain ⟨message, hmessage, hmid⟩ := (mem_messageIds).mp hin
  obtain ⟨head, hlive, -, -, hhead⟩ := h.window
  rw [hlive] at hmessage
  rcases List.mem_append.mp hmessage with hmessage | hmessage
  · exact (hhead message hmessage).apart id hmid
      (entryIds_outputs_subset (mem_entryIds.mpr ⟨e, hmem, hid⟩))
  · obtain ⟨e', he', rfl⟩ := List.mem_map.mp hmessage
    obtain rfl := h.eq_output hmem (List.mem_of_mem_drop he') (hmid.trans hid.symm)
    have hnodup := h.outputs_nodup
    rw [RunHistory.outputs, ← List.take_append_drop s.taken s.history, List.filter_append,
      entryIds_append, List.nodup_append] at hnodup
    exact hnodup.2.2 id (mem_entryIds.mpr ⟨e', List.mem_filter.mpr ⟨he, houtput⟩, hid⟩) id
      (mem_entryIds.mpr ⟨e', List.mem_filter.mpr ⟨he', houtput⟩, hid⟩) rfl

lemma Tracked.live_of_drop (h : Tracked identity earlier s) {e : Entry J B}
    (he : e ∈ s.history.drop s.taken) {id : String} (hid : e.message.id = some id) :
    id ∈ messageIds s.live := by
  obtain ⟨head, hlive, -⟩ := h.window
  rw [hlive]
  exact (mem_messageIds).mpr
    ⟨e.message, List.mem_append_right _ (List.mem_map_of_mem he), hid⟩

def RunHistory.checkpointed (s : RunHistory J B) (identity : RunIdentity)
    (isSummaryText : List (ContentBlock B) → Bool) (base : RunRecord J) (stepCount : Nat)
    (boundaryId : Option String) : RunHistory J B :=
  { s with
    committed := s.committed ++
      (s.plan identity isSummaryText base stepCount boundaryId).messageDelta
    stored := some (s.plan identity isSummaryText base stepCount boundaryId).runProjection }

lemma committedOutputs_eq (log : List (ChatMessage J B)) :
    entryIds (s.history.filter (fun e => e.isOutput && e.within log)) =
      entryIds ((s.history.take s.taken).filter (fun e => e.isOutput && e.within log)) ++
        entryIds (((s.history.drop s.taken).filter Entry.isOutput).filter (·.within log)) := by
  rw [List.filter_filter, ← entryIds_append]
  have hcomm : ((fun e : Entry J B => e.within log && e.isOutput)) =
      fun e => e.isOutput && e.within log := by
    funext e
    exact Bool.and_comm _ _
  rw [hcomm, ← List.filter_append, List.take_append_drop]

lemma checkpointed_outputs (h : Tracked identity earlier s) :
    (s.checkpointed identity isSummaryText base stepCount boundaryId).committedOutputs =
      entryIds ((s.history.take s.taken).filter (fun e => e.isOutput && e.within s.committed)) ++
        entryIds ((s.history.drop s.taken).filter Entry.isOutput) := by
  refine (committedOutputs_eq _).trans ?_
  have htake : (s.history.take s.taken).filter (fun e => e.isOutput && e.within (s.committed ++
      (s.plan identity isSummaryText base stepCount boundaryId).messageDelta)) =
      (s.history.take s.taken).filter (fun e => e.isOutput && e.within s.committed) := by
    refine List.filter_congr (fun e he => ?_)
    cases houtput : e.isOutput with
    | false => rfl
    | true =>
      obtain ⟨id, hid, -⟩ := h.exists_id (mem_outputs.mpr ⟨List.mem_of_mem_take he, houtput⟩)
      have hgone := h.gone he houtput hid
      rw [Bool.true_and, Bool.true_and, Bool.eq_iff_iff, within_iff hid, within_iff hid,
        mem_plan_ids]
      exact or_iff_left hgone
  have hdrop : ((s.history.drop s.taken).filter Entry.isOutput).filter (·.within (s.committed ++
      (s.plan identity isSummaryText base stepCount boundaryId).messageDelta)) =
      (s.history.drop s.taken).filter Entry.isOutput := by
    refine List.filter_eq_self.mpr (fun e he => ?_)
    obtain ⟨hmem, houtput⟩ := List.mem_filter.mp he
    obtain ⟨id, hid, -⟩ := h.exists_id (mem_outputs.mpr ⟨List.mem_of_mem_drop hmem, houtput⟩)
    exact (within_iff hid).mpr (mem_plan_ids.mpr (.inr (h.live_of_drop hmem hid)))
  exact congrArg₂ (fun front back => entryIds front ++ entryIds back) htake hdrop

lemma Tracked.window_outputs (h : Tracked identity earlier s) :
    entryIds (((s.history.drop s.taken).filter Entry.isOutput).filter (·.within s.committed)) ++
        (entryIds ((s.history.drop s.taken).filter Entry.isOutput)).filter
          (· ∉ earlier ++ s.committedOutputs) =
      entryIds ((s.history.drop s.taken).filter Entry.isOutput) := by
  have hnew : (entryIds ((s.history.drop s.taken).filter Entry.isOutput)).filter
      (· ∉ earlier ++ s.committedOutputs) =
      entryIds (((s.history.drop s.taken).filter Entry.isOutput).filter
        (fun e => !e.within s.committed)) := by
    have hall : ∀ e ∈ (s.history.drop s.taken).filter Entry.isOutput, e ∈ s.outputs := fun e he =>
      mem_outputs.mpr ⟨List.mem_of_mem_drop (List.mem_filter.mp he).1, (List.mem_filter.mp he).2⟩
    generalize (s.history.drop s.taken).filter Entry.isOutput = window at hall
    induction window with
    | nil => rfl
    | cons e window ih =>
      obtain ⟨he, hrest⟩ := List.forall_mem_cons.mp hall
      obtain ⟨id, hid, hunlisted⟩ := h.exists_id he
      have hcons : ∀ l : List (Entry J B), entryIds (e :: l) = id :: entryIds l := by
        intro l
        simp [entryIds, messageIds, hid]
      have hiff : id ∈ earlier ++ s.committedOutputs ↔ e.within s.committed = true := by
        rw [List.mem_append, or_iff_right hunlisted]
        constructor
        · intro hin
          obtain ⟨e', he', hid'⟩ := mem_entryIds.mp hin
          have hwithin := (Bool.and_eq_true _ _ ▸ (List.mem_filter.mp he').2).2
          exact (within_iff hid).mpr ((within_iff hid').mp hwithin)
        · intro hwithin
          obtain ⟨hmem, houtput⟩ := mem_outputs.mp he
          exact mem_entryIds.mpr
            ⟨e, List.mem_filter.mpr ⟨hmem, by rw [houtput, hwithin]; rfl⟩, hid⟩
      rw [hcons]
      cases hwithin : e.within s.committed with
      | true =>
        have hin : ¬ decide (id ∉ earlier ++ s.committedOutputs) = true := by
          rw [decide_eq_true_eq, not_not]
          exact hiff.mpr hwithin
        rw [List.filter_cons, if_neg hin, List.filter_cons_of_neg (by simp [hwithin]), ih hrest]
      | false =>
        have hnot : id ∉ earlier ++ s.committedOutputs := fun hin => by
          rw [hiff.mp hin] at hwithin
          cases hwithin
        rw [List.filter_cons, if_pos (decide_eq_true hnot),
          List.filter_cons_of_pos (by simp [hwithin]), hcons, ih hrest]
  rw [hnew, ← entryIds_append, filter_append_filter_of_pairwise h.inTurn]

lemma previous_ids (h : Tracked identity earlier s)
    (hkept : outputIds s.stored = earlier ++ s.committedOutputs) :
    (s.cached.isSome ∧ outputIds s.previous = earlier) ∨
      outputIds s.previous = earlier ++ s.committedOutputs := by
  unfold RunHistory.previous
  cases hcached : s.cached with
  | none => exact .inr hkept
  | some record =>
    refine .inl ⟨rfl, ?_⟩
    rw [Option.some_or, ← hcached]
    exact h.cached (by rw [hcached]; rfl)

theorem checkpointed_kept (h : Tracked identity earlier s) (hseparated : Separated s)
    (hkept : outputIds s.stored = earlier ++ s.committedOutputs) :
    outputIds (s.checkpointed identity isSummaryText base stepCount boundaryId).stored =
      earlier ++
        (s.checkpointed identity isSummaryText base stepCount boundaryId).committedOutputs := by
  have hearlier : earlier ⊆ outputIds s.previous := by
    rcases previous_ids h hkept with ⟨-, heq⟩ | heq
    · exact heq ▸ List.Subset.refl _
    · exact heq ▸ List.subset_append_left _ _
  have hadded := recordedFrom_live h hseparated hearlier
  have hnodup : (entryIds ((s.history.drop s.taken).filter Entry.isOutput)).Nodup :=
    (entryIds_sublist ((List.drop_sublist _ _).filter _)).nodup h.outputs_nodup
  have hids : outputIds (s.checkpointed identity isSummaryText base stepCount boundaryId).stored =
      (recordedFrom identity s.committed (outputIds s.previous) s.inputMessageCount 0 s.live).foldl
        addId (outputIds s.previous) :=
    materializeCheckpointAppend_outputIds rfl
  rw [hids, foldl_addId (hadded ▸ hnodup.filter _), hadded, checkpointed_outputs h]
  rcases previous_ids h hkept with ⟨hcached, heq⟩ | heq
  · have hnone : (s.history.take s.taken).filter
        (fun e => e.isOutput && e.within s.committed) = [] := by
      refine List.filter_eq_nil_iff.mpr (fun e he hboth => ?_)
      obtain ⟨houtput, hwithin⟩ := Bool.and_eq_true _ _ ▸ hboth
      rw [Entry.within, hseparated.cached hcached e he houtput] at hwithin
      cases hwithin
    have hall : (entryIds ((s.history.drop s.taken).filter Entry.isOutput)).filter (· ∉ earlier) =
        entryIds ((s.history.drop s.taken).filter Entry.isOutput) := by
      refine List.filter_eq_self.mpr (fun id hid => decide_eq_true ?_)
      obtain ⟨e, he, heid⟩ := mem_entryIds.mp hid
      obtain ⟨hmem, houtput⟩ := List.mem_filter.mp he
      obtain ⟨id', hid', hunlisted⟩ :=
        h.exists_id (mem_outputs.mpr ⟨List.mem_of_mem_drop hmem, houtput⟩)
      obtain rfl := Option.some.inj (heid.symm.trans hid')
      exact hunlisted
    rw [heq, hall, hnone]
    rfl
  · rw [heq, List.append_assoc]
    congr 1
    have hsplit : s.committedOutputs = _ := committedOutputs_eq s.committed
    conv_lhs => rw [hsplit, List.append_assoc, ← hsplit]
    rw [h.window_outputs]

end Checkpoint

end Awaken.LoopRunner
