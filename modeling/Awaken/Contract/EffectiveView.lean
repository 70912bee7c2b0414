import Mathlib.Data.List.Pairwise
import Awaken.Contract.MessageLog

namespace Awaken.Contract

variable {J C : Type}

namespace Interval

def Within (inner outer : Interval J C) : Prop :=
  outer.fromSeq ≤ inner.fromSeq ∧ inner.toSeq ≤ outer.toSeq

def Covers (i : Interval J C) (seq : Nat) : Prop := i.fromSeq ≤ seq ∧ seq ≤ i.toSeq

end Interval

inductive Entry (J C : Type) where
  | record (record : MessageRecord J C)
  | summary (interval : Interval J C)

namespace Entry

def message : Entry J C → Message J C
  | .record r => r.message
  | .summary i => i.summary

def record? : Entry J C → Option (MessageRecord J C)
  | .record r => some r
  | .summary _ => none

def summary? : Entry J C → Option (Interval J C)
  | .record _ => none
  | .summary i => some i

def Before : Entry J C → Entry J C → Prop
  | .record r, .record r' => r.seq < r'.seq
  | .record r, .summary i => r.seq < i.fromSeq
  | .summary i, .record r => i.fromSeq ≤ r.seq
  | .summary i, .summary i' => i.fromSeq < i'.fromSeq

end Entry

structure IsView (records : List (MessageRecord J C)) (kept : List (Interval J C))
    (view : List (Entry J C)) : Prop where
  ordered : view.Pairwise Entry.Before
  summaries : view.filterMap Entry.summary? = kept
  raw : ∀ record, record ∈ view.filterMap Entry.record? ↔
    record ∈ records ∧ record.compaction = none ∧ ∀ i ∈ kept, ¬i.Covers record.seq
  once : (view.filterMap Entry.record?).Sublist records
  fromSummaries : kept.Subperm (records.filterMap Interval.ofRecord)
  widest : ∀ i ∈ records.filterMap Interval.ofRecord, ∃ k ∈ kept, i.Within k
  apart : kept.Pairwise (fun i k => ¬i.Within k ∧ ¬k.Within i)

section Kept

variable {candidates kept : List (Interval J C)}

lemma before_iff {a b : Interval J C} :
    a.before b = true ↔ a.fromSeq < b.fromSeq ∨ a.fromSeq = b.fromSeq ∧ b.toSeq ≤ a.toSeq := by
  simp [Interval.before]

lemma sorted_candidates (l : List (Interval J C)) :
    (l.insertionSort (fun a b => a.before b)).Pairwise (fun a b => a.before b = true) := by
  have : Std.Total (fun a b : Interval J C => a.before b = true) := by
    refine ⟨fun a b => ?_⟩
    rw [before_iff, before_iff]
    omega
  have : IsTrans (Interval J C) (fun a b => a.before b = true) := by
    refine ⟨fun a b c hab hbc => ?_⟩
    rw [before_iff] at hab hbc ⊢
    omega
  exact List.pairwise_insertionSort _ _

structure Kept (seen kept : List (Interval J C)) : Prop where
  sublist : kept.Sublist seen
  widest : ∀ i ∈ seen, ∃ k ∈ kept, i.Within k
  fresh : kept.Pairwise (fun k i => ¬i.Within k)

lemma Kept.step {seen : List (Interval J C)} (h : Kept seen kept) (candidate : Interval J C) :
    Kept (seen ++ [candidate]) (keepUndominated kept candidate) := by
  have hdominated : (kept.any (fun k => k.fromSeq ≤ candidate.fromSeq && candidate.toSeq ≤ k.toSeq)) =
      true ↔ ∃ k ∈ kept, candidate.Within k := by
    simp [Interval.Within]
  unfold keepUndominated
  split
  · rename_i hany
    refine ⟨h.sublist.trans (List.sublist_append_left _ _), fun i hi => ?_, h.fresh⟩
    rcases List.mem_append.mp hi with hi | hi
    · exact h.widest i hi
    · rw [List.mem_singleton.mp hi]
      exact hdominated.mp hany
  · rename_i hnone
    have hnew : ∀ k ∈ kept, ¬candidate.Within k := fun k hk hin =>
      hnone (hdominated.mpr ⟨k, hk, hin⟩)
    refine ⟨h.sublist.append (List.Sublist.refl _), fun i hi => ?_, ?_⟩
    · rcases List.mem_append.mp hi with hi | hi
      · obtain ⟨k, hk, hin⟩ := h.widest i hi
        exact ⟨k, List.mem_append_left _ hk, hin⟩
      · rw [List.mem_singleton.mp hi]
        exact ⟨candidate, by simp, Nat.le_refl _, Nat.le_refl _⟩
    · rw [List.pairwise_append]
      refine ⟨h.fresh, List.pairwise_singleton _ _, fun k hk i hi => ?_⟩
      rw [List.mem_singleton.mp hi]
      exact hnew k hk

lemma kept_foldl {seen : List (Interval J C)} (h : Kept seen kept) :
    Kept (seen ++ candidates) (candidates.foldl keepUndominated kept) := by
  induction candidates generalizing seen kept with
  | nil => simpa using h
  | cons candidate candidates ih =>
    have hstep := ih (h.step candidate)
    rwa [List.append_assoc, List.singleton_append] at hstep

lemma kept_starts (hsorted : candidates.Pairwise (fun a b => a.before b = true))
    (h : Kept candidates kept) : kept.Pairwise (fun a b => a.fromSeq < b.fromSeq) := by
  refine (h.fresh.and (hsorted.sublist h.sublist)).imp ?_
  rintro a b ⟨hfresh, hbefore⟩
  rcases (before_iff).mp hbefore with hlt | ⟨heq, hle⟩
  · exact hlt
  · exact absurd ⟨heq.le, hle⟩ hfresh

lemma compactionIntervals_kept (records : List (MessageRecord J C)) :
    Kept ((records.filterMap Interval.ofRecord).insertionSort (fun a b => a.before b))
        (compactionIntervals records) ∧
      (compactionIntervals records).Pairwise (fun a b => a.fromSeq < b.fromSeq) := by
  have hnil : Kept ([] : List (Interval J C)) [] :=
    ⟨List.Sublist.refl _, fun i hi => absurd hi List.not_mem_nil, List.Pairwise.nil⟩
  have hkept : Kept ([] ++ (records.filterMap Interval.ofRecord).insertionSort
      (fun a b => a.before b)) _ := kept_foldl hnil
  rw [List.nil_append] at hkept
  have hstarts := kept_starts (sorted_candidates _) hkept
  have hsame : compactionIntervals records =
      ((records.filterMap Interval.ofRecord).insertionSort (fun a b => a.before b)).foldl
        keepUndominated [] :=
    (hstarts.imp Nat.le_of_lt).insertionSort_eq
  rw [hsame]
  exact ⟨hkept, hstarts⟩

end Kept

section Merge

variable {intervals next : List (Interval J C)} {records : List (MessageRecord J C)}

def foldEntries (intervals : List (Interval J C)) :
    List (Interval J C) → List (MessageRecord J C) → List (Entry J C)
  | next, [] => next.map .summary
  | next, record :: records =>
    (next.takeWhile (fun i => i.fromSeq ≤ record.seq)).map .summary ++
      (if covered intervals record.seq then [] else [.record record]) ++
      foldEntries intervals (next.dropWhile (fun i => i.fromSeq ≤ record.seq)) records

lemma foldRaw_eq : foldRaw intervals next records =
    (foldEntries intervals next records).map Entry.message := by
  induction records generalizing next with
  | nil =>
    rw [foldRaw, foldEntries, List.map_map]
    rfl
  | cons record records ih =>
    rw [foldRaw, foldEntries, List.map_append, List.map_append, List.map_map, ih]
    split <;> rfl

lemma summaries_map (l : List (Interval J C)) :
    (l.map Entry.summary).filterMap Entry.summary? = l ∧
      (l.map Entry.summary).filterMap Entry.record? = [] := by
  induction l with
  | nil => exact ⟨rfl, rfl⟩
  | cons i l ih => simp [Entry.summary?, Entry.record?, ih.1]

lemma summaries_foldEntries : (foldEntries intervals next records).filterMap Entry.summary? = next := by
  induction records generalizing next with
  | nil => exact (summaries_map next).1
  | cons record records ih =>
    have hraw : (if covered intervals record.seq then [] else [Entry.record record]).filterMap
        Entry.summary? = [] := by
      split <;> rfl
    rw [foldEntries, List.filterMap_append, List.filterMap_append, ih, (summaries_map _).1, hraw,
      List.append_nil, List.takeWhile_append_dropWhile]

lemma raw_foldEntries : (foldEntries intervals next records).filterMap Entry.record? =
    records.filter (fun r => !covered intervals r.seq) := by
  induction records generalizing next with
  | nil => exact (summaries_map next).2
  | cons record records ih =>
    rw [foldEntries, List.filterMap_append, List.filterMap_append, ih, (summaries_map _).2,
      List.nil_append, List.filter_cons]
    cases covered intervals record.seq <;> rfl

lemma mem_foldEntries {entry : Entry J C} (h : entry ∈ foldEntries intervals next records) :
    (∃ i ∈ next, entry = .summary i) ∨ ∃ r ∈ records, entry = .record r := by
  cases entry with
  | summary i =>
    have hi : i ∈ (foldEntries intervals next records).filterMap Entry.summary? :=
      List.mem_filterMap.mpr ⟨_, h, rfl⟩
    rw [summaries_foldEntries] at hi
    exact .inl ⟨i, hi, rfl⟩
  | record r =>
    have hr : r ∈ (foldEntries intervals next records).filterMap Entry.record? :=
      List.mem_filterMap.mpr ⟨_, h, rfl⟩
    rw [raw_foldEntries] at hr
    exact .inr ⟨r, List.mem_of_mem_filter hr, rfl⟩

lemma lt_of_mem_dropWhile {seq : Nat} (hnext : next.Pairwise (fun a b => a.fromSeq < b.fromSeq))
    {i : Interval J C} (h : i ∈ next.dropWhile (fun i => i.fromSeq ≤ seq)) : seq < i.fromSeq := by
  induction next with
  | nil => cases h
  | cons k next ih =>
    rw [List.dropWhile_cons] at h
    split at h
    · exact ih hnext.of_cons h
    · rename_i hk
      have hlt : seq < k.fromSeq := by simpa using hk
      rcases List.mem_cons.mp h with rfl | hmem
      · exact hlt
      · exact hlt.trans (List.rel_of_pairwise_cons hnext hmem)

lemma ordered_foldEntries (hnext : next.Pairwise (fun a b => a.fromSeq < b.fromSeq))
    (hrecords : records.Pairwise (fun a b => a.seq < b.seq)) :
    (foldEntries intervals next records).Pairwise Entry.Before := by
  induction records generalizing next with
  | nil => exact List.pairwise_map.mpr hnext
  | cons record records ih =>
    have htail := ih (hnext.sublist (List.dropWhile_sublist (fun i => i.fromSeq ≤ record.seq)))
      hrecords.of_cons
    have hlater : ∀ r ∈ records, record.seq < r.seq := fun r hr =>
      List.rel_of_pairwise_cons hrecords hr
    have hgone : ∀ i ∈ next.takeWhile (fun i => i.fromSeq ≤ record.seq), i.fromSeq ≤ record.seq :=
      fun i hi => by simpa using List.mem_takeWhile_imp hi
    have hrest : ∀ e ∈ foldEntries intervals
        (next.dropWhile (fun i => i.fromSeq ≤ record.seq)) records,
        (Entry.record record).Before e ∧
          ∀ i ∈ next.takeWhile (fun i => i.fromSeq ≤ record.seq), (Entry.summary i).Before e := by
      intro e he
      rcases mem_foldEntries he with ⟨k, hk, rfl⟩ | ⟨r, hr, rfl⟩
      · have hlt := lt_of_mem_dropWhile hnext hk
        exact ⟨hlt, fun i hi => (hgone i hi).trans_lt hlt⟩
      · exact ⟨hlater r hr, fun i hi => (hgone i hi).trans (hlater r hr).le⟩
    have hhere : ∀ e ∈ (if covered intervals record.seq then [] else [Entry.record record]),
        e = .record record := by
      intro e he
      split at he
      · cases he
      · exact List.mem_singleton.mp he
    rw [foldEntries, List.pairwise_append, List.pairwise_append]
    refine ⟨⟨?_, ?_, ?_⟩, htail, ?_⟩
    · exact List.pairwise_map.mpr (hnext.sublist (List.takeWhile_sublist _))
    · split
      · exact List.Pairwise.nil
      · exact List.pairwise_singleton _ _
    · intro e he e' he'
      obtain ⟨i, hi, rfl⟩ := List.mem_map.mp he
      rw [hhere e' he']
      exact hgone i hi
    · intro e he e' he'
      rcases List.mem_append.mp he with he | he
      · obtain ⟨i, hi, rfl⟩ := List.mem_map.mp he
        exact (hrest e' he').2 i hi
      · rw [hhere e he]
        exact (hrest e' he').1

end Merge

lemma raw_iff {records : List (MessageRecord J C)} (h : records.Pairwise (fun a b => a.seq < b.seq))
    {record : MessageRecord J C} (hmem : record ∈ records) :
    record.seq ∉ (records.filter (·.compaction.isSome)).map (·.seq) ↔ record.compaction = none := by
  rw [List.mem_map, ← Option.not_isSome_iff_eq_none]
  constructor
  · intro hseq hsome
    exact hseq ⟨record, List.mem_filter.mpr ⟨hmem, hsome⟩, rfl⟩
  · rintro hnone ⟨other, hother, hseq⟩
    obtain ⟨hin, hsome⟩ := List.mem_filter.mp hother
    have hsymm : Std.Symm (fun a b : MessageRecord J C => a.seq ≠ b.seq) := ⟨fun _ _ => Ne.symm⟩
    have heq : other = record := by
      by_contra hne
      exact (h.imp Nat.ne_of_lt).forall hin hmem hne hseq
    exact hnone (heq ▸ hsome)

theorem effective_view (records : List (MessageRecord J C))
    (hseq : records.Pairwise (fun a b => a.seq < b.seq)) :
    ∃ kept view, IsView records kept view ∧ effectiveMessages records = view.map Entry.message := by
  obtain ⟨hkept, hstarts⟩ := compactionIntervals_kept records
  have hperm := List.perm_insertionSort (fun a b => (Interval.before a b : Prop))
    (records.filterMap Interval.ofRecord)
  have hcovered : ∀ seq, covered (compactionIntervals records) seq = false ↔
      ∀ i ∈ compactionIntervals records, ¬i.Covers seq := by
    intro seq
    simp [covered, Interval.Covers]
  refine ⟨compactionIntervals records, _, ⟨?_, ?_, ?_, ?_, ?_, ?_, ?_⟩, foldRaw_eq⟩
  · exact ordered_foldEntries hstarts (hseq.sublist List.filter_sublist)
  · exact summaries_foldEntries
  · intro record
    rw [raw_foldEntries, List.mem_filter, List.mem_filter, Bool.not_eq_true', hcovered,
      decide_eq_true_iff, and_assoc]
    exact and_congr_right (fun hmem => and_congr_left' (raw_iff hseq hmem))
  · rw [raw_foldEntries]
    exact List.filter_sublist.trans List.filter_sublist
  · exact hkept.sublist.subperm.trans hperm.subperm
  · intro i hi
    exact hkept.widest i (hperm.mem_iff.mpr hi)
  · refine (hkept.fresh.and hstarts).imp ?_
    rintro i k ⟨hfresh, hlt⟩
    exact ⟨fun hin => absurd hin.1 hlt.not_ge, hfresh⟩

def summarizedTwice : List (MessageRecord Unit Nat) :=
  [.fromMessage "" "t1" 1 (.tool "m1" "c1" 1), .fromMessage "" "t1" 2 (.tool "m2" "c2" 2),
    { MessageRecord.fromMessage "" "t1" 3 (.tool "m3" "c3" 3) with compaction := some ⟨1, 2⟩ },
    .fromMessage "" "t1" 4 (.tool "m4" "c4" 4),
    { MessageRecord.fromMessage "" "t1" 5 (.tool "m5" "c5" 5) with compaction := some ⟨1, 3⟩ }]

theorem effective_view_summarized_twice : (∃ kept view, IsView summarizedTwice kept view ∧
      effectiveMessages summarizedTwice = view.map Entry.message) ∧
    effectiveMessages summarizedTwice = [.tool "m5" "c5" 5, .tool "m4" "c4" 4] :=
  ⟨effective_view summarizedTwice (by decide), by decide⟩

end Awaken.Contract
