import Awaken.Engine.Runtime
import Awaken.State.ParallelMerge

namespace Awaken.Engine

open Awaken.State PhaseRuntime

variable {J κ ι : Type} {K : κ → StateKey J} {strategy : String → MergeStrategy}

def ExclusiveApart (strategy : String → MergeStrategy) (c d : StateCommand K) : Prop :=
  ∀ key, strategy key = .exclusive → key ∈ c.patch.touchedKeys → key ∉ d.patch.touchedKeys

lemma mem_exclusiveKeys {c : StateCommand K} {key : String} :
    key ∈ exclusiveKeys strategy c ↔ key ∈ c.patch.touchedKeys ∧ strategy key = .exclusive := by
  simp [exclusiveKeys]

section Overlap

lemma repeatsExclusive_eq_false {seen keys : List String} :
    repeatsExclusive strategy seen keys = false ↔
      (keys.filter (fun key => strategy key = .exclusive)).Nodup ∧
        ∀ key ∈ keys, strategy key = .exclusive → key ∉ seen := by
  induction keys generalizing seen with
  | nil => simp [repeatsExclusive]
  | cons key keys ih =>
    by_cases hs : strategy key = .exclusive
    · by_cases hm : key ∈ seen
      · simp [repeatsExclusive, hs, hm]
      · have hcons : (key :: keys).filter (fun key => strategy key = .exclusive) =
            key :: keys.filter (fun key => strategy key = .exclusive) :=
          List.filter_cons_of_pos (by simpa using hs)
        rw [repeatsExclusive, if_pos hs, if_neg hm, ih, hcons, List.nodup_cons,
          List.forall_mem_cons]
        simp only [List.mem_filter, decide_eq_true_eq, List.mem_cons]
        constructor
        · rintro ⟨hn, hall⟩
          exact ⟨⟨fun h => hall key h.1 h.2 (.inl rfl), hn⟩, fun _ => hm,
            fun k hk he h => hall k hk he (.inr h)⟩
        · rintro ⟨⟨hk, hn⟩, -, hall⟩
          refine ⟨hn, ?_⟩
          rintro k hmem he (rfl | h)
          · exact hk ⟨hmem, he⟩
          · exact hall k hmem he h
    · have hcons : (key :: keys).filter (fun key => strategy key = .exclusive) =
          keys.filter (fun key => strategy key = .exclusive) :=
        List.filter_cons_of_neg (by simpa using hs)
      rw [repeatsExclusive, if_neg hs, ih, hcons, List.forall_mem_cons]
      simp [hs]

lemma pairwise_of_noOverlap {commands : List (ι × StateCommand K)}
    (h : hasExclusiveKeyOverlap commands strategy = false) :
    commands.Pairwise (fun p q => ExclusiveApart strategy p.2 q.2) := by
  have hn := (repeatsExclusive_eq_false.mp h).1
  rw [List.filter_flatMap, List.nodup_flatMap] at hn
  refine hn.2.imp ?_
  intro p q hpq key hs hp hq
  exact hpq (List.mem_filter.mpr ⟨hp, by simpa using hs⟩)
    (List.mem_filter.mpr ⟨hq, by simpa using hs⟩)

end Overlap

section Partition

lemma conflicts_eq_false {cmd : StateCommand K} {taken : List String} :
    cmd.patch.touchedKeys.any (fun key =>
        decide (strategy key = .exclusive) && decide (key ∈ taken)) = false ↔
      ∀ key ∈ exclusiveKeys strategy cmd, key ∉ taken := by
  simp only [List.any_eq_false, Bool.and_eq_true, decide_eq_true_eq, not_and, mem_exclusiveKeys,
    and_imp]

lemma apart_of_exclusiveKeys {c d : StateCommand K} {taken : List String}
    (h : ∀ key ∈ exclusiveKeys strategy d, key ∉ exclusiveKeys strategy c ++ taken) :
    ExclusiveApart strategy c d := by
  intro key hs hc hd
  exact h key (mem_exclusiveKeys.mpr ⟨hd, hs⟩)
    (List.mem_append_left _ (mem_exclusiveKeys.mpr ⟨hc, hs⟩))

theorem partitionFrom_spec (strategy : String → MergeStrategy) (commands : List (ι × StateCommand K)) (taken : List String) :
    ∃ batch : List (ι × StateCommand K), batch.Sublist commands ∧
      (partitionFrom strategy taken commands).1 = batch.map (·.2) ∧
      (batch.map (·.1) ++ (partitionFrom strategy taken commands).2).Perm (commands.map (·.1)) ∧
      (∀ p ∈ batch, ∀ key ∈ exclusiveKeys strategy p.2, key ∉ taken) ∧
      batch.Pairwise (fun p q => ExclusiveApart strategy p.2 q.2) := by
  induction commands generalizing taken with
  | nil => exact ⟨[], List.Sublist.refl _, rfl, List.Perm.refl _, by simp, .nil⟩
  | cons p commands ih =>
    obtain ⟨i, cmd⟩ := p
    cases hc : cmd.patch.touchedKeys.any (fun key =>
        decide (strategy key = .exclusive) && decide (key ∈ taken)) with
    | true =>
      obtain ⟨batch, hsub, hfst, hperm, htaken, hpair⟩ := ih taken
      refine ⟨batch, hsub.cons _, ?_, ?_, htaken, hpair⟩
      · simp only [partitionFrom, hc, if_true, hfst]
      · simp only [partitionFrom, hc, if_true, List.map_cons]
        exact List.perm_middle.trans (hperm.cons i)
    | false =>
      obtain ⟨batch, hsub, hfst, hperm, htaken, hpair⟩ := ih (exclusiveKeys strategy cmd ++ taken)
      refine ⟨(i, cmd) :: batch, hsub.cons_cons _, ?_, ?_, ?_, ?_⟩
      · simp only [partitionFrom, hc, Bool.false_eq_true, if_false, hfst, List.map_cons]
      · simp only [partitionFrom, hc, Bool.false_eq_true, if_false, List.map_cons,
          List.cons_append]
        exact hperm.cons i
      · refine List.forall_mem_cons.mpr ⟨(conflicts_eq_false).mp hc, ?_⟩
        intro q hq key hk ht
        exact htaken q hq key hk (List.mem_append_right _ ht)
      · refine List.pairwise_cons.mpr ⟨?_, hpair⟩
        intro q hq
        exact apart_of_exclusiveKeys (htaken q hq)

theorem partitionFrom_all {commands : List (ι × StateCommand K)} {taken : List String}
    (htaken : ∀ p ∈ commands, ∀ key ∈ exclusiveKeys strategy p.2, key ∉ taken)
    (hpair : commands.Pairwise (fun p q => ExclusiveApart strategy p.2 q.2)) :
    partitionFrom strategy taken commands = (commands.map (·.2), []) := by
  induction commands generalizing taken with
  | nil => rfl
  | cons p commands ih =>
    obtain ⟨i, cmd⟩ := p
    obtain ⟨hhead, hrest⟩ := List.forall_mem_cons.mp htaken
    obtain ⟨happart, hpair⟩ := List.pairwise_cons.mp hpair
    have hih : partitionFrom strategy (exclusiveKeys strategy cmd ++ taken) commands = _ := ih (by
      intro q hq key hk hmem
      rcases List.mem_append.mp hmem with h | h
      · obtain ⟨hcmd, hs⟩ := (mem_exclusiveKeys).mp h
        exact happart q hq key hs hcmd (mem_exclusiveKeys.mp hk).1
      · exact hrest q hq key hk h) hpair
    simp only [partitionFrom, (conflicts_eq_false).mpr hhead, Bool.false_eq_true, if_false, hih,
      List.map_cons]

end Partition

section Merge

lemma mergeParallel_error {c d : StateCommand K} {e : StateError}
    (hapart : ExclusiveApart strategy c d) (h : c.mergeParallel d strategy = .error e) :
    ∃ l r, e = .mutationBaseRevisionMismatch l r := by
  unfold StateCommand.mergeParallel MutationBatch.mergeParallel at h
  have hconf : c.patch.conflict d.patch strategy = none := MutationBatch.conflict_eq_none.mpr hapart
  rw [hconf] at h
  cases hl : c.patch.baseRevision with
  | none => cases hr : d.patch.baseRevision <;> simp [MutationBatch.reconcile, hl, hr] at h
  | some l =>
    cases hr : d.patch.baseRevision with
    | none =>
      simp [MutationBatch.reconcile, hl, hr] at h
    | some r =>
      by_cases hlr : l = r
      · simp [MutationBatch.reconcile, hl, hr, hlr] at h
      · simp only [MutationBatch.reconcile, hl, hr, ne_eq, hlr, not_false_eq_true, if_true] at h
        exact ⟨l, r, (Except.error.inj h).symm⟩

theorem mergeAll_error {cmds : List (StateCommand K)} {acc : StateCommand K} {e : StateError}
    (hacc : ∀ c ∈ cmds, ExclusiveApart strategy acc c)
    (hpair : cmds.Pairwise (ExclusiveApart strategy))
    (h : mergeAll strategy acc cmds = .error e) :
    ∃ l r, e = .mutationBaseRevisionMismatch l r := by
  induction cmds generalizing acc with
  | nil => exact nomatch h
  | cons c cmds ih =>
    obtain ⟨hc, hrest⟩ := List.forall_mem_cons.mp hacc
    obtain ⟨happart, hpair⟩ := List.pairwise_cons.mp hpair
    have hcons : mergeAll strategy acc (c :: cmds) =
        (acc.mergeParallel c strategy).bind (fun acc => mergeAll strategy acc cmds) := rfl
    rw [hcons] at h
    cases hm : acc.mergeParallel c strategy with
    | error e' =>
      rw [hm] at h
      obtain rfl : e' = e := Except.error.inj h
      exact mergeParallel_error hc hm
    | ok m =>
      rw [hm] at h
      obtain ⟨-, rfl⟩ := mergeParallel_ok.mp hm
      refine ih ?_ hpair h
      intro d hd key hs hmem
      rcases List.mem_append.mp hmem with ha | hcm
      · exact hrest d hd key hs ha
      · exact happart d hd key hs hcm

structure Joins (cmds : List (StateCommand K)) (merged : StateCommand K) :
    Prop where
  ops : merged.patch.ops = cmds.flatMap (·.patch.ops)
  scheduledActions : merged.scheduledActions = cmds.flatMap (·.scheduledActions)
  effects : merged.effects = cmds.flatMap (·.effects)

lemma joins_foldl (cmds : List (StateCommand K)) :
    Joins cmds (cmds.foldl joined .new) where
  ops := foldl_joined_ops cmds .new
  scheduledActions := foldl_joined (·.scheduledActions) (fun _ _ => rfl) cmds .new
  effects := foldl_joined (·.effects) (fun _ _ => rfl) cmds .new

lemma partition_batch (strategy : String → MergeStrategy) (first : List (ι × StateCommand K)) :
    ∃ (batch : List (ι × StateCommand K)) (rest : List ι),
      partitionCommands first strategy = (batch.map (·.2), rest) ∧
      batch.Sublist first ∧ (batch.map (·.1) ++ rest).Perm (first.map (·.1)) ∧
      batch.Pairwise (fun p q => ExclusiveApart strategy p.2 q.2) := by
  obtain ⟨batch, hsub, hfst, hperm, -, hpair⟩ := partitionFrom_spec strategy first []
  exact ⟨batch, _, Prod.ext hfst rfl, hsub, hperm, hpair⟩

lemma partition_apart {first batch : List (ι × StateCommand K)} {rest : List ι}
    (hpart : partitionCommands first strategy = (batch.map (·.2), rest))
    (hsub : batch.Sublist first)
    (hapart : first.Pairwise (fun p q => ExclusiveApart strategy p.2 q.2)) :
    batch = first ∧ rest = [] := by
  have hall : partitionCommands first strategy = (first.map (·.2), []) :=
    partitionFrom_all (by simp) hapart
  obtain ⟨hmap, hrest⟩ := Prod.mk.inj (hpart.symm.trans hall)
  have hlen := congrArg List.length hmap
  rw [List.length_map, List.length_map] at hlen
  exact ⟨hsub.eq_of_length hlen, hrest⟩

lemma merge_batch (store : StateStore K) {cmds : List (StateCommand K)}
    (hpair : cmds.Pairwise (ExclusiveApart store.registry.mergeStrategy)) :
    (∀ key, store.mergeAllCommands cmds ≠ .error (.parallelMergeConflict key)) ∧
      ((∀ c ∈ cmds, c.baseRevision = some store.revision) →
        ∃ merged, store.mergeAllCommands cmds = .ok merged) := by
  constructor
  · intro key h
    obtain ⟨l, r, he⟩ := mergeAll_error (fun c _ => (accepts_new c).disjoint) hpair h
    exact nomatch he
  · intro hbase
    refine ⟨_, mergeAllCommands_ok.mpr ⟨?_, rfl⟩⟩
    refine hpair.imp_of_mem ?_
    intro c d hc hd hcd
    refine ⟨?_, hcd⟩
    intro l r hl hr
    have hl' := (hbase c hc).symm.trans hl
    have hr' := (hbase d hd).symm.trans hr
    exact Option.some.inj (hl'.symm.trans hr')

end Merge

end Awaken.Engine
