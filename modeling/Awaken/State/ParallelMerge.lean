import Awaken.State.Store

namespace Awaken.State

open Awaken.Lib

variable {J κ : Type} {K : κ → StateKey J}

section Accepted

variable {strategy : String → MergeStrategy} {acc c d m : StateCommand K}
  {cmds cmds' : List (StateCommand K)}

def mergeAll (strategy : String → MergeStrategy) (acc : StateCommand K)
    (cmds : List (StateCommand K)) : Except StateError (StateCommand K) :=
  cmds.foldlM (fun acc cmd => acc.mergeParallel cmd strategy) acc

def Accepts (strategy : String → MergeStrategy) (c d : StateCommand K) : Prop :=
  MutationBatch.Compatible strategy c.patch d.patch

def joined (c d : StateCommand K) : StateCommand K where
  patch := c.patch.appended d.patch (c.patch.baseRevision.or d.patch.baseRevision)
  scheduledActions := c.scheduledActions ++ d.scheduledActions
  effects := c.effects ++ d.effects

lemma mergeParallel_ok : c.mergeParallel d strategy = .ok m ↔ Accepts strategy c d ∧ m = joined c d := by
  unfold StateCommand.mergeParallel
  constructor
  · intro h
    cases hp : c.patch.mergeParallel d.patch strategy with
    | error e =>
      rw [hp] at h
      exact nomatch h
    | ok p =>
      rw [hp] at h
      obtain ⟨hc, rfl⟩ := (MutationBatch.mergeParallel_ok).mp hp
      exact ⟨hc, (Except.ok.inj h).symm⟩
  · rintro ⟨hc, rfl⟩
    rw [(MutationBatch.mergeParallel_ok).mpr ⟨hc, rfl⟩]
    rfl

theorem mergeAll_ok (cmds : List (StateCommand K)) (acc : StateCommand K) :
    mergeAll strategy acc cmds = .ok m ↔
      (∀ c ∈ cmds, Accepts strategy acc c) ∧ cmds.Pairwise (Accepts strategy) ∧
        m = cmds.foldl joined acc := by
  induction cmds generalizing acc with
  | nil => simp [mergeAll, pure, Except.pure, eq_comm]
  | cons c cmds ih =>
    have hcons : mergeAll strategy acc (c :: cmds) =
        (acc.mergeParallel c strategy).bind (fun acc => mergeAll strategy acc cmds) := rfl
    rw [hcons, List.forall_mem_cons, List.pairwise_cons, List.foldl_cons]
    by_cases hc : Accepts strategy acc c
    · have hm : acc.mergeParallel c strategy = .ok (joined acc c) := (mergeParallel_ok).mpr ⟨hc, rfl⟩
      have hj : (∀ d ∈ cmds, Accepts strategy (joined acc c) d) ↔
          (∀ d ∈ cmds, Accepts strategy acc d) ∧ ∀ d ∈ cmds, Accepts strategy c d := by
        rw [← forall₂_and]
        exact forall₂_congr (fun d _ => MutationBatch.compatible_appended hc)
      rw [hm]
      change mergeAll strategy (joined acc c) cmds = .ok m ↔ _
      rw [ih, hj]
      tauto
    · constructor
      · intro h
        cases hm : acc.mergeParallel c strategy with
        | error e =>
          rw [hm] at h
          exact nomatch h
        | ok p => exact absurd (mergeParallel_ok.mp hm).1 hc
      · exact fun h => absurd h.1.1 hc

lemma accepts_new (c : StateCommand K) : Accepts strategy .new c where
  base _ _ h := nomatch h
  disjoint _ _ h := nomatch h

lemma foldl_joined {α : Type} (f : StateCommand K → List α)
    (hf : ∀ c d, f (joined c d) = f c ++ f d) (cmds : List (StateCommand K)) (acc : StateCommand K) :
    f (cmds.foldl joined acc) = f acc ++ cmds.flatMap f := by
  induction cmds generalizing acc with
  | nil => simp
  | cons c cmds ih => rw [List.foldl_cons, ih, List.flatMap_cons, hf, List.append_assoc]

lemma foldl_joined_ops (cmds : List (StateCommand K)) (acc : StateCommand K) :
    (cmds.foldl joined acc).patch.ops = acc.patch.ops ++ cmds.flatMap (·.patch.ops) :=
  foldl_joined (·.patch.ops) (fun _ _ => rfl) cmds acc

lemma foldl_joined_base (cmds : List (StateCommand K)) (acc : StateCommand K) :
    (cmds.foldl joined acc).baseRevision = (acc :: cmds).findSome? (·.baseRevision) := by
  induction cmds generalizing acc with
  | nil => cases h : acc.baseRevision <;> simp [h]
  | cons c cmds ih =>
    rw [List.foldl_cons, ih, List.findSome?_cons, List.findSome?_cons, List.findSome?_cons]
    have hj : (joined acc c).baseRevision = acc.baseRevision.or c.baseRevision := rfl
    rw [hj]
    cases acc.baseRevision <;> cases c.baseRevision <;> rfl

lemma findSome_base (h : cmds.Pairwise (Accepts strategy)) {r : Nat} :
    cmds.findSome? (·.baseRevision) = some r ↔ ∃ c ∈ cmds, c.baseRevision = some r := by
  have hall := List.Pairwise.forall_of_forall_of_flip
    (R := fun c d : StateCommand K =>
      ∀ x y, c.baseRevision = some x → d.baseRevision = some y → x = y)
    (fun c _ x y hx hy => Option.some.inj (hx.symm.trans hy)) (h.imp (fun hcd => hcd.base))
    (h.imp (fun hcd x y hx hy => (hcd.base y x hy hx).symm))
  constructor
  · exact List.exists_of_findSome?_eq_some
  · rintro ⟨c, hc, hr⟩
    cases hf : cmds.findSome? (·.baseRevision) with
    | none => exact absurd (List.findSome?_eq_none_iff.mp hf c hc) (by simp [hr])
    | some x =>
      obtain ⟨d, hd, hx⟩ := List.exists_of_findSome?_eq_some hf
      rw [hall hd hc x r hx hr]

end Accepted

section Commit

variable [DecidableEq κ] {store : StateStore K} {p p' : MutationBatch K}

lemma forM_ok {ε α : Type} {f : α → Except ε Unit} (xs : List α) :
    xs.forM f = .ok () ↔ ∀ x ∈ xs, f x = .ok () := by
  induction xs with
  | nil => simp [pure, Except.pure]
  | cons x xs ih =>
    have hcons : (x :: xs).forM f = (f x).bind (fun _ => xs.forM f) := rfl
    rw [hcons, List.forall_mem_cons, ← ih]
    cases f x <;> simp [Except.bind]

omit [DecidableEq κ] in
lemma validate_ok : store.validate p = .ok () ↔
    store.checkBase p.baseRevision = .ok () ∧
      ∀ key ∈ p.touchedKeys, store.registry.ensureKey key = .ok () := by
  rw [← forM_ok]
  unfold StateStore.validate
  cases hb : store.checkBase p.baseRevision with
  | error e => simp [bind, Except.bind]
  | ok u => simp [bind, Except.bind]

lemma commit_ok (hn : p.isEmpty = false) (hv : store.validate p = .ok ()) :
    store.commit p = (.ok (store.inner.revision + 1), store.applied p.ops) := by
  simp only [StateStore.commit, hn, hv, Bool.false_eq_true, if_false]

lemma commit_error (hn : p.isEmpty = false) (hv : store.validate p ≠ .ok ()) :
    ∃ e, store.commit p = (.error e, store) := by
  cases h : store.validate p with
  | ok u => exact absurd h hv
  | error e => exact ⟨e, by simp only [StateStore.commit, hn, h, Bool.false_eq_true, if_false]⟩

lemma commit_congr (hb : p.baseRevision = p'.baseRevision)
    (hk : ∀ key, key ∈ p.touchedKeys ↔ key ∈ p'.touchedKeys) (he : p.isEmpty = p'.isEmpty)
    (ho : p.ops.foldl MutationOp.apply store.inner.ext =
      p'.ops.foldl MutationOp.apply store.inner.ext) :
    (store.commit p).2 = (store.commit p').2 ∧
      (store.commit p).1.toOption = (store.commit p').1.toOption := by
  have ha : store.applied p.ops = store.applied p'.ops := by
    simp only [StateStore.applied, ho]
  cases hn : p.isEmpty with
  | true => simp only [StateStore.commit, hn, ← he, if_true, and_self]
  | false =>
    have hn' : p'.isEmpty = false := he.symm.trans hn
    have hv : store.validate p = .ok () ↔ store.validate p' = .ok () := by
      rw [validate_ok, validate_ok, hb]
      exact and_congr_right (fun _ => forall_congr' (fun key => by rw [hk]))
    by_cases h : store.validate p = .ok ()
    · rw [commit_ok hn h, commit_ok hn' (hv.mp h), ha]
      exact ⟨rfl, rfl⟩
    · obtain ⟨e, h₁⟩ := commit_error hn h
      obtain ⟨e', h₂⟩ := commit_error hn' (fun h' => h (hv.mpr h'))
      rw [h₁, h₂]
      exact ⟨rfl, rfl⟩

end Commit

section Order

variable {store : StateStore K} {cmds cmds' : List (StateCommand K)} {merged : StateCommand K}

/-- No command empties a Commutative key that the other one touches. -/
def ClearsApart (strategy : String → MergeStrategy) (c d : StateCommand K) : Prop :=
  ∀ k, strategy (K k).key = .commutative →
    (.clearKey k ∈ c.patch.ops → (K k).key ∉ d.patch.touchedKeys) ∧
      (.clearKey k ∈ d.patch.ops → (K k).key ∉ c.patch.touchedKeys)

lemma key_mem_touched {c : StateCommand K} {op : MutationOp K} (h : op ∈ c.patch.ops) :
    op.key ∈ c.patch.touchedKeys := by
  rw [c.patch.touched]
  exact List.mem_map.mpr ⟨op, h, rfl⟩

lemma mergeAllCommands_ok : store.mergeAllCommands cmds = .ok merged ↔
    cmds.Pairwise (Accepts store.registry.mergeStrategy) ∧ merged = cmds.foldl joined .new := by
  have h : mergeAll store.registry.mergeStrategy .new cmds = .ok merged ↔ _ :=
    mergeAll_ok cmds .new
  rw [show store.mergeAllCommands cmds = mergeAll store.registry.mergeStrategy .new cmds from rfl, h]
  exact and_iff_right (fun c _ => accepts_new c)

variable [DecidableEq κ]

lemma ops_commute {strategy : String → MergeStrategy} {c d : StateCommand K}
    (hcomm : ∀ k, strategy (K k).key = .commutative → (K k).Commutative)
    (ha : Accepts strategy c d) (hcl : ClearsApart strategy c d) :
    ∀ x ∈ c.patch.ops, ∀ y ∈ d.patch.ops, Commutes MutationOp.apply x y := by
  intro x hx y hy
  by_cases hs : x.slot = y.slot
  · have hkey : x.key = y.key := congrArg (fun k => (K k).key) hs
    have hstrat : strategy x.key = .commutative := by
      cases h : strategy x.key with
      | commutative => rfl
      | exclusive => exact absurd (hkey ▸ key_mem_touched hy) (ha.disjoint _ h (key_mem_touched hx))
    cases x with
    | clearKey k =>
      have hy' := key_mem_touched hy
      rw [← hkey] at hy'
      exact absurd hy' ((hcl k hstrat).1 hx)
    | keyPatch k u =>
      cases y with
      | clearKey j =>
        have hj : k = j := hs
        subst hj
        exact absurd (key_mem_touched hx) ((hcl k hstrat).2 hy)
      | keyPatch j v =>
        have hj : k = j := hs
        subst hj
        exact MutationOp.commutes_of_keyPatch (hcomm k hstrat) u v
  · exact MutationOp.commutes_of_slot_ne hs

/-- Commands that were merged in one order are merged in every other order, and the merged commands
commit alike; commands that share an Exclusive key are merged in no order. -/
theorem merge_order_independent (store : StateStore K)
    (hcomm : ∀ k, store.registry.mergeStrategy (K k).key = .commutative → (K k).Commutative) :
    (∀ cmds cmds' merged, store.mergeAllCommands cmds = .ok merged → cmds.Perm cmds' →
      cmds.Pairwise (ClearsApart store.registry.mergeStrategy) →
      ∃ merged', store.mergeAllCommands cmds' = .ok merged' ∧
        (store.commit merged.patch).2 = (store.commit merged'.patch).2 ∧
        (store.commit merged.patch).1.toOption = (store.commit merged'.patch).1.toOption ∧
        ∀ key, key ∈ merged.patch.touchedKeys ↔ key ∈ merged'.patch.touchedKeys) ∧
    ∀ cmds cmds' c d key, [c, d].Sublist cmds → cmds.Perm cmds' →
      store.registry.mergeStrategy key = .exclusive → key ∈ c.patch.touchedKeys →
      key ∈ d.patch.touchedKeys → ∃ e, store.mergeAllCommands cmds' = .error e := by
  have hsymm : ∀ {c d : StateCommand K}, Accepts store.registry.mergeStrategy c d →
      Accepts store.registry.mergeStrategy d c := fun h => MutationBatch.Compatible.symm h
  constructor
  · intro cmds cmds' merged hm hp hcl
    obtain ⟨hacc, rfl⟩ := (mergeAllCommands_ok).mp hm
    have hacc' := hacc.perm hp hsymm
    refine ⟨_, (mergeAllCommands_ok).mpr ⟨hacc', rfl⟩, ?_⟩
    set m := cmds.foldl joined .new with hm
    set m' := cmds'.foldl joined .new with hm'
    have hops : m.patch.ops.Perm m'.patch.ops := by
      rw [hm, hm', foldl_joined_ops, foldl_joined_ops]
      exact (hp.flatMap_right _).append_left _
    have hkeys : ∀ key, key ∈ m.patch.touchedKeys ↔ key ∈ m'.patch.touchedKeys := by
      intro key
      rw [m.patch.touched, m'.patch.touched]
      exact (hops.map _).mem_iff
    have hbase : m.patch.baseRevision = m'.patch.baseRevision := by
      ext r
      change m.baseRevision = some r ↔ m'.baseRevision = some r
      rw [hm, hm', foldl_joined_base, foldl_joined_base, List.findSome?_cons, List.findSome?_cons]
      change cmds.findSome? (·.baseRevision) = some r ↔ cmds'.findSome? (·.baseRevision) = some r
      rw [findSome_base hacc, findSome_base hacc']
      exact exists_congr (fun c => and_congr_left (fun _ => hp.mem_iff))
    have hempty : m.patch.isEmpty = m'.patch.isEmpty := by
      rw [MutationBatch.isEmpty, MutationBatch.isEmpty, Bool.eq_iff_iff, List.isEmpty_iff,
        List.isEmpty_iff, ← List.length_eq_zero_iff, ← List.length_eq_zero_iff, hops.length_eq]
    have hfold : m.patch.ops.foldl MutationOp.apply store.inner.ext =
        m'.patch.ops.foldl MutationOp.apply store.inner.ext := by
      rw [hm, hm', foldl_joined_ops, foldl_joined_ops]
      exact foldl_flatMap_perm hp
        (hacc.imp₂ (fun c d ha hcd => ops_commute hcomm ha hcd) hcl) store.inner.ext
    obtain ⟨hs, hr⟩ := commit_congr hbase hkeys hempty hfold
    exact ⟨hs, hr, hkeys⟩
  · intro cmds cmds' c d key hsub hp hs hc hd
    cases h : store.mergeAllCommands cmds' with
    | error e => exact ⟨e, rfl⟩
    | ok m =>
      have hacc := (mergeAllCommands_ok.mp h).1.perm hp.symm hsymm
      have hcd := List.pairwise_cons.mp (hacc.sublist hsub)
      exact absurd hd ((hcd.1 d List.mem_cons_self).disjoint key hs hc)

end Order

section Counter

def counter : Unit → StateKey Nat := fun _ =>
  { key := "counter", merge := .commutative, Value := Nat, Update := Nat, default := 0,
    apply := fun value update => value + update, codec := ⟨.ok, .ok⟩ }

def counterStore : StateStore counter :=
  ⟨⟨0, .empty⟩, PluginRegistry.empty.insertKey (.new counter () ⟨true, false, .run⟩)⟩

lemma counter_commutative (k : Unit)
    (_ : counterStore.registry.mergeStrategy (counter k).key = .commutative) :
    (counter k).Commutative := fun a b s => Nat.add_right_comm s a b

def addCommand (n : Nat) : StateCommand counter := ⟨MutationBatch.new.update () n, [], []⟩

def clearCommand : StateCommand counter := ⟨MutationBatch.new.clearExtensionWith (), [], []⟩

theorem merge_order_independent_counter :
    ∃ merged', counterStore.mergeAllCommands [addCommand 2, addCommand 1] = .ok merged' ∧
      (counterStore.commit (joined (joined .new (addCommand 1)) (addCommand 2)).patch).2 =
        (counterStore.commit merged'.patch).2 ∧
      (counterStore.commit (joined (joined .new (addCommand 1)) (addCommand 2)).patch).1.toOption =
        (counterStore.commit merged'.patch).1.toOption ∧
      ∀ key, key ∈ (joined (joined .new (addCommand 1)) (addCommand 2)).patch.touchedKeys ↔
        key ∈ merged'.patch.touchedKeys :=
  (merge_order_independent counterStore counter_commutative).1 [addCommand 1, addCommand 2]
    [addCommand 2, addCommand 1] _ rfl (.swap _ _ _)
    (by simp [ClearsApart, addCommand, MutationBatch.update, MutationBatch.push, MutationBatch.new])

theorem clear_order_dependent :
    ¬ ∀ cmds cmds' merged, counterStore.mergeAllCommands cmds = .ok merged → cmds.Perm cmds' →
      ∃ merged', counterStore.mergeAllCommands cmds' = .ok merged' ∧
        (counterStore.commit merged.patch).2 = (counterStore.commit merged'.patch).2 := by
  intro h
  obtain ⟨merged', hm, hs⟩ := h [clearCommand, addCommand 1] [addCommand 1, clearCommand]
    (joined (joined .new clearCommand) (addCommand 1)) rfl (.swap _ _ _)
  obtain rfl : joined (joined .new (addCommand 1)) clearCommand = merged' := Except.ok.inj hm
  have hv : (some 1 : Option Nat) = none := congrArg (fun store => store.read ()) hs
  exact nomatch hv

end Counter

end Awaken.State
