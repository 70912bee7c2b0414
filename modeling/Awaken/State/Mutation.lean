import Awaken.State.Slot

namespace Awaken.State

open Awaken.Lib

variable {J κ : Type} {K : κ → StateKey J}

inductive MutationOp (K : κ → StateKey J) where
  | keyPatch (k : κ) (update : (K k).Update)
  | clearKey (k : κ)

namespace MutationOp

def slot : MutationOp K → κ
  | keyPatch k _ => k
  | clearKey k => k

def key (op : MutationOp K) : String := (K op.slot).key

variable [DecidableEq κ]

def apply (map : StateMap K) : MutationOp K → StateMap K
  | keyPatch k update => map.update k update
  | clearKey k => map.remove k

lemma apply_of_ne {k : κ} {op : MutationOp K} (h : k ≠ op.slot) (map : StateMap K) :
    op.apply map k = map k := by
  cases op with
  | keyPatch j u => exact StateMap.update_of_ne h _ _
  | clearKey j => exact StateMap.remove_of_ne h _

lemma apply_slot (op : MutationOp K) {map map' : StateMap K} (h : map op.slot = map' op.slot) :
    op.apply map op.slot = op.apply map' op.slot := by
  cases op with
  | keyPatch k u =>
    change map k = map' k at h
    change map.update k u k = map'.update k u k
    rw [StateMap.update_self, StateMap.update_self, h]
  | clearKey k =>
    change map.remove k k = map'.remove k k
    rw [StateMap.remove_self, StateMap.remove_self]

theorem commutes_of_slot_ne {a b : MutationOp K} (h : a.slot ≠ b.slot) :
    Commutes MutationOp.apply a b := by
  intro map
  funext k
  by_cases ha : k = a.slot
  · subst ha
    rw [apply_of_ne h, apply_slot a (apply_of_ne h map).symm]
  · by_cases hb : k = b.slot
    · subst hb
      rw [apply_of_ne h.symm, apply_slot b (apply_of_ne h.symm map)]
    · rw [apply_of_ne hb, apply_of_ne ha, apply_of_ne ha, apply_of_ne hb]

theorem commutes_of_keyPatch {k : κ} (h : (K k).Commutative) (u v : (K k).Update) :
    Commutes MutationOp.apply (keyPatch k u : MutationOp K)
      (keyPatch k v) := by
  intro map
  funext j
  by_cases hj : j = k
  · subst hj
    simp only [apply, StateMap.update_self, Option.getD_some, h u v _]
  · simp only [apply, StateMap.update_of_ne hj]

end MutationOp

structure MutationBatch (K : κ → StateKey J) where
  baseRevision : Option Nat
  ops : List (MutationOp K)
  touchedKeys : List String
  touched : touchedKeys = ops.map MutationOp.key

namespace MutationBatch

def new : MutationBatch K := ⟨none, [], [], rfl⟩

def withBaseRevision (self : MutationBatch K) (revision : Nat) : MutationBatch K :=
  { self with baseRevision := some revision }

def isEmpty (self : MutationBatch K) : Bool := self.ops.isEmpty

def push (self : MutationBatch K) (op : MutationOp K) : MutationBatch K :=
  ⟨self.baseRevision, self.ops ++ [op], self.touchedKeys ++ [op.key], by
    rw [self.touched, List.map_append, List.map_singleton]⟩

def update (self : MutationBatch K) (k : κ) (update : (K k).Update) : MutationBatch K :=
  self.push (.keyPatch k update)

def clearExtensionWith (self : MutationBatch K) (k : κ) : MutationBatch K := self.push (.clearKey k)

def reconcile (left right : Option Nat) : Except StateError (Option Nat) :=
  match left, right with
  | some left, some right =>
    if left ≠ right then .error (.mutationBaseRevisionMismatch left right) else .ok (some left)
  | some left, none => .ok (some left)
  | none, some right => .ok (some right)
  | none, none => .ok none

def appended (self other : MutationBatch K) (base : Option Nat) : MutationBatch K :=
  ⟨base, self.ops ++ other.ops, self.touchedKeys ++ other.touchedKeys, by
    rw [self.touched, other.touched, List.map_append]⟩

def extend (self other : MutationBatch K) : Except StateError (MutationBatch K) := do
  let base ← reconcile self.baseRevision other.baseRevision
  return self.appended other base

def conflict (self other : MutationBatch K) (strategy : String → MergeStrategy) : Option String :=
  other.touchedKeys.find? (fun key =>
    decide (key ∈ self.touchedKeys) && decide (strategy key = .exclusive))

def mergeParallel (self other : MutationBatch K) (strategy : String → MergeStrategy) :
    Except StateError (MutationBatch K) := do
  let base ← reconcile self.baseRevision other.baseRevision
  match self.conflict other strategy with
  | some key => throw (.parallelMergeConflict key)
  | none => return self.appended other base

structure Compatible (strategy : String → MergeStrategy) (a b : MutationBatch K) : Prop where
  base : ∀ l r, a.baseRevision = some l → b.baseRevision = some r → l = r
  disjoint : ∀ key, strategy key = .exclusive → key ∈ a.touchedKeys → key ∉ b.touchedKeys

variable {a b c : MutationBatch K} {strategy : String → MergeStrategy}

lemma Compatible.symm (h : Compatible strategy a b) : Compatible strategy b a :=
  ⟨fun l r hl hr => (h.base r l hr hl).symm, fun key hs hb ha => h.disjoint key hs ha hb⟩

lemma reconcile_ok {l r o : Option Nat} :
    reconcile l r = .ok o ↔ (∀ x y, l = some x → r = some y → x = y) ∧ o = l.or r := by
  cases l with
  | none => cases r <;> simp [reconcile, eq_comm]
  | some x =>
    cases r with
    | none => simp [reconcile, eq_comm]
    | some y =>
      by_cases hxy : x = y
      · simp [reconcile, hxy, eq_comm]
      · simp [reconcile, hxy]

lemma conflict_eq_none : a.conflict b strategy = none ↔
    ∀ key, strategy key = .exclusive → key ∈ a.touchedKeys → key ∉ b.touchedKeys := by
  simp only [conflict, List.find?_eq_none, Bool.and_eq_true, decide_eq_true_eq, not_and]
  exact ⟨fun h key hs ha hb => h key hb ha hs, fun h key hb ha hs => h key hs ha hb⟩

theorem mergeParallel_ok : a.mergeParallel b strategy = .ok c ↔
    Compatible strategy a b ∧ c = a.appended b (a.baseRevision.or b.baseRevision) := by
  unfold mergeParallel
  constructor
  · intro h
    cases hr : reconcile a.baseRevision b.baseRevision with
    | error e =>
      rw [hr] at h
      exact nomatch h
    | ok base =>
      obtain ⟨hb, rfl⟩ := (reconcile_ok).mp hr
      rw [hr] at h
      cases hc : a.conflict b strategy with
      | some key =>
        simp only [hc] at h
        exact nomatch h
      | none =>
        simp only [hc] at h
        exact ⟨⟨hb, (conflict_eq_none).mp hc⟩, (Except.ok.inj h).symm⟩
  · rintro ⟨hc, rfl⟩
    rw [(reconcile_ok).mpr ⟨hc.base, rfl⟩, (conflict_eq_none).mpr hc.disjoint]
    rfl

lemma compatible_appended (h : Compatible strategy a b) :
    Compatible strategy (a.appended b (a.baseRevision.or b.baseRevision)) c ↔
      Compatible strategy a c ∧ Compatible strategy b c := by
  constructor
  · rintro ⟨hbase, hdis⟩
    refine ⟨⟨fun l r hl hr => hbase l r ?_ hr, fun key hs ha => hdis key hs ?_⟩,
      ⟨fun l r hl hr => ?_, fun key hs hb => hdis key hs ?_⟩⟩
    · change a.baseRevision.or b.baseRevision = some l
      rw [hl, Option.some_or]
    · exact List.mem_append.mpr (.inl ha)
    · cases ha : a.baseRevision with
      | none => exact hbase l r (by change a.baseRevision.or b.baseRevision = _; rw [ha, hl]; rfl) hr
      | some x =>
        have hx : x = r := hbase x r (by
          change a.baseRevision.or b.baseRevision = _
          rw [ha, Option.some_or]) hr
        rw [← hx, h.base x l ha hl]
    · exact List.mem_append.mpr (.inr hb)
  · rintro ⟨hac, hbc⟩
    refine ⟨fun l r hl hr => ?_, fun key hs hab => ?_⟩
    · rcases Option.or_eq_some_iff.mp hl with ha | ⟨-, hb⟩
      · exact hac.base l r ha hr
      · exact hbc.base l r hb hr
    · rcases List.mem_append.mp hab with ha | hb
      · exact hac.disjoint key hs ha
      · exact hbc.disjoint key hs hb

end MutationBatch

end Awaken.State
