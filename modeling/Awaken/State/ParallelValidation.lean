import Mathlib.Data.List.Nodup
import Awaken.State.ParallelMerge

namespace Awaken.State

open Awaken.Lib

structure ToolStateBatch where
  callId : String
  touchedKeys : List String

inductive ParallelMergeError where
  | exclusiveConflict (key leftCallId rightCallId : String)

def addOwner (callId : String) (owners : Table String (List String)) (key : String) :
    Table String (List String) :=
  owners.insert key ((owners.get key).getD [] ++ [callId])

def addBatch (owners : Table String (List String)) (batch : ToolStateBatch) :
    Table String (List String) :=
  batch.touchedKeys.foldl (addOwner batch.callId) owners

def keyOwners (batches : List ToolStateBatch) : Table String (List String) :=
  batches.foldl addBatch .empty

def isContested (strategy : String → MergeStrategy) (entry : String × List String) : Bool :=
  1 < entry.2.length && strategy entry.1 = .exclusive

def validateParallelStateBatches (strategy : String → MergeStrategy)
    (batches : List ToolStateBatch) : Except ParallelMergeError Unit :=
  match (keyOwners batches).entries.find? (isContested strategy) with
  | some (key, left :: right :: _) => .error (.exclusiveConflict key left right)
  | _ => .ok ()

variable {strategy : String → MergeStrategy}

section Owners

def ownerCount (owners : Table String (List String)) (key : String) : Nat :=
  ((owners.get key).getD []).length

lemma ownerCount_addOwners (callId : String) (keys : List String)
    (owners : Table String (List String)) (key : String) :
    ownerCount (keys.foldl (addOwner callId) owners) key = ownerCount owners key + keys.count key := by
  induction keys generalizing owners with
  | nil => rfl
  | cons first keys ih =>
    rw [List.foldl_cons, ih, List.count_cons]
    have hfirst : ownerCount (addOwner callId owners first) key =
        ownerCount owners key + if (first == key) = true then 1 else 0 := by
      unfold ownerCount addOwner
      rw [Table.get_insert]
      by_cases hkey : key = first
      · subst hkey
        rw [if_pos rfl, if_pos (beq_self_eq_true key), Option.getD_some, List.length_append,
          List.length_singleton]
      · have hne : ¬ (first == key) = true := fun h => hkey (beq_iff_eq.mp h).symm
        rw [if_neg hkey, if_neg hne, Nat.add_zero]
    rw [hfirst]
    omega

lemma ownerCount_keyOwners (batches : List ToolStateBatch) (key : String) :
    ownerCount (keyOwners batches) key = (batches.flatMap (·.touchedKeys)).count key := by
  have hfold : ∀ owners : Table String (List String), ownerCount (batches.foldl addBatch owners) key =
      ownerCount owners key + (batches.flatMap (·.touchedKeys)).count key := by
    induction batches with
    | nil => exact fun _ => rfl
    | cons batch batches ih =>
      intro owners
      rw [List.foldl_cons, ih, addBatch, ownerCount_addOwners, List.flatMap_cons, List.count_append]
      omega
  rw [keyOwners, hfold]
  exact Nat.zero_add _

def isExclusive (strategy : String → MergeStrategy) (key : String) : Bool := strategy key = .exclusive

theorem validate_ok_iff (batches : List ToolStateBatch) :
    validateParallelStateBatches strategy batches = .ok () ↔
      ((batches.flatMap (·.touchedKeys)).filter (isExclusive strategy)).Nodup := by
  have hcount : ∀ key owners, (keyOwners batches).get key = some owners →
      owners.length = (batches.flatMap (·.touchedKeys)).count key := by
    intro key owners h
    rw [← ownerCount_keyOwners, ownerCount, h, Option.getD_some]
  have hfind : validateParallelStateBatches strategy batches = .ok () ↔
      (keyOwners batches).entries.find? (isContested strategy) = none := by
    unfold validateParallelStateBatches
    cases hfound : (keyOwners batches).entries.find? (isContested strategy) with
    | none => simp
    | some entry =>
      obtain ⟨key, owners⟩ := entry
      have hcontested := List.find?_some hfound
      rcases owners with _ | ⟨left, _ | ⟨right, owners⟩⟩
      · cases hcontested
      · cases hcontested
      · simp
  rw [hfind, List.find?_eq_none, List.nodup_iff_count_le_one]
  constructor
  · intro h key
    cases hexclusive : isExclusive strategy key with
    | false =>
      have hnot : key ∉ (batches.flatMap (·.touchedKeys)).filter (isExclusive strategy) := by
        intro hmem
        rw [(List.mem_filter.mp hmem).2] at hexclusive
        cases hexclusive
      rw [List.count_eq_zero_of_not_mem hnot]
      exact Nat.zero_le 1
    | true =>
      rw [List.count_filter hexclusive]
      cases howners : (keyOwners batches).get key with
      | none =>
        have hzero : ownerCount (keyOwners batches) key = 0 := by rw [ownerCount, howners]; rfl
        rw [← ownerCount_keyOwners, hzero]
        exact Nat.zero_le 1
      | some owners =>
        have hentry := h _ (Table.get_eq_some.mp howners)
        rw [← hcount key owners howners]
        refine Nat.le_of_not_lt fun hlt => hentry ?_
        exact Bool.and_eq_true_iff.mpr ⟨decide_eq_true hlt, hexclusive⟩
  · rintro h ⟨key, owners⟩ hmem hcontested
    obtain ⟨hlt, hexclusive⟩ := Bool.and_eq_true_iff.mp hcontested
    have hle := h key
    change isExclusive strategy key = true at hexclusive
    rw [List.count_filter hexclusive, ← hcount key owners (Table.get_eq_some.mpr hmem)] at hle
    exact absurd (of_decide_eq_true hlt) (Nat.not_lt.mpr hle)

end Owners

section Agreement

variable {J κ : Type} {K : κ → StateKey J}

def mergeBatches (strategy : String → MergeStrategy) (acc : MutationBatch K)
    (batches : List (MutationBatch K)) : Except StateError (MutationBatch K) :=
  batches.foldlM (fun acc batch => acc.mergeParallel batch strategy) acc

open MutationBatch

theorem mergeBatches_ok (acc : MutationBatch K) (batches : List (MutationBatch K)) :
    (∃ merged, mergeBatches strategy acc batches = .ok merged) ↔
      (∀ batch ∈ batches, Compatible strategy acc batch) ∧
        batches.Pairwise (Compatible strategy) := by
  induction batches generalizing acc with
  | nil => simp [mergeBatches, pure, Except.pure]
  | cons batch batches ih =>
    have hcons : mergeBatches strategy acc (batch :: batches) =
        (acc.mergeParallel batch strategy).bind (fun acc => mergeBatches strategy acc batches) := rfl
    rw [hcons, List.forall_mem_cons, List.pairwise_cons]
    by_cases hb : Compatible strategy acc batch
    · have hm := MutationBatch.mergeParallel_ok.mpr ⟨hb, rfl⟩
      have hj : (∀ other ∈ batches, Compatible strategy
          (acc.appended batch (acc.baseRevision.or batch.baseRevision)) other) ↔
          (∀ other ∈ batches, Compatible strategy acc other) ∧
            ∀ other ∈ batches, Compatible strategy batch other := by
        rw [← forall₂_and]
        exact forall₂_congr (fun other _ => compatible_appended hb)
      rw [hm]
      change (∃ merged, mergeBatches strategy _ batches = .ok merged) ↔ _
      rw [ih, hj]
      tauto
    · refine iff_of_false ?_ (fun h => hb h.1.1)
      rintro ⟨merged, h⟩
      obtain ⟨joined, hjoined, -⟩ := bind_eq_ok h
      exact hb (MutationBatch.mergeParallel_ok.mp hjoined).1

def toolStateBatch (call : String × MutationBatch K) : ToolStateBatch := ⟨call.1, call.2.touchedKeys⟩

def Shares (strategy : String → MergeStrategy) (a b : MutationBatch K) : Prop :=
  ∃ key, strategy key = .exclusive ∧ key ∈ a.touchedKeys ∧ key ∈ b.touchedKeys

/-- Two different batches touch one exclusive key. -/
def Conflicting (strategy : String → MergeStrategy) (batches : List (MutationBatch K)) : Prop :=
  ¬ batches.Pairwise fun a b => ¬ Shares strategy a b

/-- No two batches are based on different revisions. -/
def OneBase (batches : List (MutationBatch K)) : Prop :=
  batches.Pairwise fun a b => ∀ l r, a.baseRevision = some l → b.baseRevision = some r → l = r

/-- No batch has two operations on one exclusive key. -/
def TouchesOnce (strategy : String → MergeStrategy) (batches : List (MutationBatch K)) : Prop :=
  ∀ batch ∈ batches, (batch.touchedKeys.filter (isExclusive strategy)).Nodup

variable {calls : List (String × MutationBatch K)}

lemma validate_calls_iff : validateParallelStateBatches strategy (calls.map toolStateBatch) = .ok () ↔
    TouchesOnce strategy (calls.map (·.2)) ∧ ¬ Conflicting strategy (calls.map (·.2)) := by
  have hkeys : (calls.map toolStateBatch).flatMap (·.touchedKeys) =
      (calls.map (·.2)).flatMap (·.touchedKeys) := by
    rw [List.flatMap_map, List.flatMap_map]
    rfl
  rw [validate_ok_iff, hkeys, List.filter_flatMap, List.nodup_flatMap, Conflicting, not_not]
  refine and_congr Iff.rfl ?_
  have hpair : ∀ a b : MutationBatch K,
      (a.touchedKeys.filter (isExclusive strategy)).Disjoint
        (b.touchedKeys.filter (isExclusive strategy)) ↔ ¬ Shares strategy a b := by
    intro a b
    constructor
    · rintro h ⟨key, hexclusive, ha, hb⟩
      exact h (List.mem_filter.mpr ⟨ha, decide_eq_true hexclusive⟩)
        (List.mem_filter.mpr ⟨hb, decide_eq_true hexclusive⟩)
    · intro h key ha hb
      obtain ⟨ha, hexclusive⟩ := List.mem_filter.mp ha
      exact h ⟨key, of_decide_eq_true hexclusive, ha, (List.mem_filter.mp hb).1⟩
  exact ⟨fun h => h.imp fun {a b} hab => (hpair a b).mp hab,
    fun h => h.imp fun {a b} hab => (hpair a b).mpr hab⟩

lemma merge_calls_iff (batches : List (MutationBatch K)) :
    (∃ merged, mergeBatches strategy .new batches = .ok merged) ↔
      OneBase batches ∧ ¬ Conflicting strategy batches := by
  have hnew : ∀ batch ∈ batches, Compatible strategy .new batch :=
    fun _ _ => ⟨fun _ _ h => (by cases h), fun _ _ h => (by cases h)⟩
  have hpair : ∀ a b : MutationBatch K, Compatible strategy a b ↔
      (∀ l r, a.baseRevision = some l → b.baseRevision = some r → l = r) ∧ ¬ Shares strategy a b := by
    intro a b
    constructor
    · rintro ⟨hbase, hdisjoint⟩
      refine ⟨hbase, ?_⟩
      rintro ⟨key, hexclusive, ha, hb⟩
      exact hdisjoint key hexclusive ha hb
    · rintro ⟨hbase, hshares⟩
      exact ⟨hbase, fun key hexclusive ha hb => hshares ⟨key, hexclusive, ha, hb⟩⟩
  rw [mergeBatches_ok, Conflicting, not_not, OneBase, ← List.pairwise_and_iff]
  constructor
  · exact fun h => h.2.imp fun {a b} hab => (hpair a b).mp hab
  · exact fun h => ⟨hnew, h.imp fun {a b} hab => (hpair a b).mpr hab⟩

/-- The check agrees with the merge, and reports exactly the conflicts between different batches, if
and only if there is such a conflict, or no batch touches an exclusive key twice and all batches
have one base. -/
theorem validate_agrees_iff :
    ((validateParallelStateBatches strategy (calls.map toolStateBatch) = .ok () ↔
        ∃ merged, mergeBatches strategy .new (calls.map (·.2)) = .ok merged) ∧
      (validateParallelStateBatches strategy (calls.map toolStateBatch) ≠ .ok () ↔
        Conflicting strategy (calls.map (·.2)))) ↔
      Conflicting strategy (calls.map (·.2)) ∨
        TouchesOnce strategy (calls.map (·.2)) ∧ OneBase (calls.map (·.2)) := by
  rw [ne_eq, validate_calls_iff, merge_calls_iff]
  tauto

end Agreement

section Twice

def twiceBatch : MutationBatch counter :=
  (MutationBatch.new.update () (1 : Nat)).update () (2 : Nat)

theorem validate_rejects_one_batch :
    ¬ ∀ (strategy : String → MergeStrategy) (calls : List (String × MutationBatch counter)),
      (validateParallelStateBatches strategy (calls.map toolStateBatch) = .ok () ↔
          ∃ merged, mergeBatches strategy .new (calls.map (·.2)) = .ok merged) ∧
        (validateParallelStateBatches strategy (calls.map toolStateBatch) ≠ .ok () ↔
          Conflicting strategy (calls.map (·.2))) := by
  intro h
  have hagrees := (h (fun _ => .exclusive) [("call", twiceBatch)]).1
  have hok := hagrees.mpr ⟨_, rfl⟩
  cases hok

end Twice

end Awaken.State
