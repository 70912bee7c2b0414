import Mathlib.Order.Lattice
import Mathlib.Data.List.Basic

namespace Awaken.Lib

variable {α β : Type} [LinearOrder β] (rank : α → β)

def laterMax (best : Option α) (a : α) : Option α :=
  match best with
  | none => some a
  | some b => if rank b ≤ rank a then some a else some b

def maxBy (l : List α) : Option α := l.foldl (laterMax rank) none

lemma foldl_laterMax (l : List α) (b : α) :
    ∃ m, l.foldl (laterMax rank) (some b) = some m ∧ m ∈ b :: l ∧ ∀ a ∈ b :: l, rank a ≤ rank m := by
  induction l generalizing b with
  | nil => exact ⟨b, rfl, List.mem_cons_self, fun a ha => by rw [List.mem_singleton.mp ha]⟩
  | cons a l ih =>
    rw [List.foldl_cons, laterMax]
    split
    · rename_i hle
      obtain ⟨m, hm, hmem, hmax⟩ := ih a
      refine ⟨m, hm, List.mem_cons_of_mem _ hmem, fun x hx => ?_⟩
      rcases List.mem_cons.mp hx with rfl | hx
      · exact hle.trans (hmax a List.mem_cons_self)
      · exact hmax x hx
    · rename_i hlt
      obtain ⟨m, hm, hmem, hmax⟩ := ih b
      refine ⟨m, hm, ?_, fun x hx => ?_⟩
      · rcases List.mem_cons.mp hmem with rfl | hmem
        · exact List.mem_cons_self
        · exact List.mem_cons_of_mem _ (List.mem_cons_of_mem _ hmem)
      · rcases List.mem_cons.mp hx with rfl | hx
        · exact hmax x List.mem_cons_self
        · rcases List.mem_cons.mp hx with rfl | hx
          · exact (le_of_not_ge hlt).trans (hmax b List.mem_cons_self)
          · exact hmax x (List.mem_cons_of_mem _ hx)

variable {rank}

theorem maxBy_eq_none {l : List α} : maxBy rank l = none ↔ l = [] := by
  cases l with
  | nil => exact ⟨fun _ => rfl, fun _ => rfl⟩
  | cons a l =>
    obtain ⟨m, hm, -⟩ := foldl_laterMax rank l a
    refine ⟨fun h => ?_, fun h => nomatch h⟩
    rw [maxBy, List.foldl_cons, laterMax, hm] at h
    cases h

theorem maxBy_eq_some {l : List α} {m : α} (h : maxBy rank l = some m) :
    m ∈ l ∧ ∀ a ∈ l, rank a ≤ rank m := by
  cases l with
  | nil => cases h
  | cons a l =>
    obtain ⟨m', hm, hmem, hmax⟩ := foldl_laterMax rank l a
    rw [maxBy, List.foldl_cons, laterMax, hm] at h
    obtain rfl := Option.some.inj h
    exact ⟨hmem, hmax⟩

theorem maxBy_perm {l l' : List α} (h : l.Perm l') :
    (maxBy rank l).map rank = (maxBy rank l').map rank := by
  cases hm : maxBy rank l with
  | none =>
    rw [maxBy_eq_none] at hm
    rw [hm, List.nil_perm] at h
    rw [(maxBy_eq_none).mpr h]
  | some m =>
    obtain ⟨hmem, hmax⟩ := maxBy_eq_some hm
    cases hm' : maxBy rank l' with
    | none =>
      rw [(maxBy_eq_none).mp hm'] at h
      rw [h.eq_nil] at hmem
      cases hmem
    | some m' =>
      obtain ⟨hmem', hmax'⟩ := maxBy_eq_some hm'
      exact congrArg some (le_antisymm (hmax' m (h.mem_iff.mp hmem)) (hmax m' (h.mem_iff.mpr hmem')))

end Awaken.Lib
