import Mathlib.Data.List.Basic
import Mathlib.Logic.Relation
import Mathlib.Tactic.Lemma

/-! A walk over a finite graph with a stack of nodes to visit. The graph is the list of its edges,
from a node to the next. -/

namespace Awaken.Lib

variable {α : Type} [DecidableEq α]

def nextOf (edges : List (α × α)) (a : α) : List α :=
  (edges.filter (fun edge => edge.1 = a)).map Prod.snd

def ahead (edges : List (α × α)) (visited : List α) : List (α × α) :=
  edges.filter (fun edge => edge.1 ∉ visited)

lemma mem_nextOf {edges : List (α × α)} {a b : α} : b ∈ nextOf edges a ↔ (a, b) ∈ edges := by
  rw [nextOf, List.mem_map]
  constructor
  · rintro ⟨edge, hedge, rfl⟩
    obtain ⟨hmem, ha⟩ := List.mem_filter.mp hedge
    rw [← of_decide_eq_true ha]
    exact hmem
  · exact fun h => ⟨(a, b), List.mem_filter.mpr ⟨h, decide_eq_true rfl⟩, rfl⟩

lemma length_ahead {visited : List α} {a : α} (h : a ∉ visited) (edges : List (α × α)) :
    (ahead edges (visited ++ [a])).length + (nextOf edges a).length =
      (ahead edges visited).length := by
  induction edges with
  | nil => rfl
  | cons edge edges ih =>
    simp only [ahead, nextOf, List.length_map] at ih ⊢
    by_cases ha : edge.1 = a
    · have hnew : edge.1 ∉ visited := ha ▸ h
      have hold : ¬ edge.1 ∉ visited ++ [a] := by simp [ha]
      rw [List.filter_cons_of_neg (by simpa using hold), List.filter_cons_of_pos (by simpa using ha),
        List.filter_cons_of_pos (by simpa using hnew), List.length_cons, List.length_cons]
      omega
    · by_cases hv : edge.1 ∈ visited
      · rw [List.filter_cons_of_neg (by simp [hv]), List.filter_cons_of_neg (by simpa using ha),
          List.filter_cons_of_neg (by simpa using hv)]
        exact ih
      · rw [List.filter_cons_of_pos (by simp [hv, ha]), List.filter_cons_of_neg (by simpa using ha),
          List.filter_cons_of_pos (by simpa using hv), List.length_cons, List.length_cons]
        omega

def walk (edges : List (α × α)) : List α → List α → List α
  | [], visited => visited
  | a :: stack, visited =>
    if a ∈ visited then walk edges stack visited
    else walk edges ((nextOf edges a).reverse ++ stack) (visited ++ [a])
termination_by stack visited => (ahead edges visited).length + stack.length
decreasing_by
  · simp
  · rename_i hnew
    have hless := length_ahead hnew edges
    simp only [List.length_append, List.length_reverse, List.length_cons]
    omega

def Leads (edges : List (α × α)) (a b : α) : Prop :=
  Relation.ReflTransGen (fun a b => (a, b) ∈ edges) a b

section Walk

variable {edges : List (α × α)} {P : α → Prop}

lemma walk_sound (hP : ∀ a b, (a, b) ∈ edges → P a → P b) (stack visited : List α)
    (hstack : ∀ a ∈ stack, P a) (hvisited : ∀ a ∈ visited, P a) :
    ∀ a ∈ walk edges stack visited, P a := by
  induction stack, visited using walk.induct edges with
  | case1 visited =>
    rw [walk]
    exact hvisited
  | case2 a stack visited hseen ih =>
    rw [walk, if_pos hseen]
    exact ih (fun b hb => hstack b (List.mem_cons_of_mem _ hb)) hvisited
  | case3 a stack visited hnew ih =>
    obtain ⟨ha, hstack⟩ := List.forall_mem_cons.mp hstack
    rw [walk, if_neg hnew]
    refine ih (fun b hb => ?_) (fun b hb => ?_)
    · rcases List.mem_append.mp hb with hnext | hrest
      · exact hP a b (mem_nextOf.mp (List.mem_reverse.mp hnext)) ha
      · exact hstack b hrest
    · rcases List.mem_append.mp hb with hold | hlast
      · exact hvisited b hold
      · rw [List.mem_singleton.mp hlast]
        exact ha

lemma walk_closed (stack visited : List α)
    (hclosed : ∀ a ∈ visited, ∀ b, (a, b) ∈ edges → b ∈ visited ∨ b ∈ stack) :
    (∀ a, a ∈ visited ∨ a ∈ stack → a ∈ walk edges stack visited) ∧
      ∀ a ∈ walk edges stack visited, ∀ b, (a, b) ∈ edges → b ∈ walk edges stack visited := by
  induction stack, visited using walk.induct edges with
  | case1 visited =>
    rw [walk]
    exact ⟨fun a ha => ha.resolve_right (by simp),
      fun a ha b hb => (hclosed a ha b hb).resolve_right (by simp)⟩
  | case2 a stack visited hseen ih =>
    rw [walk, if_pos hseen]
    have hrest : ∀ c ∈ visited, ∀ b, (c, b) ∈ edges → b ∈ visited ∨ b ∈ stack := by
      intro c hc b hb
      rcases hclosed c hc b hb with hold | hmem
      · exact .inl hold
      · rcases List.mem_cons.mp hmem with rfl | hrest
        · exact .inl hseen
        · exact .inr hrest
    obtain ⟨hall, hout⟩ := ih hrest
    refine ⟨fun b hb => hall b ?_, hout⟩
    rcases hb with hold | hmem
    · exact .inl hold
    · rcases List.mem_cons.mp hmem with rfl | hrest
      · exact .inl hseen
      · exact .inr hrest
  | case3 a stack visited hnew ih =>
    rw [walk, if_neg hnew]
    have hrest : ∀ c ∈ visited ++ [a], ∀ b, (c, b) ∈ edges →
        b ∈ visited ++ [a] ∨ b ∈ (nextOf edges a).reverse ++ stack := by
      intro c hc b hb
      rcases List.mem_append.mp hc with hold | hlast
      · rcases hclosed c hold b hb with hseen | hmem
        · exact .inl (List.mem_append_left _ hseen)
        · rcases List.mem_cons.mp hmem with rfl | hrest
          · exact .inl (List.mem_append_right _ (List.mem_singleton_self _))
          · exact .inr (List.mem_append_right _ hrest)
      · rw [List.mem_singleton.mp hlast] at hb
        exact .inr (List.mem_append_left _ (List.mem_reverse.mpr (mem_nextOf.mpr hb)))
    obtain ⟨hall, hout⟩ := ih hrest
    refine ⟨fun b hb => hall b ?_, hout⟩
    rcases hb with hold | hmem
    · exact .inl (List.mem_append_left _ hold)
    · rcases List.mem_cons.mp hmem with rfl | hrest
      · exact .inl (List.mem_append_right _ (List.mem_singleton_self _))
      · exact .inr (List.mem_append_right _ hrest)

theorem mem_walk_iff {root a : α} : a ∈ walk edges [root] [] ↔ Leads edges root a := by
  constructor
  · exact walk_sound (P := Leads edges root) (fun b c hbc hb => hb.tail hbc) [root] []
      (fun b hb => by rw [List.mem_singleton.mp hb]; exact .refl) (by simp) a
  · intro h
    obtain ⟨hall, hout⟩ := @walk_closed α _ edges [root] [] (by simp)
    induction h with
    | refl => exact hall root (.inr (List.mem_singleton_self _))
    | tail _ hbc ih => exact hout _ ih _ hbc

end Walk

end Awaken.Lib
