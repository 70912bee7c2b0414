import Mathlib.Data.List.Nodup
import Mathlib.Data.List.Perm.Basic
import Mathlib.Tactic.Lemma

namespace Awaken.Lib

variable {α β : Type} {f : α → β} {p : α → Bool} {l : List α}

lemma filter_eq_nil_of_map_prefix {a : α} (ha : p a = false) (hn : ((a :: l).map f).Nodup)
    (h : ((a :: l).filter p).map f <+: (a :: l).map f) : l.filter p = [] := by
  rw [List.filter_cons_of_neg (by simp [ha])] at h
  cases hl : l.filter p with
  | nil => rfl
  | cons x xs =>
    rw [hl, List.map_cons, List.map_cons, List.cons_prefix_cons] at h
    have hx : x ∈ l := List.mem_of_mem_filter (hl ▸ List.mem_cons_self)
    rw [List.map_cons, List.nodup_cons] at hn
    exact absurd (List.mem_map.mpr ⟨x, hx, h.1⟩) hn.1

theorem filter_map_prefix_iff (hn : (l.map f).Nodup) :
    (l.filter p).map f <+: l.map f ↔ l.Pairwise (fun a b => p b = true → p a = true) := by
  induction l with
  | nil => simp
  | cons a l ih =>
    have hn' : (l.map f).Nodup := (List.nodup_cons.mp hn).2
    rw [List.pairwise_cons]
    cases ha : p a with
    | true =>
      rw [List.filter_cons_of_pos ha, List.map_cons, List.map_cons, List.cons_prefix_cons, ih hn']
      simp
    | false =>
      constructor
      · intro h
        have hnil := filter_eq_nil_of_map_prefix ha hn h
        have hall : ∀ b ∈ l, p b = false := by
          intro b hb
          simpa using (List.filter_eq_nil_iff.mp hnil) b hb
        refine ⟨fun b hb hpb => ?_, ?_⟩
        · rw [hall b hb] at hpb
          cases hpb
        · refine List.Pairwise.imp_of_mem ?_ (List.pairwise_of_forall (R := fun _ _ => True)
            (fun _ _ => trivial))
          intro b c _ hc _ hpc
          rw [hall c hc] at hpc
          cases hpc
      · rintro ⟨hall, -⟩
        have hnil : l.filter p = [] := by
          refine List.filter_eq_nil_iff.mpr (fun b hb hpb => ?_)
          have := hall b hb hpb
          cases this
        rw [List.filter_cons_of_neg (by simp [ha]), hnil]
        exact List.nil_prefix

lemma filter_append_filter_of_pairwise
    (h : l.Pairwise (fun a b => p b = true → p a = true)) :
    l.filter p ++ l.filter (fun a => !p a) = l := by
  induction l with
  | nil => rfl
  | cons a l ih =>
    obtain ⟨ha, hl⟩ := List.pairwise_cons.mp h
    cases hp : p a with
    | true => rw [List.filter_cons_of_pos hp, List.filter_cons_of_neg (by simp [hp]), List.cons_append,
        ih hl]
    | false =>
      have hnone : ∀ b ∈ l, p b = false := by
        intro b hb
        rw [← Bool.not_eq_true]
        intro hpb
        rw [ha b hb hpb] at hp
        cases hp
      rw [List.filter_cons_of_neg (by simp [hp]), List.filter_cons_of_pos (by simp [hp]),
        List.filter_eq_nil_iff.mpr (fun b hb => by simp [hnone b hb]), List.nil_append,
        List.filter_eq_self.mpr (fun b hb => by simp [hnone b hb])]

lemma map_set_of_eq {a : α} {i : Nat} (hi : i < l.length) (h : f a = f l[i]) :
    (l.set i a).map f = l.map f := by
  have hi' : i < (l.map f).length := by rwa [List.length_map]
  rw [List.map_set, h, ← List.getElem_map f (h := hi'), List.set_getElem_self]

lemma getElem?_append_singleton {l : List α} {a b : α} {k : Nat}
    (h : (l ++ [a])[k]? = some b) : l[k]? = some b ∨ (k = l.length ∧ b = a) := by
  rcases Nat.lt_trichotomy k l.length with hlt | rfl | hgt
  · rw [List.getElem?_append_left hlt] at h
    exact .inl h
  · rw [List.getElem?_concat_length] at h
    exact .inr ⟨rfl, (Option.some.inj h).symm⟩
  · rw [List.getElem?_eq_none (by simp; omega)] at h
    cases h

lemma exists_getElem?_of_filter {a : α} {i : Nat} (h : (l.filter p)[i]? = some a) :
    ∃ k, l[k]? = some a ∧ (l.drop (k + 1)).filter p = (l.filter p).drop (i + 1) := by
  induction l generalizing i with
  | nil => simp at h
  | cons b l ih =>
    by_cases hb : p b = true
    · rw [List.filter_cons_of_pos hb] at h ⊢
      cases i with
      | zero => exact ⟨0, h, rfl⟩
      | succ i =>
        obtain ⟨k, hk, hrest⟩ := ih h
        exact ⟨k + 1, hk, hrest⟩
    · rw [List.filter_cons_of_neg hb] at h ⊢
      obtain ⟨k, hk, hrest⟩ := ih h
      exact ⟨k + 1, hk, hrest⟩

lemma eraseDups_of_nodup [DecidableEq α] (h : l.Nodup) : l.eraseDups = l := by
  induction l with
  | nil => rfl
  | cons a l ih =>
    obtain ⟨ha, hl⟩ := List.nodup_cons.mp h
    have hkeep : l.filter (fun b => !b == a) = l := by
      refine List.filter_eq_self.mpr (fun b hb => ?_)
      have hne : b ≠ a := fun heq => ha (heq ▸ hb)
      simp [hne]
    rw [List.eraseDups_cons, hkeep, ih hl]

lemma eraseDups_append_cons_of_mem [DecidableEq α] {a : α} {m : List α} (h : a ∈ l) :
    (l ++ a :: m).eraseDups = (l ++ m).eraseDups := by
  rw [List.eraseDups_append, List.eraseDups_append, List.cons_removeAll]
  simp [h]

lemma exists_first {P : α → Prop} (h : ∃ a ∈ l, P a) :
    ∃ before a rest, l = before ++ a :: rest ∧ P a ∧ ∀ b ∈ before, ¬ P b := by
  induction l with
  | nil => simp at h
  | cons b l ih =>
    by_cases hb : P b
    · exact ⟨[], b, l, rfl, hb, by simp⟩
    · have hrest : ∃ a ∈ l, P a := by
        obtain ⟨a, ha, hp⟩ := h
        rcases List.mem_cons.mp ha with rfl | ha
        · exact absurd hp hb
        · exact ⟨a, ha, hp⟩
      obtain ⟨before, a, rest, rfl, hp, hbefore⟩ := ih hrest
      refine ⟨b :: before, a, rest, rfl, hp, ?_⟩
      intro c hc
      rcases List.mem_cons.mp hc with rfl | hc
      · exact hb
      · exact hbefore c hc

section Picked

def picked (l : List α) (indexes : List Nat) : List α := indexes.filterMap (fun i => l[i]?)

def unpicked (l : List α) (indexes : List Nat) : List α :=
  indexes.reverse.foldl (fun l i => l.eraseIdx i) l

variable {i : Nat} {indexes : List Nat}

lemma unpicked_cons (l : List α) (i : Nat) (indexes : List Nat) :
    unpicked l (i :: indexes) = (unpicked l indexes).eraseIdx i := by
  simp [unpicked]

lemma getElem?_unpicked (h : ∀ j ∈ indexes, i < j) : (unpicked l indexes)[i]? = l[i]? := by
  induction indexes with
  | nil => rfl
  | cons j indexes ih =>
    rw [unpicked_cons, List.getElem?_eraseIdx_of_lt (h j List.mem_cons_self)]
    exact ih (fun k hk => h k (List.mem_cons_of_mem _ hk))

lemma picked_cons (hi : i < l.length) : picked l (i :: indexes) = l[i] :: picked l indexes := by
  simp [picked, hi]

lemma unpicked_sublist (l : List α) (indexes : List Nat) : List.Sublist (unpicked l indexes) l := by
  induction indexes with
  | nil => exact List.Sublist.refl l
  | cons i indexes ih =>
    rw [unpicked_cons]
    exact (List.eraseIdx_sublist _ i).trans ih

theorem picked_append_unpicked (hs : indexes.Pairwise (· < ·)) (hl : ∀ i ∈ indexes, i < l.length) :
    (picked l indexes ++ unpicked l indexes).Perm l := by
  induction indexes with
  | nil => exact List.Perm.refl l
  | cons i indexes ih =>
    obtain ⟨hlt, hs⟩ := List.pairwise_cons.mp hs
    have hi := hl i List.mem_cons_self
    have hrest := ih hs (fun j hj => hl j (List.mem_cons_of_mem _ hj))
    have hget : (unpicked l indexes)[i]? = some l[i] := by
      rw [getElem?_unpicked hlt, List.getElem?_eq_getElem hi]
    obtain ⟨hi', hgeti⟩ := List.getElem?_eq_some_iff.mp hget
    have herase := List.getElem_cons_eraseIdx_perm hi'
    rw [hgeti] at herase
    rw [picked_cons hi, unpicked_cons, List.cons_append]
    refine List.perm_middle.symm.trans ?_
    exact (List.Perm.append_left _ herase).trans hrest

end Picked

section Unseen

variable [DecidableEq α]

def unseen (all seen : List α) : Nat := (all.filter (· ∉ seen)).length

lemma unseen_cons_lt {all seen : List α} {a : α} (hmem : a ∈ all) (hnew : a ∉ seen) :
    unseen all (a :: seen) < unseen all seen := by
  have hfilter : all.filter (· ∉ a :: seen) = (all.filter (· ∉ seen)).filter (· ≠ a) := by
    rw [List.filter_filter]
    refine List.filter_congr (fun x _ => ?_)
    simp
  rw [unseen, hfilter, unseen, List.length_filter_lt_length_iff_exists]
  exact ⟨a, List.mem_filter.mpr ⟨hmem, by simpa using hnew⟩, by simp⟩

lemma unseen_le (all seen : List α) : unseen all seen ≤ all.length := List.length_filter_le _ _

end Unseen

end Awaken.Lib
