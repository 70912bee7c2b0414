import Mathlib.Data.List.Nodup
import Mathlib.Data.List.Perm.Subperm
import Mathlib.Tactic.Lemma

namespace Awaken.Lib

variable {α β γ κ : Type} {f : α → Option β} {g : α → Option γ} {k : α → κ} {kb : β → κ}
  {kc : γ → κ} {l : List α}

def KeepsKey (f : α → Option β) (k : α → κ) (kb : β → κ) (l : List α) : Prop :=
  ∀ a ∈ l, ∀ b, f a = some b → kb b = k a

lemma KeepsKey.tail {a : α} (h : KeepsKey f k kb (a :: l)) : KeepsKey f k kb l :=
  fun b hb => h b (List.mem_cons_of_mem _ hb)

lemma KeepsKey.mem (h : KeepsKey f k kb l) {key : κ} (hk : key ∈ (l.filterMap f).map kb) :
    key ∈ l.map k := by
  obtain ⟨b, hb, rfl⟩ := List.mem_map.mp hk
  obtain ⟨a, ha, hf⟩ := List.mem_filterMap.mp hb
  rw [h a ha b hf]
  exact List.mem_map_of_mem ha

lemma filter_filterMap_key [DecidableEq κ] (h : KeepsKey f k kb l) (hn : (l.map k).Nodup) {a : α}
    (ha : a ∈ l) : (l.filterMap f).filter (fun b => kb b = k a) = (f a).toList := by
  induction l with
  | nil => simp at ha
  | cons first l ih =>
    rw [List.map_cons, List.nodup_cons] at hn
    have hother : ∀ {c : α}, c ∈ l → k c ≠ k first := by
      intro c hc heq
      exact hn.1 (heq ▸ List.mem_map_of_mem hc)
    rcases List.mem_cons.mp ha with rfl | hmem
    · have hrest : (l.filterMap f).filter (fun b => kb b = k a) = [] := by
        refine List.filter_eq_nil_iff.mpr (fun b hb => ?_)
        obtain ⟨c, hc, hf⟩ := List.mem_filterMap.mp hb
        rw [h.tail c hc b hf]
        simpa using hother hc
      cases hf : f a with
      | none => rw [List.filterMap_cons_none hf, hrest]; rfl
      | some b =>
        rw [List.filterMap_cons_some hf, List.filter_cons_of_pos
          (by simp [h a List.mem_cons_self b hf]), hrest]
        rfl
    · cases hf : f first with
      | none => rw [List.filterMap_cons_none hf]; exact ih h.tail hn.2 hmem
      | some b =>
        have hb : kb b = k first := h first List.mem_cons_self b hf
        rw [List.filterMap_cons_some hf, List.filter_cons_of_neg
          (by simpa [hb] using (hother hmem).symm)]
        exact ih h.tail hn.2 hmem

lemma keys_subperm (hf : KeepsKey f k kb l) (hg : KeepsKey g k kc l)
    (hone : ∀ a ∈ l, f a = none ∨ g a = none) :
    ((l.filterMap f).map kb ++ (l.filterMap g).map kc).Subperm (l.map k) := by
  induction l with
  | nil => exact List.Subperm.refl _
  | cons a l ih =>
    have hrest := ih hf.tail hg.tail (fun c hc => hone c (List.mem_cons_of_mem _ hc))
    rw [List.map_cons]
    cases hfa : f a with
    | none =>
      rw [List.filterMap_cons_none hfa]
      cases hga : g a with
      | none =>
        rw [List.filterMap_cons_none hga]
        exact hrest.trans (List.sublist_cons_self _ _).subperm
      | some c =>
        rw [List.filterMap_cons_some hga, List.map_cons, hg a List.mem_cons_self c hga]
        exact List.perm_middle.subperm.trans ((List.subperm_cons _).mpr hrest)
    | some b =>
      have hga : g a = none := (hone a List.mem_cons_self).resolve_left (by simp [hfa])
      rw [List.filterMap_cons_some hfa, List.filterMap_cons_none hga, List.map_cons,
        hf a List.mem_cons_self b hfa, List.cons_append]
      exact (List.subperm_cons _).mpr hrest

lemma nodup_of_subperm {l₁ l₂ : List κ} (h : l₁.Subperm l₂) (hn : l₂.Nodup) : l₁.Nodup := by
  obtain ⟨l, hp, hs⟩ := h
  exact hp.nodup_iff.mp (hn.sublist hs)

end Awaken.Lib
