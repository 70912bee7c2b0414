import Mathlib.Data.List.Perm.Basic
import Mathlib.Tactic.Lemma

namespace Awaken.Lib

variable {σ α : Type} {f : σ → α → σ}

def Commutes (f : σ → α → σ) (a b : α) : Prop := ∀ s, f (f s a) b = f (f s b) a

namespace Commutes

theorem symm {a b : α} (h : Commutes f a b) : Commutes f b a := fun s => (h s).symm

theorem foldl_left {a : α} {xs : List α} (h : ∀ x ∈ xs, Commutes f a x) (s : σ) :
    f (xs.foldl f s) a = xs.foldl f (f s a) := by
  induction xs generalizing s with
  | nil => rfl
  | cons x xs ih =>
    rw [List.foldl_cons, List.foldl_cons, ih (fun y hy => h y (List.mem_cons_of_mem _ hy)),
      h x List.mem_cons_self]

theorem foldl_foldl {xs ys : List α} (h : ∀ x ∈ xs, ∀ y ∈ ys, Commutes f x y) (s : σ) :
    ys.foldl f (xs.foldl f s) = xs.foldl f (ys.foldl f s) := by
  induction xs generalizing s with
  | nil => rfl
  | cons x xs ih =>
    rw [List.foldl_cons, List.foldl_cons, ih (fun z hz => h z (List.mem_cons_of_mem _ hz)),
      foldl_left (h x List.mem_cons_self)]

end Commutes

theorem foldl_flatMap_perm {β : Type} {ops : β → List α} {l₁ l₂ : List β} (hp : l₁.Perm l₂)
    (h : l₁.Pairwise (fun b c => ∀ x ∈ ops b, ∀ y ∈ ops c, Commutes f x y)) (s : σ) :
    (l₁.flatMap ops).foldl f s = (l₂.flatMap ops).foldl f s := by
  have hsymm : ∀ {b c : β}, (∀ x ∈ ops b, ∀ y ∈ ops c, Commutes f x y) →
      ∀ x ∈ ops c, ∀ y ∈ ops b, Commutes f x y := fun h x hx y hy => (h y hy x hx).symm
  induction hp generalizing s with
  | nil => rfl
  | cons b _ ih =>
    simp only [List.flatMap_cons, List.foldl_append]
    exact ih (List.pairwise_cons.mp h).2 _
  | swap b c l =>
    simp only [List.flatMap_cons, List.foldl_append]
    have hbc := (List.pairwise_cons.mp h).1 b List.mem_cons_self
    rw [Commutes.foldl_foldl hbc]
  | trans hp₁ _ ih₁ ih₂ => exact (ih₁ h s).trans (ih₂ (h.perm hp₁ hsymm) s)

end Awaken.Lib
