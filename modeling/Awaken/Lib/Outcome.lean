import Mathlib.Data.List.Forall2

namespace Awaken.Lib

inductive Outcome (ε α : Type) where
  | ok (value : α)
  | err (error : ε)
  | panic
deriving DecidableEq

namespace Outcome

variable {ε α β : Type}

def ofExcept : Except ε α → Outcome ε α
  | .ok a => .ok a
  | .error e => .err e

/-- Rust's `expect`: an error becomes a panic. -/
def expect : Except ε α → Outcome ε α
  | .ok a => .ok a
  | .error _ => .panic

def map (f : α → β) : Outcome ε α → Outcome ε β
  | .ok a => .ok (f a)
  | .err e => .err e
  | .panic => .panic

@[simp] theorem ofExcept_ok (a : α) : ofExcept (.ok a : Except ε α) = .ok a := rfl

@[simp] theorem ofExcept_error (e : ε) : ofExcept (.error e : Except ε α) = .err e := rfl

@[simp] theorem expect_ok (a : α) : expect (.ok a : Except ε α) = .ok a := rfl

@[simp] theorem expect_error (e : ε) : expect (.error e : Except ε α) = .panic := rfl

@[simp] theorem map_ok (f : α → β) (a : α) : map f (.ok a : Outcome ε α) = .ok (f a) := rfl

@[simp] theorem map_err (f : α → β) (e : ε) : map f (.err e : Outcome ε α) = .err e := rfl

@[simp] theorem map_panic (f : α → β) : map f (.panic : Outcome ε α) = .panic := rfl

@[simp] theorem map_eq_panic {f : α → β} {o : Outcome ε α} : o.map f = .panic ↔ o = .panic := by
  cases o <;> simp

@[simp] theorem ofExcept_ne_panic (r : Except ε α) : ofExcept r ≠ .panic := by
  cases r <;> simp

end Outcome

theorem bind_eq_ok {ε α β : Type} {x : Except ε α} {f : α → Except ε β} {b : β}
    (h : (x >>= f) = .ok b) : ∃ a, x = .ok a ∧ f a = .ok b := by
  cases x with
  | error e => cases h
  | ok a => exact ⟨a, rfl, h⟩

theorem bind_eq_ok_iff {ε α β : Type} {x : Except ε α} {f : α → Except ε β} {b : β} :
    (x >>= f) = .ok b ↔ ∃ a, x = .ok a ∧ f a = .ok b := by
  constructor
  · exact bind_eq_ok
  · rintro ⟨a, rfl, h⟩
    exact h

theorem forM_eq_ok {ε α : Type} {f : α → Except ε Unit} {items : List α}
    (h : items.forM f = .ok ()) : ∀ item ∈ items, f item = .ok () := by
  induction items with
  | nil => simp
  | cons first items ih =>
    obtain ⟨⟨⟩, hfirst, hrest⟩ := bind_eq_ok (x := f first) (f := fun _ => items.forM f) h
    rintro item (_ | ⟨_, hmem⟩)
    · exact hfirst
    · exact ih hrest item hmem

theorem mapM_eq_ok_iff {ε α β : Type} {f : α → Except ε β} {items : List α} {results : List β} :
    items.mapM f = .ok results ↔
      List.Forall₂ (fun item result => f item = .ok result) items results := by
  induction items generalizing results with
  | nil =>
    rw [List.forall₂_nil_left_iff, List.mapM_nil]
    exact ⟨fun h => (Except.ok.inj h).symm, fun h => congrArg _ h.symm⟩
  | cons item items ih =>
    rw [List.mapM_cons, List.forall₂_cons_left_iff]
    constructor
    · intro h
      obtain ⟨first, hfirst, h⟩ := bind_eq_ok h
      obtain ⟨rest, hrest, h⟩ := bind_eq_ok h
      exact ⟨first, rest, hfirst, ih.mp hrest, (Except.ok.inj h).symm⟩
    · rintro ⟨first, rest, hfirst, hrest, rfl⟩
      rw [hfirst, ih.mpr hrest]
      rfl

theorem mapM_congr {ε α β : Type} {f g : α → Except ε β} {items : List α}
    (h : ∀ item ∈ items, f item = g item) : items.mapM f = items.mapM g := by
  induction items with
  | nil => rfl
  | cons first items ih =>
    rw [List.forall_mem_cons] at h
    rw [List.mapM_cons, List.mapM_cons, h.1, ih h.2]

theorem mem_of_mapM {ε α β : Type} {f : α → Except ε β} {items : List α} {results : List β}
    (h : items.mapM f = .ok results) :
    ∀ result ∈ results, ∃ item ∈ items, f item = .ok result := by
  induction items generalizing results with
  | nil =>
    cases h
    simp
  | cons first items ih =>
    rw [List.mapM_cons] at h
    obtain ⟨result, hfirst, h⟩ := bind_eq_ok h
    obtain ⟨rest, hrest, h⟩ := bind_eq_ok h
    cases h
    rintro result (_ | ⟨_, hmem⟩)
    · exact ⟨first, List.mem_cons_self, hfirst⟩
    · obtain ⟨item, hitem, heq⟩ := ih hrest result hmem
      exact ⟨item, List.mem_cons_of_mem _ hitem, heq⟩

end Awaken.Lib
