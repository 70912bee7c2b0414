import Mathlib.Logic.Relation
import Mathlib.Logic.Function.Basic
import Mathlib.Order.WellFounded

/-! Parent pointers. They form a forest when every node climbs to a root. -/

namespace Awaken.Lib

variable {κ : Type}

def Parent (parent : κ → Option κ) (a b : κ) : Prop := parent a = some b

def Ancestor (parent : κ → Option κ) : κ → κ → Prop := Relation.ReflTransGen (Parent parent)

def Forest (parent : κ → Option κ) : Prop := ∀ a, Acc (fun b a => Parent parent a b) a

section Forest

variable {parent parent' : κ → Option κ}

lemma ancestor_iff {a b c : κ} (h : parent a = some b) :
    Ancestor parent a c ↔ a = c ∨ Ancestor parent b c := by
  constructor
  · intro hc
    cases hc.cases_head with
    | inl heq => exact Or.inl heq
    | inr hstep =>
      obtain ⟨d, hd, hrest⟩ := hstep
      obtain rfl : d = b := Option.some.inj (hd.symm.trans h)
      exact Or.inr hrest
  · rintro (rfl | hc)
    · exact .refl
    · exact .head h hc

lemma ancestor_of_none {a c : κ} (h : parent a = none) (hc : Ancestor parent a c) : a = c := by
  cases hc.cases_head with
  | inl heq => exact heq
  | inr hstep =>
    obtain ⟨d, hd, -⟩ := hstep
    cases h.symm.trans hd

namespace Forest

theorem not_above_self (h : Forest parent) (a : κ) : ¬ Relation.TransGen (Parent parent) a a := by
  induction (h a).transGen with
  | intro a _ ih =>
    intro hcycle
    exact ih a (Relation.transGen_swap.mp hcycle) hcycle

theorem mono (h : Forest parent) (hp : ∀ a b, parent' a = some b → parent a = some b) :
    Forest parent' := fun a => Subrelation.accessible (hp _ _) (h a)

theorem reparent (h : Forest parent) {k p : κ} (hk : ¬ Ancestor parent p k)
    (hp : parent' k = some p) (helse : ∀ a, a ≠ k → parent' a = parent a) : Forest parent' := by
  -- what is above the new parent has not changed
  have habove : ∀ b, Ancestor parent p b → Acc (fun b a => Parent parent' a b) b := by
    intro b hb
    induction h b with
    | intro b _ ih =>
      refine ⟨_, fun c hc => ?_⟩
      have hbk : b ≠ k := by
        rintro rfl
        exact hk hb
      have hparent : parent b = some c := (helse b hbk).symm.trans hc
      exact ih c hparent (hb.tail hparent)
  intro a
  induction h a with
  | intro a _ ih =>
    refine ⟨_, fun b hb => ?_⟩
    by_cases hak : a = k
    · subst hak
      obtain rfl : p = b := Option.some.inj (hp.symm.trans hb)
      exact habove p .refl
    · exact ih b ((helse a hak).symm.trans hb)

end Forest

end Forest

end Awaken.Lib
