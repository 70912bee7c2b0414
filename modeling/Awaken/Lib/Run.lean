import Mathlib.Data.List.Forall2

/-! Finite runs of a labelled transition relation. A run keeps the list of its transitions, so a
property of a run can speak about every state it passes through. -/

namespace Awaken.Lib

structure Transition (σ L : Type) where
  pre : σ
  label : L
  post : σ

variable {σ L : Type}

inductive Run (step : σ → L → σ → Prop) : σ → List (Transition σ L) → σ → Prop
  | nil (s : σ) : Run step s [] s
  | cons {s s₁ s' : σ} {l : L} {tr : List (Transition σ L)} :
      step s l s₁ → Run step s₁ tr s' → Run step s (⟨s, l, s₁⟩ :: tr) s'

def Reachable (step : σ → L → σ → Prop) (init s : σ) : Prop := ∃ tr, Run step init tr s

namespace Run

variable {step : σ → L → σ → Prop} {s s₁ s' : σ} {tr tr₁ tr₂ : List (Transition σ L)}

theorem append (h₁ : Run step s tr₁ s₁) (h₂ : Run step s₁ tr₂ s') :
    Run step s (tr₁ ++ tr₂) s' := by
  induction h₁ with
  | nil => exact h₂
  | cons hs _ ih => exact .cons hs (ih h₂)

theorem split (h : Run step s (tr₁ ++ tr₂) s') :
    ∃ s₁, Run step s tr₁ s₁ ∧ Run step s₁ tr₂ s' := by
  induction tr₁ generalizing s with
  | nil => exact ⟨s, .nil s, h⟩
  | cons τ tr₁ ih =>
    cases h with
    | cons hs hr =>
      obtain ⟨s₁, h₁, h₂⟩ := ih hr
      exact ⟨s₁, .cons hs h₁, h₂⟩

theorem single {l : L} (h : step s l s') : Run step s [⟨s, l, s'⟩] s' := .cons h (.nil _)

theorem invariant {I : σ → Prop} {C : Transition σ L → Prop}
    (hstep : ∀ τ : Transition σ L, step τ.pre τ.label τ.post → C τ → I τ.pre → I τ.post)
    (h : Run step s tr s') (hc : ∀ τ ∈ tr, C τ) (hs : I s) :
    I s' ∧ ∀ τ ∈ tr, I τ.pre ∧ I τ.post := by
  induction h with
  | nil => exact ⟨hs, by simp⟩
  | @cons s s₁ s' l tr he _ ih =>
    have h₁ : I s₁ := hstep ⟨s, l, s₁⟩ he (hc _ List.mem_cons_self) hs
    obtain ⟨hl, hall⟩ := ih (fun τ hτ => hc τ (List.mem_cons_of_mem _ hτ)) h₁
    refine ⟨hl, fun τ hτ => ?_⟩
    rcases List.mem_cons.mp hτ with rfl | hm
    · exact ⟨hs, h₁⟩
    · exact hall τ hm

theorem invariant_all {I : σ → Prop} (hstep : ∀ s l s', step s l s' → I s → I s')
    (h : Run step s tr s') (hs : I s) : I s' :=
  (invariant (C := fun _ => True) (fun _ he _ => hstep _ _ _ he) h (fun _ _ => trivial) hs).1

theorem always_iff {I P : σ → Prop} {C : Transition σ L → Prop}
    (hinv : ∀ s l s', step s l s' → I s → I s')
    (hstep : ∀ τ : Transition σ L, step τ.pre τ.label τ.post → I τ.pre → P τ.pre →
      (P τ.post ↔ C τ))
    (h : Run step s tr s') (hs : I s) (hp : P s) : (∀ τ ∈ tr, P τ.post) ↔ ∀ τ ∈ tr, C τ := by
  induction h with
  | nil => simp
  | @cons s s₁ s' l tr he _ ih =>
    rw [List.forall_mem_cons, List.forall_mem_cons, ← hstep ⟨s, l, s₁⟩ he hs hp]
    exact and_congr_right (ih (hinv s l s₁ he hs))

theorem final {P : σ → Prop} (h : Run step s tr s') (hs : P s) (hall : ∀ τ ∈ tr, P τ.post) :
    P s' := by
  induction h with
  | nil => exact hs
  | cons _ _ ih =>
    rw [List.forall_mem_cons] at hall
    exact ih hall.1 hall.2

theorem step_of_mem (h : Run step s tr s') {τ : Transition σ L} (hτ : τ ∈ tr) :
    step τ.pre τ.label τ.post := by
  induction h with
  | nil => simp at hτ
  | cons he _ ih =>
    rcases List.mem_cons.mp hτ with rfl | hm
    · exact he
    · exact ih hm

theorem reachable_of_mem (h : Run step s tr s') {τ : Transition σ L} (hτ : τ ∈ tr) :
    Reachable step s τ.pre := by
  induction h with
  | nil => simp at hτ
  | cons he _ ih =>
    rcases List.mem_cons.mp hτ with rfl | hm
    · exact ⟨[], .nil _⟩
    · obtain ⟨tr', h'⟩ := ih hm
      exact ⟨_, .cons he h'⟩

theorem since {P : σ → Prop} (h : Run step s tr s') (hp : P s') :
    (P s ∧ ∀ τ ∈ tr, P τ.pre ∧ P τ.post) ∨
      ∃ tr₁ τ tr₂, tr = tr₁ ++ τ :: tr₂ ∧ ¬ P τ.pre ∧ P τ.post ∧
        ∀ ρ ∈ tr₂, P ρ.pre ∧ P ρ.post := by
  induction h with
  | nil => exact .inl ⟨hp, by simp⟩
  | @cons s s₁ s' l tr _ _ ih =>
    rcases ih hp with ⟨h₁, hall⟩ | ⟨tr₁, τ, tr₂, htr, h⟩
    · by_cases hs : P s
      · refine .inl ⟨hs, fun τ hτ => ?_⟩
        rcases List.mem_cons.mp hτ with rfl | hm
        · exact ⟨hs, h₁⟩
        · exact hall τ hm
      · exact .inr ⟨[], _, tr, rfl, hs, h₁, hall⟩
    · exact .inr ⟨_ :: tr₁, τ, tr₂, by rw [htr, List.cons_append], h⟩

theorem simulate {σ' L' : Type} {step' : σ' → L' → σ' → Prop} {R : σ → σ' → Prop}
    {C : Transition σ L → Prop} {Q : L → L' → Prop}
    (hsim : ∀ τ : Transition σ L, step τ.pre τ.label τ.post → C τ → ∀ u, R τ.pre u →
      ∃ l' u', step' u l' u' ∧ R τ.post u' ∧ Q τ.label l')
    (h : Run step s tr s') (hc : ∀ τ ∈ tr, C τ) {u : σ'} (hu : R s u) :
    ∃ tr' u', Run step' u tr' u' ∧ R s' u' ∧
      List.Forall₂ (fun τ τ' => Q τ.label τ'.label ∧ R τ.post τ'.post) tr tr' := by
  induction h generalizing u with
  | nil => exact ⟨[], u, .nil u, hu, .nil⟩
  | @cons s s₁ s' l tr he _ ih =>
    obtain ⟨l', u₁, hs', hu₁, hq⟩ := hsim ⟨s, l, s₁⟩ he (hc _ List.mem_cons_self) u hu
    obtain ⟨tr', u', hr', hu', hall⟩ := ih (fun τ hτ => hc τ (List.mem_cons_of_mem _ hτ)) hu₁
    exact ⟨⟨u, l', u₁⟩ :: tr', u', .cons hs' hr', hu', .cons ⟨hq, hu₁⟩ hall⟩

end Run

def trace (f : σ → L → σ) : σ → List L → List (Transition σ L)
  | _, [] => []
  | s, l :: ls => ⟨s, l, f s l⟩ :: trace f (f s l) ls

theorem run_trace (f : σ → L → σ) (s : σ) (ls : List L) :
    Run (fun s l s' => s' = f s l) s (trace f s ls) (ls.foldl f s) := by
  induction ls generalizing s with
  | nil => exact .nil s
  | cons l ls ih => exact .cons rfl (ih _)

theorem Reachable.invariant {step : σ → L → σ → Prop} {init s : σ} {I : σ → Prop}
    (h : Reachable step init s) (hi : I init) (hstep : ∀ s l s', step s l s' → I s → I s') : I s :=
  h.elim (fun _ hr => hr.invariant_all hstep hi)

theorem Reachable.step {step : σ → L → σ → Prop} {init s s' : σ} {l : L}
    (h : Reachable step init s) (hs : step s l s') : Reachable step init s' :=
  h.elim (fun _ hr => ⟨_, hr.append (.single hs)⟩)

end Awaken.Lib
