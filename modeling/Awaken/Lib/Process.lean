import Mathlib.Data.List.Induction
import Mathlib.Logic.Function.Basic
import Mathlib.Tactic.Lemma
import Awaken.Lib.Run

/-! Processes over a shared state. An action is atomic, and the actions of several processes
interleave in any order. -/

namespace Awaken.Lib

variable {A : Type}

inductive Process (R : A → Type) (α : Type) where
  | done (a : α)
  | act (action : A) (next : R action → Process R α)

structure Event (R : A → Type) where
  action : A
  response : R action

namespace Process

variable {R : A → Type} {α β : Type}

def bind : Process R α → (α → Process R β) → Process R β
  | done a, f => f a
  | act action next, f => act action (fun r => (next r).bind f)

instance : Monad (Process R) where
  pure := done
  bind := bind

def perform (action : A) : Process R (R action) := act action done

def Guarded (allowed : Event R → Prop) (guard : List (Event R) → Event R → Prop)
    (post : List (Event R) → α → Prop) : List (Event R) → Process R α → Prop
  | past, done a => post past a
  | past, act action next => ∀ r, allowed ⟨action, r⟩ →
    guard past ⟨action, r⟩ ∧ Guarded allowed guard post (past ++ [⟨action, r⟩]) (next r)

section Rules

variable {allowed : Event R → Prop} {guard : List (Event R) → Event R → Prop}
  {post post' : List (Event R) → α → Prop} {after : List (Event R) → β → Prop}
  {past : List (Event R)} {p : Process R α} {f : α → Process R β}

lemma guarded_pure {a : α} (h : post past a) :
    Guarded allowed guard post past (pure a : Process R α) := h

lemma Guarded.bind (h : Guarded allowed guard post past p)
    (hf : ∀ past a, post past a → Guarded allowed guard after past (f a)) :
    Guarded allowed guard after past (p >>= f) := by
  induction p generalizing past with
  | done a => exact hf past a h
  | act action next ih => exact fun r hr => ⟨(h r hr).1, ih r (h r hr).2⟩

lemma Guarded.mono (h : Guarded allowed guard post past p)
    (hpost : ∀ past a, post past a → post' past a) : Guarded allowed guard post' past p := by
  induction p generalizing past with
  | done a => exact hpost past a h
  | act action next ih => exact fun r hr => ⟨(h r hr).1, ih r (h r hr).2⟩

lemma guarded_perform {action : A} {post : List (Event R) → R action → Prop}
    (h : ∀ r, allowed ⟨action, r⟩ → guard past ⟨action, r⟩ ∧ post (past ++ [⟨action, r⟩]) r) :
    Guarded allowed guard post past (perform action) := h

end Rules

section Safe

variable {σ : Type}

variable {acts : Event R → σ → σ → Prop} {rely : σ → σ → Prop} {inv : σ → Prop}
  {post post' : σ → α → Prop} {after : σ → β → Prop} {seen : σ} {p : Process R α}
  {f : α → Process R β}

end Safe

end Process

structure System (ι σ : Type) (R : A → Type) (α : Type) where
  shared : σ
  process : ι → Process R α

namespace System

variable {ι σ α : Type} {R : A → Type}

structure Label (ι : Type) (R : A → Type) where
  process : ι
  event : Event R

variable [DecidableEq ι] {acts : ι → Event R → σ → σ → Prop}

def Step (acts : ι → Event R → σ → σ → Prop) (s : System ι σ R α) (l : Label ι R)
    (s' : System ι σ R α) : Prop :=
  ∃ next, s.process l.process = .act l.event.action next ∧ acts l.process l.event s.shared s'.shared ∧
    s'.process = Function.update s.process l.process (next l.event.response)

def eventsOf (i : ι) (tr : List (Transition (System ι σ R α) (Label ι R))) : List (Event R) :=
  tr.filterMap (fun τ => if τ.label.process = i then some τ.label.event else none)

variable {s s' : System ι σ R α} {tr : List (Transition (System ι σ R α) (Label ι R))}

lemma eventsOf_nil (i : ι) :
    eventsOf i ([] : List (Transition (System ι σ R α) (Label ι R))) = [] := rfl

lemma eventsOf_append (i : ι) (tr tr' : List (Transition (System ι σ R α) (Label ι R))) :
    eventsOf i (tr ++ tr') = eventsOf i tr ++ eventsOf i tr' := List.filterMap_append

lemma eventsOf_cons_self (τ : Transition (System ι σ R α) (Label ι R)) :
    eventsOf τ.label.process (τ :: tr) = τ.label.event :: eventsOf τ.label.process tr := by
  simp [eventsOf]

lemma eventsOf_cons_ne {i : ι} {τ : Transition (System ι σ R α) (Label ι R)}
    (hi : τ.label.process ≠ i) : eventsOf i (τ :: tr) = eventsOf i tr := by
  simp [eventsOf, hi]

lemma eventsOf_induction {J : List (Event R) → Prop} {i : ι} (hnil : J [])
    (hstep : ∀ before τ after, tr = before ++ τ :: after → τ.label.process = i →
      J (eventsOf i before) → J (eventsOf i before ++ [τ.label.event])) : J (eventsOf i tr) := by
  induction tr using List.reverseRecOn with
  | nil => exact hnil
  | append_singleton tr τ ih =>
    have hbefore : J (eventsOf i tr) := ih (fun before ρ after htr hρ hJ =>
      hstep before ρ (after ++ [τ]) (by rw [htr, List.append_assoc, List.cons_append]) hρ hJ)
    rw [eventsOf_append]
    by_cases hi : τ.label.process = i
    · subst hi
      rw [eventsOf_cons_self]
      exact hstep tr τ [] rfl rfl hbefore
    · rwa [eventsOf_cons_ne hi, eventsOf_nil, List.append_nil]

lemma invariant_shared {I : σ → Prop} (hacts : ∀ i e s s', acts i e s s' → I s → I s')
    (h : Run (Step acts) s tr s') (hs : I s.shared) :
    I s'.shared ∧ ∀ τ ∈ tr, I τ.pre.shared ∧ I τ.post.shared :=
  Run.invariant (I := fun s => I s.shared) (C := fun _ => True)
    (fun _ hτ _ hpre => hτ.elim (fun _ hnext => hacts _ _ _ _ hnext.2.1 hpre)) h
    (fun _ _ => trivial) hs

lemma acts_of_mem (h : Run (Step acts) s tr s')
    {τ : Transition (System ι σ R α) (Label ι R)} (hτ : τ ∈ tr) :
    acts τ.label.process τ.label.event τ.pre.shared τ.post.shared :=
  (h.step_of_mem hτ).elim (fun _ hnext => hnext.2.1)

theorem guarded_run {I : σ → Prop} {allowed : Event R → Prop}
    {guard : List (Event R) → Event R → Prop} {post : List (Event R) → α → Prop}
    {past : List (Event R)} {i : ι} (hacts : ∀ i e s s', acts i e s s' → I s → allowed e ∧ I s')
    (h : Run (Step acts) s tr s') (hs : I s.shared)
    (hguard : (s.process i).Guarded allowed guard post past) :
    (s'.process i).Guarded allowed guard post (past ++ eventsOf i tr) ∧
      ∀ before τ after, tr = before ++ τ :: after → τ.label.process = i →
        guard (past ++ eventsOf i before) τ.label.event := by
  induction h generalizing past with
  | nil s =>
    refine ⟨by rwa [eventsOf_nil, List.append_nil], ?_⟩
    intro before τ after htr
    cases before <;> cases htr
  | @cons s s₁ s' l tr hstep _ ih =>
    obtain ⟨next, hnext, hact, hprocess⟩ := hstep
    obtain ⟨hallowed, hs₁⟩ := hacts _ _ _ _ hact hs
    by_cases hi : l.process = i
    · subst hi
      rw [hnext] at hguard
      obtain ⟨hmet, hrest⟩ := hguard l.event.response hallowed
      have hgoes : s₁.process l.process = next l.event.response := by
        rw [hprocess, Function.update_self]
      rw [← hgoes] at hrest
      obtain ⟨hlast, hevents⟩ := ih hs₁ hrest
      have hhead : ∀ tr : List (Transition (System ι σ R α) (Label ι R)),
          past ++ eventsOf l.process (⟨s, l, s₁⟩ :: tr) =
            past ++ [⟨l.event.action, l.event.response⟩] ++ eventsOf l.process tr := by
        intro tr
        rw [List.append_assoc]
        exact congrArg (past ++ ·) (eventsOf_cons_self ⟨s, l, s₁⟩)
      refine ⟨by rwa [hhead], ?_⟩
      intro before τ after htr hτ
      cases before with
      | nil =>
        obtain ⟨rfl, rfl⟩ := List.cons.inj htr
        rw [eventsOf_nil, List.append_nil]
        exact hmet
      | cons ρ before =>
        obtain ⟨rfl, htail⟩ := List.cons.inj htr
        rw [hhead]
        exact hevents before τ after htail hτ
    · have hsame : s₁.process i = s.process i := by
        rw [hprocess, Function.update_of_ne (Ne.symm hi)]
      rw [← hsame] at hguard
      obtain ⟨hlast, hevents⟩ := ih hs₁ hguard
      have hhead : ∀ tr : List (Transition (System ι σ R α) (Label ι R)),
          eventsOf i (⟨s, l, s₁⟩ :: tr) = eventsOf i tr := fun _ => eventsOf_cons_ne hi
      refine ⟨by rwa [hhead], ?_⟩
      intro before τ after htr hτ
      cases before with
      | nil =>
        obtain ⟨rfl, rfl⟩ := List.cons.inj htr
        exact absurd hτ hi
      | cons ρ before =>
        obtain ⟨rfl, htail⟩ := List.cons.inj htr
        rw [hhead]
        exact hevents before τ after htail hτ

def schedule (respond : (a : A) → σ → R a × σ) :
    System ι σ R α → List ι → List (Transition (System ι σ R α) (Label ι R)) × System ι σ R α
  | s, [] => ([], s)
  | s, i :: is =>
    match s.process i with
    | .done _ => schedule respond s is
    | .act a next =>
      let (r, shared) := respond a s.shared
      let s' : System ι σ R α := ⟨shared, Function.update s.process i (next r)⟩
      let (tr, last) := schedule respond s' is
      (⟨s, ⟨i, ⟨a, r⟩⟩, s'⟩ :: tr, last)

lemma run_schedule {respond : (a : A) → σ → R a × σ}
    (hacts : ∀ i a shared, acts i ⟨a, (respond a shared).1⟩ shared (respond a shared).2)
    (is : List ι)
    (s : System ι σ R α) :
    Run (Step acts) s (schedule respond s is).1 (schedule respond s is).2 := by
  induction is generalizing s with
  | nil => exact .nil s
  | cons i is ih =>
    unfold schedule
    cases hprocess : s.process i with
    | done a => exact ih s
    | act a next => exact .cons ⟨next, hprocess, hacts i a s.shared, rfl⟩ (ih _)

end System

end Awaken.Lib
