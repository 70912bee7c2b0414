import Mathlib.Tactic.Lemma

namespace Awaken.Lib

abbrev Program (ε σ : Type) : Type → Type := ExceptT ε (StateM σ)

namespace Program

variable {ε σ α β γ : Type}

def exec (x : Program ε σ α) (s : σ) : Except ε α × σ := x s

def lift (x : Except ε α) : Program ε σ α := fun s => (x, s)

def look : Program ε σ σ := fun s => (.ok s, s)

def change (f : σ → σ) : Program ε σ Unit := fun s => (.ok (), f s)

def Ensures (x : Program ε σ α) (R : σ → α → σ → Prop) : Prop :=
  ∀ s a t, x.exec s = (.ok a, t) → R s a t

variable {x : Program ε σ α} {f : α → Program ε σ β} {R : σ → α → σ → Prop}

lemma Ensures.mono {S : σ → α → σ → Prop} (h : Ensures x R) (hS : ∀ s a t, R s a t → S s a t) :
    Ensures x S :=
  fun s a t hx => hS s a t (h s a t hx)

lemma ensures_pure {a : α} (h : ∀ s, R s a s) : Ensures (pure a : Program ε σ α) R := by
  intro s b t hx
  obtain ⟨ha, rfl⟩ := Prod.mk.inj hx
  obtain rfl := Except.ok.inj ha
  exact h s

lemma ensures_lift {y : Except ε α} (h : ∀ s a, y = .ok a → R s a s) :
    Ensures (lift y : Program ε σ α) R := by
  intro s a t hx
  obtain ⟨hy, rfl⟩ := Prod.mk.inj hx
  exact h s a hy

lemma ensures_look {R : σ → σ → σ → Prop} (h : ∀ s, R s s s) :
    Ensures (look : Program ε σ σ) R := by
  intro s a t hx
  obtain ⟨ha, rfl⟩ := Prod.mk.inj hx
  obtain rfl := Except.ok.inj ha
  exact h s

lemma ensures_change {g : σ → σ} {R : σ → Unit → σ → Prop} (h : ∀ s, R s () (g s)) :
    Ensures (change g : Program ε σ Unit) R := by
  intro s a t hx
  obtain ⟨-, rfl⟩ := Prod.mk.inj hx
  exact h s

lemma exec_bind_ok {s t : σ} {b : β} (h : exec (x >>= f) s = (.ok b, t)) :
    ∃ a u, x.exec s = (.ok a, u) ∧ (f a).exec u = (.ok b, t) := by
  change StateT.bind x (ExceptT.bindCont f) s = (.ok b, t) at h
  rw [StateT.bind] at h
  rcases hx : x s with ⟨result, u⟩
  rw [hx] at h
  cases result with
  | error e => cases (Prod.mk.inj h).1
  | ok a => exact ⟨a, u, hx, h⟩

lemma ensures_bind {S : α → σ → β → σ → Prop} {T : σ → β → σ → Prop} (hx : Ensures x R)
    (hf : ∀ a, Ensures (f a) (S a)) (h : ∀ s a u b t, R s a u → S a u b t → T s b t) :
    Ensures (x >>= f) T := by
  intro s b t hbind
  obtain ⟨a, u, hxa, hfa⟩ := exec_bind_ok hbind
  exact h s a u b t (hx s a u hxa) (hf a u b t hfa)

section Log

variable {ι : Type} {view : σ → List ι} {xs ys : List ι}

def Writes (view : σ → List ι) (xs : List ι) (x : Program ε σ α) : Prop :=
  Ensures x (fun s _ t => view t = view s ++ xs)

def Silent (view : σ → List ι) (x : Program ε σ α) : Prop := Writes view [] x

lemma writes_bind (hx : Writes view xs x) (hf : ∀ a, Writes view ys (f a)) :
    Writes view (xs ++ ys) (x >>= f) := by
  refine ensures_bind hx hf ?_
  intro s a u b t hs hu
  rw [hu, hs, List.append_assoc]

lemma writes_of_silent_bind (hx : Silent view x) (hf : ∀ a, Writes view ys (f a)) :
    Writes view ys (x >>= f) := writes_bind hx hf

lemma writes_bind_silent (hx : Writes view xs x) (hf : ∀ a, Silent view (f a)) :
    Writes view xs (x >>= f) := by
  have h := writes_bind hx hf
  rwa [List.append_nil] at h

lemma silent_bind (hx : Silent view x) (hf : ∀ a, Silent view (f a)) : Silent view (x >>= f) :=
  writes_bind hx hf

lemma silent_pure (a : α) : Silent view (pure a : Program ε σ α) :=
  ensures_pure (fun _ => (List.append_nil _).symm)

lemma silent_lift (y : Except ε α) : Silent view (lift y : Program ε σ α) :=
  ensures_lift (fun _ _ _ => (List.append_nil _).symm)

lemma silent_look : Silent view (look : Program ε σ σ) :=
  ensures_look (fun _ => (List.append_nil _).symm)

lemma silent_change {g : σ → σ} (h : ∀ s, view (g s) = view s) :
    Silent view (change g : Program ε σ Unit) :=
  ensures_change (fun s => by rw [h, List.append_nil])

lemma writes_change {g : σ → σ} (h : ∀ s, view (g s) = view s ++ xs) :
    Writes view xs (change g : Program ε σ Unit) :=
  ensures_change h

end Log

end Program

end Awaken.Lib
