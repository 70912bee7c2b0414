import Mathlib.Data.List.Forall2
import Mathlib.Tactic.Lemma

namespace Awaken.Lib

variable {α β : Type}

def Stops (inner : β → Bool) (text : List β) : Prop := ∀ b, text.head? = some b → inner b = false

lemma stops_cons {inner : β → Bool} {b : β} (h : inner b = false) (text : List β) :
    Stops inner (b :: text) := by
  intro c hc
  obtain rfl : b = c := by simpa using hc
  exact h

lemma stops_nil (inner : β → Bool) : Stops inner [] := fun _ h => nomatch h

def ReadsAs (inner : β → Bool) (print : α → List β) (R : α → α → Prop) (a : α) : Prop :=
  ∀ b x y, Stops inner x → Stops inner y → print a ++ x = print b ++ y → R a b ∧ x = y

lemma run_inj {inner : β → Bool} {u v x y : List β} (hu : ∀ b ∈ u, inner b) (hv : ∀ b ∈ v, inner b)
    (hx : Stops inner x) (hy : Stops inner y) (h : u ++ x = v ++ y) : u = v ∧ x = y := by
  induction u generalizing v with
  | nil =>
    cases v with
    | nil => exact ⟨rfl, h⟩
    | cons b v =>
      have hb := hv b List.mem_cons_self
      rw [hx b (by rw [← List.nil_append x, h]; rfl)] at hb
      exact absurd hb Bool.false_ne_true
  | cons a u ih =>
    cases v with
    | nil =>
      have ha := hu a List.mem_cons_self
      rw [hy a (by rw [← List.nil_append y, ← h]; rfl)] at ha
      exact absurd ha Bool.false_ne_true
    | cons b v =>
      obtain ⟨rfl, ht⟩ := List.cons.inj h
      obtain ⟨rfl, hxy⟩ := ih (fun b hb => hu b (List.mem_cons_of_mem _ hb))
        (fun b hb => hv b (List.mem_cons_of_mem _ hb)) ht
      exact ⟨rfl, hxy⟩

def separated (sep : β) : List (List β) → List β
  | [] => []
  | text :: texts => text ++ texts.flatMap (sep :: ·)

variable {inner : β → Bool} {print : α → List β} {R : α → α → Prop} {sep close : β}

lemma stops_rest (hsep : inner sep = false) (hclose : inner close = false) (items : List α)
    (x : List β) : Stops inner ((items.map print).flatMap (sep :: ·) ++ close :: x) := by
  cases items with
  | nil => exact stops_cons hclose x
  | cons a items => exact stops_cons hsep _

lemma rest_inj (hne : sep ≠ close) (hsep : inner sep = false) (hclose : inner close = false)
    {items items' : List α} (hreads : ∀ a ∈ items, ReadsAs inner print R a) {x y : List β}
    (h : (items.map print).flatMap (sep :: ·) ++ close :: x =
      (items'.map print).flatMap (sep :: ·) ++ close :: y) : List.Forall₂ R items items' ∧ x = y := by
  induction items generalizing items' with
  | nil =>
    cases items' with
    | nil => exact ⟨.nil, (List.cons.inj h).2⟩
    | cons b items' => exact absurd (List.cons.inj h).1.symm hne
  | cons a items ih =>
    cases items' with
    | nil => exact absurd (List.cons.inj h).1 hne
    | cons b items' =>
      simp only [List.map_cons, List.flatMap_cons, List.cons_append, List.append_assoc,
        List.cons.injEq, true_and] at h
      obtain ⟨hab, hrest⟩ := hreads a List.mem_cons_self b _ _
        (stops_rest hsep hclose items x) (stops_rest hsep hclose items' y) h
      obtain ⟨hitems, hxy⟩ := ih (fun a ha => hreads a (List.mem_cons_of_mem _ ha)) hrest
      exact ⟨.cons hab hitems, hxy⟩

theorem separated_inj (hne : sep ≠ close) (hsep : inner sep = false) (hclose : inner close = false)
    (hopen : ∀ a x y, print a ++ x ≠ close :: y) {items items' : List α}
    (hreads : ∀ a ∈ items, ReadsAs inner print R a) {x y : List β}
    (h : separated sep (items.map print) ++ close :: x =
      separated sep (items'.map print) ++ close :: y) : List.Forall₂ R items items' ∧ x = y := by
  cases items with
  | nil =>
    cases items' with
    | nil => exact ⟨.nil, (List.cons.inj h).2⟩
    | cons b items' =>
      simp only [List.map_cons, separated, List.append_assoc] at h
      exact absurd h.symm (hopen b _ _)
  | cons a items =>
    cases items' with
    | nil =>
      simp only [List.map_cons, separated, List.append_assoc] at h
      exact absurd h (hopen a _ _)
    | cons b items' =>
      simp only [List.map_cons, separated, List.append_assoc] at h
      obtain ⟨hab, hrest⟩ := hreads a List.mem_cons_self b _ _
        (stops_rest hsep hclose items x) (stops_rest hsep hclose items' y) h
      obtain ⟨hitems, hxy⟩ := rest_inj hne hsep hclose
        (fun a ha => hreads a (List.mem_cons_of_mem _ ha)) hrest
      exact ⟨.cons hab hitems, hxy⟩

end Awaken.Lib
