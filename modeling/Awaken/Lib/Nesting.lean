import Mathlib.Data.List.Basic
import Mathlib.Tactic.Lemma
import Awaken.Lib.Text

namespace Awaken.Lib

open Text

structure Nesting where
  depth : Nat
  inQuote : Option Char
  escaped : Bool
deriving DecidableEq

def isQuote (ch : Char) : Bool := ch = '"' || ch = '\''

namespace Nesting

def outside : Nesting := ⟨0, none, false⟩

def step (self : Nesting) (ch : Char) : Option Nesting :=
  if self.escaped then some { self with escaped := false }
  else
    match self.inQuote with
    | some q =>
      if ch = '\\' then some { self with escaped := true }
      else if ch = q then some { self with inQuote := none }
      else some self
    | none =>
      if isQuote ch then some { self with inQuote := some ch }
      else if ch = '(' then some { self with depth := self.depth + 1 }
      else if ch = ')' then
        if self.depth = 0 then none else some { self with depth := self.depth - 1 }
      else some self

def scan (self : Nesting) : List Char → Option Nesting
  | [] => some self
  | ch :: text => (self.step ch).bind (·.scan text)

structure Proper (nesting : Nesting) : Prop where
  quoted : nesting.escaped = true → nesting.inQuote.isSome = true
  quote : ∀ q, nesting.inQuote = some q → isQuote q = true

def deeper (self : Nesting) (k : Nat) : Nesting := { self with depth := self.depth + k }

end Nesting

section Grammar

inductive QuotedRest (q : Char) : List Char → Prop
  | close : QuotedRest q [q]
  | escape {text : List Char} (ch : Char) : QuotedRest q text → QuotedRest q ('\\' :: ch :: text)
  | char {text : List Char} {ch : Char} : ch ≠ q → ch ≠ '\\' → QuotedRest q text →
      QuotedRest q (ch :: text)

inductive Balanced : List Char → Prop
  | nil : Balanced []
  | char {text : List Char} {ch : Char} : isQuote ch = false → ch ≠ '(' → ch ≠ ')' →
      Balanced text → Balanced (ch :: text)
  | quoted {rest text : List Char} {q : Char} : isQuote q = true → QuotedRest q rest →
      Balanced text → Balanced (q :: (rest ++ text))
  | group {inner text : List Char} : Balanced inner → Balanced text →
      Balanced ('(' :: (inner ++ ')' :: text))

/-- There is no whitespace outside of quotes and parentheses. -/
structure IsWord (word : List Char) : Prop where
  nonempty : word ≠ []
  balanced : Balanced word
  gapless : ∀ front ch back, word = front ++ ch :: back → Balanced front → isWhiteSpace ch = false

def StartsBlank (text : List Char) : Prop := ∀ ch, text.head? = some ch → isWhiteSpace ch = true

/-- The words of a text, with whitespace between them. -/
inductive Separated : List Char → List (List Char) → Prop
  | blank {space : List Char} : (∀ ch ∈ space, isWhiteSpace ch = true) → Separated space []
  | word {space word text : List Char} {words : List (List Char)} :
      (∀ ch ∈ space, isWhiteSpace ch = true) → StartsBlank text → Separated text words →
      Separated (space ++ (word ++ text)) (word :: words)

end Grammar

namespace Nesting

inductive Moves (depth : Nat) : Nesting → Char → Nesting → Prop
  | escaped (q : Option Char) (ch : Char) : Moves depth ⟨depth, q, true⟩ ch ⟨depth, q, false⟩
  | escape (q : Char) : Moves depth ⟨depth, some q, false⟩ '\\' ⟨depth, some q, true⟩
  | unquote {q : Char} : q ≠ '\\' → Moves depth ⟨depth, some q, false⟩ q ⟨depth, none, false⟩
  | inside {q ch : Char} : ch ≠ q → ch ≠ '\\' →
      Moves depth ⟨depth, some q, false⟩ ch ⟨depth, some q, false⟩
  | quote {ch : Char} : isQuote ch = true →
      Moves depth ⟨depth, none, false⟩ ch ⟨depth, some ch, false⟩
  | opening : Moves depth ⟨depth, none, false⟩ '(' ⟨depth + 1, none, false⟩
  | closing : Moves depth ⟨depth + 1, none, false⟩ ')' ⟨depth, none, false⟩
  | char {ch : Char} : isQuote ch = false → ch ≠ '(' → ch ≠ ')' →
      Moves depth ⟨depth, none, false⟩ ch ⟨depth, none, false⟩

variable {self next last : Nesting} {ch : Char}

lemma step_of_moves {depth : Nat} (h : Moves depth self ch next) : self.step ch = some next := by
  cases h with
  | escaped => rfl
  | escape => rfl
  | unquote hq => simp [step, hq]
  | inside hne hback => simp [step, hne, hback]
  | quote hquote => simp [step, hquote]
  | opening => rfl
  | closing => rfl
  | char hquote hopen hclose => simp [step, hquote, hopen, hclose]

lemma moves_of_step (h : self.step ch = some next) : ∃ depth, Moves depth self ch next := by
  obtain ⟨depth, inQuote, escaped⟩ := self
  unfold step at h
  cases escaped with
  | true =>
    obtain rfl := Option.some.inj h
    exact ⟨_, .escaped _ _⟩
  | false =>
    cases inQuote with
    | some q =>
      simp only [Bool.false_eq_true, if_false] at h
      split at h
      next hback =>
        obtain rfl := Option.some.inj h
        subst hback
        exact ⟨_, .escape q⟩
      next hback =>
        split at h
        next heq =>
          obtain rfl := Option.some.inj h
          subst heq
          exact ⟨_, .unquote hback⟩
        next hne =>
          obtain rfl := Option.some.inj h
          exact ⟨_, .inside hne hback⟩
    | none =>
      simp only [Bool.false_eq_true, if_false] at h
      split at h
      next hquote =>
        obtain rfl := Option.some.inj h
        exact ⟨_, .quote hquote⟩
      next hquote =>
        split at h
        next hopen =>
          obtain rfl := Option.some.inj h
          subst hopen
          exact ⟨_, .opening⟩
        next hopen =>
          split at h
          next hclose =>
            cases depth with
            | zero => cases h
            | succ depth =>
              obtain rfl := Option.some.inj h
              subst hclose
              exact ⟨_, .closing⟩
          next hclose =>
            obtain rfl := Option.some.inj h
            exact ⟨_, .char (Bool.eq_false_iff.mpr hquote) hopen hclose⟩

lemma scan_append (self : Nesting) (front back : List Char) :
    self.scan (front ++ back) = (self.scan front).bind (·.scan back) := by
  induction front generalizing self with
  | nil => rfl
  | cons ch front ih =>
    rw [List.cons_append, scan, scan, Option.bind_assoc]
    exact Option.bind_congr (fun next _ => ih next)

lemma scan_cons_eq_some {text : List Char} :
    self.scan (ch :: text) = some last ↔ ∃ next, self.step ch = some next ∧ next.scan text = some last :=
  Option.bind_eq_some_iff

lemma scan_append_eq_some {front back : List Char} :
    self.scan (front ++ back) = some last ↔
      ∃ next, self.scan front = some next ∧ next.scan back = some last := by
  rw [scan_append, Option.bind_eq_some_iff]

lemma step_deeper (h : self.step ch = some next) (k : Nat) :
    (self.deeper k).step ch = some (next.deeper k) := by
  obtain ⟨depth, hmoves⟩ := moves_of_step h
  cases hmoves with
  | escaped => exact step_of_moves (.escaped _ _)
  | escape q => exact step_of_moves (.escape q)
  | unquote hq => exact step_of_moves (.unquote hq)
  | inside hne hback => exact step_of_moves (.inside hne hback)
  | quote hquote => exact step_of_moves (.quote hquote)
  | opening =>
    have hdepth : depth + 1 + k = depth + k + 1 := by omega
    rw [deeper, deeper, hdepth]
    exact step_of_moves .opening
  | closing =>
    have hdepth : depth + 1 + k = depth + k + 1 := by omega
    rw [deeper, deeper, hdepth]
    exact step_of_moves .closing
  | char hquote hopen hclose => exact step_of_moves (.char hquote hopen hclose)

lemma scan_deeper {text : List Char} (h : self.scan text = some last) (k : Nat) :
    (self.deeper k).scan text = some (last.deeper k) := by
  induction text generalizing self with
  | nil =>
    obtain rfl := Option.some.inj h
    rfl
  | cons ch text ih =>
    obtain ⟨next, hnext, hrest⟩ := (scan_cons_eq_some).mp h
    exact (scan_cons_eq_some).mpr ⟨next.deeper k, step_deeper hnext k, ih hrest⟩

lemma proper_outside : outside.Proper where
  quoted := fun h => (by cases h)
  quote := fun _ h => (by cases h)

lemma proper_step (hself : self.Proper) (h : self.step ch = some next) : next.Proper := by
  obtain ⟨depth, hmoves⟩ := moves_of_step h
  cases hmoves with
  | escaped => exact ⟨fun h => (by cases h), hself.quote⟩
  | escape => exact ⟨fun _ => rfl, hself.quote⟩
  | unquote => exact ⟨fun h => (by cases h), fun _ h => (by cases h)⟩
  | inside => exact hself
  | quote hquote =>
    refine ⟨fun h => (by cases h), fun q h => ?_⟩
    obtain rfl := Option.some.inj h
    exact hquote
  | opening => exact ⟨fun h => (by cases h), fun _ h => (by cases h)⟩
  | closing => exact ⟨fun h => (by cases h), fun _ h => (by cases h)⟩
  | char => exact hself

lemma proper_scan {text : List Char} (hself : self.Proper) (h : self.scan text = some last) :
    last.Proper := by
  induction text generalizing self with
  | nil =>
    obtain rfl := Option.some.inj h
    exact hself
  | cons ch text ih =>
    obtain ⟨next, hnext, hrest⟩ := (scan_cons_eq_some).mp h
    exact ih (proper_step hself hnext) hrest

lemma last_of_step (hself : self.Proper) (h : self.step ch = some outside) :
    isQuote ch = true ∨ (ch = ')' ∧ self = outside.deeper 1) ∨
      (isQuote ch = false ∧ ch ≠ ')' ∧ self = outside) := by
  obtain ⟨depth, hmoves⟩ := moves_of_step h
  cases hmoves with
  | escaped => exact absurd (hself.quoted rfl) (by simp)
  | unquote => exact Or.inl (hself.quote ch rfl)
  | closing => exact Or.inr (Or.inl ⟨rfl, rfl⟩)
  | char hquote hopen hclose => exact Or.inr (Or.inr ⟨hquote, hclose, rfl⟩)

end Nesting

section Balance

open Nesting

lemma scan_quotedRest {q : Char} {rest : List Char} (hq : isQuote q = true) (h : QuotedRest q rest)
    (depth : Nat) : (Nesting.mk depth (some q) false).scan rest = some ⟨depth, none, false⟩ := by
  have hback : q ≠ '\\' := by
    rintro rfl
    cases hq
  induction h with
  | close => exact (scan_cons_eq_some).mpr ⟨_, step_of_moves (.unquote hback), rfl⟩
  | escape ch hrest ih =>
    refine (scan_cons_eq_some).mpr ⟨_, step_of_moves (.escape q), ?_⟩
    exact (scan_cons_eq_some).mpr ⟨_, step_of_moves (.escaped (some q) ch), ih⟩
  | char hne hback hrest ih =>
    exact (scan_cons_eq_some).mpr ⟨_, step_of_moves (.inside hne hback), ih⟩

lemma scan_balanced {text : List Char} (h : Balanced text) : outside.scan text = some outside := by
  induction h with
  | nil => rfl
  | char hquote hopen hclose htext ih =>
    exact (scan_cons_eq_some).mpr ⟨outside, step_of_moves (.char hquote hopen hclose), ih⟩
  | quoted hquote hrest htext ih =>
    refine (scan_cons_eq_some).mpr ⟨_, step_of_moves (.quote hquote), ?_⟩
    exact (scan_append_eq_some).mpr ⟨outside, scan_quotedRest hquote hrest 0, ih⟩
  | group hinner htext ihinner ihtext =>
    refine (scan_cons_eq_some).mpr ⟨_, step_of_moves .opening, ?_⟩
    refine (scan_append_eq_some).mpr ⟨_, scan_deeper ihinner 1, ?_⟩
    exact (scan_cons_eq_some).mpr ⟨outside, step_of_moves .closing, ihtext⟩

lemma quotedRest_of_scan {depth : Nat} {q : Char} {text : List Char} :
    ((Nesting.mk depth (some q) false).scan text = some outside → ∃ rest back,
      text = rest ++ back ∧ QuotedRest q rest ∧
        (Nesting.mk depth none false).scan back = some outside) ∧
    ((Nesting.mk depth (some q) true).scan text = some outside → ∃ ch rest back,
      text = ch :: (rest ++ back) ∧ QuotedRest q rest ∧
        (Nesting.mk depth none false).scan back = some outside) := by
  induction text with
  | nil =>
    constructor
    · intro h
      cases h
    · intro h
      cases h
  | cons ch text ih =>
    obtain ⟨ihquoted, ihescaped⟩ := ih
    constructor
    · intro h
      obtain ⟨next, hnext, htext⟩ := (scan_cons_eq_some).mp h
      obtain ⟨_, hmoves⟩ := moves_of_step hnext
      cases hmoves with
      | escape =>
        obtain ⟨ch, rest, back, rfl, hrest, hback⟩ := ihescaped htext
        exact ⟨'\\' :: ch :: rest, back, rfl, .escape ch hrest, hback⟩
      | unquote => exact ⟨[_], text, rfl, .close, htext⟩
      | inside hne hchar =>
        obtain ⟨rest, back, rfl, hrest, hback⟩ := ihquoted htext
        exact ⟨ch :: rest, back, rfl, .char hne hchar hrest, hback⟩
    · intro h
      obtain ⟨rest, back, rfl, hrest, hback⟩ := ihquoted h
      exact ⟨ch, rest, back, rfl, hrest, hback⟩

lemma quotedRest_last {q : Char} {rest : List Char} (h : QuotedRest q rest) :
    ∃ front, rest = front ++ [q] := by
  induction h with
  | close => exact ⟨[], rfl⟩
  | escape ch hrest ih =>
    obtain ⟨front, rfl⟩ := ih
    exact ⟨'\\' :: ch :: front, rfl⟩
  | char hne hback hrest ih =>
    obtain ⟨front, rfl⟩ := ih
    exact ⟨_ :: front, rfl⟩

lemma quote_closes {self : Nesting} {q : Char} {text : List Char} (hself : self.Proper)
    (hquote : self.inQuote = some q) (h : self.scan text = some outside) : ∃ front back,
      text = front ++ q :: back ∧ self.scan (front ++ [q]) = some ⟨self.depth, none, false⟩ := by
  have hq := hself.quote q hquote
  obtain ⟨depth, inQuote, escaped⟩ := self
  obtain rfl : inQuote = some q := hquote
  cases escaped with
  | false =>
    obtain ⟨rest, back, rfl, hrest, -⟩ := (quotedRest_of_scan).1 h
    have hscan := scan_quotedRest hq hrest depth
    obtain ⟨front, rfl⟩ := quotedRest_last hrest
    exact ⟨front, back, by simp, hscan⟩
  | true =>
    obtain ⟨ch, rest, back, rfl, hrest, -⟩ := (quotedRest_of_scan).2 h
    have hscan := scan_quotedRest hq hrest depth
    obtain ⟨front, rfl⟩ := quotedRest_last hrest
    exact ⟨ch :: front, back, by simp,
      (scan_cons_eq_some).mpr ⟨_, step_of_moves (.escaped (some q) ch), hscan⟩⟩

lemma depth_of_scan {self last : Nesting} {text : List Char} (hself : self.depth = 0)
    (htext : '(' ∉ text) (h : self.scan text = some last) : last.depth = 0 := by
  induction text generalizing self with
  | nil =>
    obtain rfl := Option.some.inj h
    exact hself
  | cons ch text ih =>
    rw [List.mem_cons, not_or] at htext
    obtain ⟨next, hnext, hrest⟩ := (scan_cons_eq_some).mp h
    obtain ⟨depth, hmoves⟩ := moves_of_step hnext
    refine ih ?_ htext.2 hrest
    cases hmoves with
    | escaped => exact hself
    | escape => exact hself
    | unquote => exact hself
    | inside => exact hself
    | quote => exact hself
    | opening => exact absurd rfl htext.1
    | closing => cases hself
    | char => exact hself

lemma balanced_append {front back : List Char} (hfront : Balanced front) (hback : Balanced back) :
    Balanced (front ++ back) := by
  induction hfront with
  | nil => exact hback
  | char hquote hopen hclose htext ih => exact .char hquote hopen hclose ih
  | quoted hquote hrest htext ih =>
    rw [List.cons_append, List.append_assoc]
    exact .quoted hquote hrest ih
  | group hinner htext ihinner ihtext =>
    rw [List.cons_append, List.append_assoc, List.cons_append]
    exact .group hinner ihtext

inductive Closing : Nat → List Char → Prop
  | last {text : List Char} : Balanced text → Closing 0 text
  | close {depth : Nat} {front back : List Char} : Balanced front → Closing depth back →
      Closing (depth + 1) (front ++ ')' :: back)

lemma closing_append {depth : Nat} {front back : List Char} (hfront : Balanced front)
    (hback : Closing depth back) : Closing depth (front ++ back) := by
  cases hback with
  | last htext => exact .last (balanced_append hfront htext)
  | close hinner hrest =>
    rw [← List.append_assoc]
    exact .close (balanced_append hfront hinner) hrest

lemma closing_of_scan {depth : Nat} {text : List Char}
    (h : (Nesting.mk depth none false).scan text = some outside) : Closing depth text := by
  induction hlength : text.length using Nat.strong_induction_on generalizing depth text with
  | h n ih =>
    cases text with
    | nil =>
      obtain rfl := congrArg Nesting.depth (Option.some.inj h)
      exact .last .nil
    | cons ch text =>
      obtain ⟨next, hnext, htext⟩ := (scan_cons_eq_some).mp h
      obtain ⟨_, hmoves⟩ := moves_of_step hnext
      subst hlength
      cases hmoves with
      | quote hquote =>
        obtain ⟨rest, back, rfl, hrest, hback⟩ := (quotedRest_of_scan).1 htext
        have hshorter : back.length < (ch :: (rest ++ back)).length := by
          simp only [List.length_cons, List.length_append]
          omega
        have hclosing : Closing depth back := ih back.length hshorter hback rfl
        have hquoted : Balanced (ch :: (rest ++ [])) := .quoted hquote hrest .nil
        simpa using closing_append hquoted hclosing
      | opening =>
        have hclosing : Closing (depth + 1) text := ih text.length (by simp) htext rfl
        cases hclosing with
        | @close _ front back hfront hback =>
          have hgroup : Balanced ('(' :: (front ++ ')' :: [])) := .group hfront .nil
          simpa using closing_append hgroup hback
      | closing => exact .close .nil (ih text.length (by simp) htext rfl)
      | char hquote hopen hclose =>
        have hclosing : Closing depth text := ih text.length (by simp) htext rfl
        exact closing_append (.char hquote hopen hclose .nil : Balanced [ch]) hclosing

theorem balanced_iff {text : List Char} : Balanced text ↔ outside.scan text = some outside := by
  constructor
  · exact scan_balanced
  · intro h
    cases closing_of_scan h with
    | last htext => exact htext

instance (text : List Char) : Decidable (Balanced text) := decidable_of_iff _ (balanced_iff).symm

lemma not_balanced_of_open {base front back : List Char} (hbase : Balanced base)
    (htext : Balanced (front ++ back)) : ¬ Balanced (base ++ '(' :: front) := by
  intro h
  obtain ⟨next, hfront, -⟩ := scan_append_eq_some.mp (scan_balanced htext)
  have hscan : outside.scan (base ++ '(' :: front) = some (next.deeper 1) := by
    refine scan_append_eq_some.mpr ⟨outside, scan_balanced hbase, ?_⟩
    exact scan_cons_eq_some.mpr ⟨_, step_of_moves .opening, scan_deeper hfront 1⟩
  rw [scan_balanced h] at hscan
  have hdepth := congrArg Nesting.depth (Option.some.inj hscan)
  simp [outside, deeper] at hdepth

end Balance

section Words

open Nesting

lemma isWhiteSpace_of_isQuote {ch : Char} (h : isQuote ch = true) : isWhiteSpace ch = false := by
  simp only [isQuote, Bool.or_eq_true, decide_eq_true_eq] at h
  obtain rfl | rfl := h <;> decide

lemma IsWord.trim {word : List Char} (h : IsWord word) :
    Text.trim (String.ofList word) = String.ofList word := by
  have hfirst : word.dropWhile isWhiteSpace = word := by
    cases hword : word with
    | nil => rfl
    | cons ch back =>
      have hgap := h.gapless [] ch back hword .nil
      rw [List.dropWhile_cons_of_neg (by simp [hgap])]
  have hlast : word.reverse.dropWhile isWhiteSpace = word.reverse := by
    obtain ⟨front, ch, rfl⟩ : ∃ front ch, word = front ++ [ch] :=
      ⟨word.dropLast, word.getLast h.nonempty, (List.dropLast_append_getLast h.nonempty).symm⟩
    have hblank : isWhiteSpace ch = false := by
      obtain ⟨self, hfront, hscan⟩ := scan_append_eq_some.mp (scan_balanced h.balanced)
      obtain ⟨_, hstep, hend⟩ := scan_cons_eq_some.mp hscan
      obtain rfl := Option.some.inj hend
      obtain hquote | ⟨rfl, -⟩ | ⟨-, -, rfl⟩ :=
        last_of_step (proper_scan proper_outside hfront) hstep
      · exact isWhiteSpace_of_isQuote hquote
      · decide
      · exact h.gapless front ch [] rfl (balanced_iff.mpr hfront)
    rw [List.reverse_append, List.reverse_singleton, List.singleton_append,
      List.dropWhile_cons_of_neg (by simp [hblank])]
  rw [Text.trim, String.toList_ofList, hfirst, hlast, List.reverse_reverse]

lemma separated_blank_cons {ch : Char} {text : List Char} {words : List (List Char)}
    (hch : isWhiteSpace ch = true) (h : Separated text words) : Separated (ch :: text) words := by
  cases h with
  | blank hspace => exact .blank (List.forall_mem_cons.mpr ⟨hch, hspace⟩)
  | word hspace hblank htext =>
    exact .word (List.forall_mem_cons.mpr ⟨hch, hspace⟩) hblank htext

end Words

end Awaken.Lib
