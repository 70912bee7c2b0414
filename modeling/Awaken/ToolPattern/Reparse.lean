import Mathlib.Data.List.TakeWhile
import Awaken.ToolPattern.Parser

namespace Awaken.ToolPattern

open Awaken.Lib.Text

namespace Cursor

variable {cursor : Cursor} {text rest : List Char} {c : Char}

@[simp] lemma advance_rest (cursor : Cursor) (n : Nat) :
    (cursor.advance n).rest = cursor.rest.drop n := rfl

lemma drop_takeWhile (p : Char → Bool) (s : List Char) :
    s.drop (s.takeWhile p).length = s.dropWhile p := by
  induction s with
  | nil => rfl
  | cons c s ih =>
    by_cases hc : p c = true
    · rw [List.takeWhile_cons_of_pos hc, List.dropWhile_cons_of_pos hc, List.length_cons,
        List.drop_succ_cons, ih]
    · rw [List.takeWhile_cons_of_neg hc, List.dropWhile_cons_of_neg hc, List.length_nil,
        List.drop_zero]

@[simp] lemma takeWhile_rest (cursor : Cursor) (p : Char → Bool) :
    (cursor.takeWhile p).2.rest = cursor.rest.dropWhile p :=
  drop_takeWhile p cursor.rest

@[simp] lemma skipWhitespace_rest (cursor : Cursor) :
    cursor.skipWhitespace.rest = cursor.rest.dropWhile isAsciiWhitespace :=
  takeWhile_rest cursor isAsciiWhitespace

lemma peek_of_rest (h : cursor.rest = c :: rest) : cursor.peek = some c := by
  rw [peek, h, List.head?_cons]

lemma skipWhitespace_of_rest (h : cursor.rest = c :: rest) (hc : isAsciiWhitespace c = false) :
    cursor.skipWhitespace.rest = c :: rest := by
  rw [skipWhitespace_rest, h, List.dropWhile_cons_of_neg (by simp [hc])]

lemma takeWhile_of_rest {p : Char → Bool} (h : cursor.rest = text ++ c :: rest)
    (ht : ∀ d ∈ text, p d = true) (hc : p c = false) :
    ∃ cursor', cursor.takeWhile p = (text, cursor') ∧ cursor'.rest = c :: rest := by
  have htake : cursor.rest.takeWhile p = text := by
    rw [h, List.takeWhile_append_of_pos ht, List.takeWhile_cons_of_neg (by simp [hc]),
      List.append_nil]
  refine ⟨(cursor.takeWhile p).2, ?_, ?_⟩
  · exact Prod.ext htake rfl
  · rw [takeWhile_rest, h, List.dropWhile_append_of_pos ht,
      List.dropWhile_cons_of_neg (by simp [hc])]

lemma expect_of_rest (h : cursor.rest = c :: rest) (hc : isAsciiWhitespace c = false) :
    ∃ cursor', cursor.expect c = .ok cursor' ∧ cursor'.rest = rest := by
  have hs := skipWhitespace_of_rest h hc
  refine ⟨cursor.skipWhitespace.advance 1, ?_, ?_⟩
  · simp only [expect, peek_of_rest hs, if_true]
  · rw [advance_rest, hs, List.drop_succ_cons, List.drop_zero]

end Cursor

def PathSegment.isNamed : PathSegment → Bool
  | .field _ | .wildcard => true
  | .index _ | .anyIndex => false

def PathSegment.Shaped : PathSegment → Prop
  | .field name => name ≠ [] ∧ ∀ c ∈ name, isIdentifierChar c = true
  | .index i => i ≤ usizeMax
  | .anyIndex | .wildcard => True

structure PathShaped (path : List PathSegment) : Prop where
  named : ∃ segment segments, path = segment :: segments ∧ segment.isNamed = true
  shaped : ∀ segment ∈ path, segment.Shaped

section Paths

variable {cursor : Cursor} {path : List PathSegment} {segment : PathSegment} {rest : List Char}

lemma not_asciiWhitespace_of_identifierChar {c : Char} (h : isIdentifierChar c = true) :
    isAsciiWhitespace c = false := by
  by_contra hw
  simp only [isAsciiWhitespace, Bool.or_eq_true, decide_eq_true_eq, Bool.not_eq_false] at hw
  rcases hw with (((rfl | rfl) | rfl) | rfl) | rfl <;> revert h <;> decide

lemma parseName_display {c : Char} (hn : segment.isNamed = true) (hs : segment.Shaped)
    (hc : isIdentifierChar c = false) (hr : cursor.rest = segment.display ++ c :: rest) :
    ∃ cursor', parseName cursor = .ok (segment, cursor') ∧ cursor'.rest = c :: rest := by
  cases segment with
  | index i => cases hn
  | anyIndex => cases hn
  | wildcard =>
    have hskip := Cursor.skipWhitespace_of_rest hr (by decide)
    refine ⟨cursor.skipWhitespace.advance 1, ?_, ?_⟩
    · simp only [parseName, Cursor.peek_of_rest hskip, if_true]
      rfl
    · rw [Cursor.advance_rest, hskip]
      rfl
  | field name =>
    obtain ⟨hne, hall⟩ := hs
    obtain ⟨d, name', rfl⟩ := List.exists_cons_of_ne_nil hne
    have hd := hall d List.mem_cons_self
    have hskip := Cursor.skipWhitespace_of_rest hr (not_asciiWhitespace_of_identifierChar hd)
    have hstar : d ≠ '*' := by
      rintro rfl
      exact absurd hd (by decide)
    obtain ⟨cursor', htake, hrest⟩ := Cursor.takeWhile_of_rest hskip hall hc
    refine ⟨cursor', ?_, hrest⟩
    simp only [parseName, Cursor.peek_of_rest hskip, Option.some.injEq, if_neg hstar,
      parseIdentifier, htake]
    rfl

lemma parseUsize_display {i : Nat} (hi : i ≤ usizeMax)
    (hr : cursor.rest = Nat.toDigits 10 i ++ ']' :: rest) :
    ∃ cursor', parseUsize cursor = .ok (i, cursor') ∧ cursor'.rest = ']' :: rest := by
  have hall : ∀ c ∈ Nat.toDigits 10 i, c.isDigit = true := fun c hc =>
    Nat.isDigit_of_mem_toDigits (by decide) (by decide) hc
  obtain ⟨cursor', htake, hrest⟩ := Cursor.takeWhile_of_rest hr hall (by decide)
  refine ⟨cursor', ?_, hrest⟩
  have hne : (Nat.toDigits 10 i).isEmpty = false := List.isEmpty_eq_false_iff.mpr Nat.toDigits_ne_nil
  simp only [parseUsize, htake, hne, Nat.ofDigitChars_ten_toDigits]
  rw [if_neg (by simp [hi])]

lemma parseIndex_display (hn : segment.isNamed = false) (hs : segment.Shaped) {cursor : Cursor}
    (hr : '[' :: cursor.rest = segment.display ++ rest) :
    ∃ cursor', parseIndex cursor = .ok (segment, cursor') ∧ cursor'.rest = rest := by
  cases segment with
  | field name => cases hn
  | wildcard => cases hn
  | anyIndex =>
    have hr' : cursor.rest = '*' :: ']' :: rest := (List.cons.inj hr).2
    have hskip := Cursor.skipWhitespace_of_rest hr' (by decide)
    have hclose : (cursor.skipWhitespace.advance 1).rest = ']' :: rest := by
      rw [Cursor.advance_rest, hskip]
      rfl
    obtain ⟨cursor', hexpect, hrest⟩ := Cursor.expect_of_rest hclose (by decide)
    refine ⟨cursor', ?_, hrest⟩
    simp only [parseIndex, Cursor.peek_of_rest hskip, if_true, hexpect]
    rfl
  | index i =>
    have hr' : cursor.rest = Nat.toDigits 10 i ++ ']' :: rest := by
      have h := (List.cons.inj hr).2
      simpa using h
    obtain ⟨d, digits, hd⟩ := List.exists_cons_of_ne_nil (Nat.toDigits_ne_nil (n := i) (b := 10))
    have hdigit : d.isDigit = true := Nat.isDigit_of_mem_toDigits (n := i) (by decide) (by decide)
      (hd ▸ List.mem_cons_self)
    have hident : isIdentifierChar d = true := by simp [isIdentifierChar, Char.isAlphanum, hdigit]
    have hstar : d ≠ '*' := by
      rintro rfl
      exact absurd hdigit (by decide)
    have hskip := Cursor.skipWhitespace_of_rest (hr'.trans (by rw [hd]; rfl))
      (not_asciiWhitespace_of_identifierChar hident)
    have hskip' : cursor.skipWhitespace.rest = Nat.toDigits 10 i ++ ']' :: rest := by
      rw [hskip, hd]
      rfl
    obtain ⟨cursor₁, hparse, hclose⟩ := parseUsize_display hs hskip'
    obtain ⟨cursor', hexpect, hrest⟩ := Cursor.expect_of_rest hclose (by decide)
    refine ⟨cursor', ?_, hrest⟩
    simp only [parseIndex, Cursor.peek_of_rest hskip, Option.some.injEq, if_neg hstar, hparse]
    simp only [bind, Except.bind, hexpect]
    rfl

lemma displayTail_index (h : segment.isNamed = false) :
    displayTail (segment :: path) = segment.display ++ displayTail path := by
  cases segment with
  | field name => cases h
  | wildcard => cases h
  | index i => rfl
  | anyIndex => rfl

lemma displayTail_named (h : segment.isNamed = true) :
    displayTail (segment :: path) = '.' :: (segment.display ++ displayTail path) := by
  cases segment with
  | index i => cases h
  | anyIndex => cases h
  | field name => rfl
  | wildcard => rfl

lemma display_index (h : segment.isNamed = false) : ∃ text, segment.display = '[' :: text := by
  cases segment with
  | field name => cases h
  | wildcard => cases h
  | index i => exact ⟨_, rfl⟩
  | anyIndex => exact ⟨_, rfl⟩

lemma displayTail_head (path : List PathSegment) (rest : List Char) :
    ∃ c text, displayTail path ++ ' ' :: rest = c :: text ∧ (c = '.' ∨ c = '[' ∨ c = ' ') := by
  cases path with
  | nil => exact ⟨' ', rest, rfl, .inr (.inr rfl)⟩
  | cons segment path =>
    cases hn : segment.isNamed with
    | true =>
      rw [displayTail_named hn]
      exact ⟨'.', _, rfl, .inl rfl⟩
    | false =>
      obtain ⟨text, ht⟩ := display_index hn
      rw [displayTail_index hn, ht]
      exact ⟨'[', _, rfl, .inr (.inl rfl)⟩

lemma length_le_displayTail (path : List PathSegment) (rest : List Char) :
    path.length ≤ (displayTail path ++ ' ' :: rest).length := by
  induction path with
  | nil => exact Nat.zero_le _
  | cons segment path ih =>
    cases hn : segment.isNamed with
    | true =>
      rw [displayTail_named hn]
      simp only [List.length_cons, List.length_append] at ih ⊢
      omega
    | false =>
      obtain ⟨text, ht⟩ := display_index hn
      rw [displayTail_index hn, ht]
      simp only [List.length_cons, List.length_append] at ih ⊢
      omega

lemma parseIndices_display {fuel : Nat} (hf : path.length ≤ fuel)
    (hs : ∀ segment ∈ path, segment.Shaped) (hr : cursor.rest = displayTail path ++ ' ' :: rest) :
    ∃ cursor', parseIndices fuel cursor = .ok (path.takeWhile (fun s => !s.isNamed), cursor') ∧
      cursor'.rest = displayTail (path.dropWhile (fun s => !s.isNamed)) ++ ' ' :: rest := by
  induction path generalizing fuel cursor with
  | nil =>
    refine ⟨cursor, ?_, hr⟩
    cases fuel with
    | zero => rfl
    | succ fuel =>
      simp only [parseIndices, Cursor.peek_of_rest hr]
      rfl
  | cons segment path ih =>
    obtain ⟨fuel, rfl⟩ : ∃ n, fuel = n + 1 := ⟨fuel - 1, by simp at hf; omega⟩
    cases hn : segment.isNamed with
    | true =>
      rw [displayTail_named hn] at hr
      refine ⟨cursor, ?_, ?_⟩
      · rw [List.takeWhile_cons_of_neg (by simp [hn])]
        simp only [parseIndices, Cursor.peek_of_rest hr]
        rfl
      · rw [List.dropWhile_cons_of_neg (by simp [hn]), displayTail_named hn, hr]
    | false =>
      rw [displayTail_index hn, List.append_assoc] at hr
      obtain ⟨text, ht⟩ := display_index hn
      have hpeek : cursor.peek = some '[' := Cursor.peek_of_rest (by rw [hr, ht]; rfl)
      have hopen : '[' :: (cursor.advance 1).rest =
          segment.display ++ (displayTail path ++ ' ' :: rest) := by
        rw [Cursor.advance_rest, hr, ht]
        rfl
      obtain ⟨cursor₁, hparse, hr₁⟩ := parseIndex_display hn (hs segment List.mem_cons_self) hopen
      obtain ⟨cursor', hloop, hrest⟩ := ih (by simpa using hf)
        (fun s hmem => hs s (List.mem_cons_of_mem _ hmem)) hr₁
      refine ⟨cursor', ?_, ?_⟩
      · rw [List.takeWhile_cons_of_pos (by simp [hn])]
        simp only [parseIndices, hpeek, if_true, hparse, bind, Except.bind, hloop]
        rfl
      · rw [List.dropWhile_cons_of_pos (by simp [hn]), hrest]

lemma parseFieldPathLoop_display {fuel : Nat} (hf : path.length < fuel)
    (hn : segment.isNamed = true) (hs : ∀ s ∈ segment :: path, s.Shaped)
    (hr : cursor.rest = displayPath (segment :: path) ++ ' ' :: rest) :
    ∃ cursor', parseFieldPathLoop fuel cursor = .ok (segment :: path, cursor') ∧
      cursor'.rest = ' ' :: rest := by
  induction fuel generalizing segment path cursor with
  | zero => exact absurd hf (Nat.not_lt_zero _)
  | succ fuel ih =>
    obtain ⟨c, text, htail, hc⟩ := displayTail_head path rest
    have hr' : cursor.rest = segment.display ++ c :: text := by
      rw [hr, displayPath, List.append_assoc, htail]
    have hident : isIdentifierChar c = false := by
      rcases hc with rfl | rfl | rfl <;> decide
    obtain ⟨cursor₁, hname, hr₁⟩ := parseName_display hn (hs _ List.mem_cons_self) hident hr'
    rw [← htail] at hr₁
    have hlen : path.length ≤ cursor₁.rest.length := by
      rw [hr₁]
      exact length_le_displayTail path rest
    obtain ⟨cursor₂, hindices, hr₂⟩ := parseIndices_display hlen
      (fun s hmem => hs s (List.mem_cons_of_mem _ hmem)) hr₁
    have hpath := List.takeWhile_append_dropWhile (p := fun s => !s.isNamed) (l := path)
    cases hdrop : path.dropWhile (fun s => !s.isNamed) with
    | nil =>
      rw [hdrop] at hr₂ hpath
      rw [List.append_nil] at hpath
      refine ⟨cursor₂, ?_, hr₂⟩
      simp only [parseFieldPathLoop, hname, bind, Except.bind, hindices, Cursor.peek_of_rest hr₂,
        hpath]
      rfl
    | cons next path' =>
      have hnext : next.isNamed = true := by
        have h := List.head?_dropWhile_not (fun s : PathSegment => !s.isNamed) path
        rw [hdrop] at h
        simpa using h
      rw [hdrop, displayTail_named hnext] at hr₂
      rw [hdrop] at hpath
      have hmem : ∀ s ∈ next :: path', s.Shaped := fun s hmem =>
        hs s (List.mem_cons_of_mem _ (hpath ▸ List.mem_append_right _ hmem))
      have hlt : path'.length < fuel := by
        have hl := congrArg List.length hpath
        simp only [List.length_append, List.length_cons] at hl
        omega
      have hr₃ : (cursor₂.advance 1).rest = displayPath (next :: path') ++ ' ' :: rest := by
        rw [Cursor.advance_rest, hr₂]
        simp [displayPath]
      obtain ⟨cursor', hloop, hrest⟩ := ih hlt hnext hmem hr₃
      refine ⟨cursor', ?_, hrest⟩
      simp only [parseFieldPathLoop, hname, bind, Except.bind, hindices]
      rw [if_pos (Cursor.peek_of_rest hr₂), hloop]
      simp only [pure, Except.pure, List.cons_append, hpath]

lemma displayPath_head (hp : PathShaped path) :
    ∃ c text, displayPath path = c :: text ∧ (c = '*' ∨ isIdentifierChar c = true) := by
  obtain ⟨segment, path', rfl, hn⟩ := hp.named
  cases segment with
  | index i => cases hn
  | anyIndex => cases hn
  | wildcard => exact ⟨'*', _, rfl, .inl rfl⟩
  | field name =>
    obtain ⟨hne, hall⟩ := hp.shaped _ List.mem_cons_self
    obtain ⟨d, name', rfl⟩ := List.exists_cons_of_ne_nil hne
    exact ⟨d, _, rfl, .inr (hall d List.mem_cons_self)⟩

lemma parseFieldPath_display (hp : PathShaped path)
    (hr : cursor.rest = displayPath path ++ ' ' :: rest) :
    ∃ cursor', parseFieldPath cursor = .ok (path, cursor') ∧ cursor'.rest = ' ' :: rest := by
  obtain ⟨segment, path', rfl, hn⟩ := hp.named
  refine parseFieldPathLoop_display ?_ hn hp.shaped hr
  have hlen := length_le_displayTail path' rest
  have hcons : (displayPath (segment :: path') ++ ' ' :: rest).length =
      segment.display.length + (displayTail path' ++ ' ' :: rest).length := by
    rw [displayPath, List.append_assoc, List.length_append]
  rw [hr, hcons]
  omega

end Paths

section Conditions

variable {cursor : Cursor} {text rest : List Char} {condition : FieldCondition}

lemma parseMatchOp_display (op : MatchOp) (hr : cursor.rest = op.display ++ ' ' :: rest) :
    ∃ cursor', parseMatchOp cursor = .ok (op, cursor') ∧ cursor'.rest = ' ' :: rest := by
  refine ⟨cursor.advance op.display.length, ?_, ?_⟩
  · cases op <;> (unfold parseMatchOp; rw [hr]; rfl)
  · rw [Cursor.advance_rest, hr, List.drop_left]

/-- The values that stand for themselves between quotes: no quote is in them, and behind each
backslash is a character that needs none. -/
def plainValue : List Char → Bool
  | [] => true
  | c :: rest =>
    if c = '"' then false
    else if c = '\\' then
      match rest with
      | [] => false
      | d :: rest => d ≠ '"' && d ≠ '\\' && plainValue rest
    else plainValue rest

lemma scanQuoted_quote (rest : List Char) : scanQuoted ('"' :: rest) = .ok ([], 1) := by
  rw [scanQuoted.eq_def]
  rfl

lemma scanQuoted_escape (d : Char) (rest : List Char) :
    scanQuoted ('\\' :: d :: rest) =
      if d = '"' ∨ d = '\\' then (scanQuoted rest).map (Prod.map (d :: ·) (· + 2))
      else (scanQuoted rest).map (Prod.map (['\\', d] ++ ·) (· + 2)) := by
  rw [scanQuoted.eq_def]
  rfl

lemma scanQuoted_char {c : Char} (hq : c ≠ '"') (hb : c ≠ '\\') (rest : List Char) :
    scanQuoted (c :: rest) = (scanQuoted rest).map (Prod.map (c :: ·) (· + 1)) := by
  rw [scanQuoted.eq_def]
  simp only [if_neg hq, if_neg hb]

lemma scanQuoted_plain (h : plainValue text = true) :
    scanQuoted (text ++ '"' :: rest) = .ok (text, text.length + 1) := by
  fun_induction plainValue text with
  | case1 => exact scanQuoted_quote rest
  | case2 => cases h
  | case3 => cases h
  | case4 d text' hq ih =>
    simp only [Bool.and_eq_true, decide_eq_true_eq, ne_eq] at h
    rw [List.cons_append, List.cons_append, scanQuoted_escape, ih h.2,
      if_neg (by simp [h.1.1, h.1.2])]
    rfl
  | case5 c text' hq hb ih =>
    rw [List.cons_append, scanQuoted_char hq hb, ih h]
    rfl

lemma map_ok_inj {ε α β : Type} {f : α → β} {x : Except ε α} {b : β} (h : x.map f = .ok b) :
    ∃ a, x = .ok a ∧ f a = b := by
  cases x with
  | error e => cases h
  | ok a => exact ⟨a, rfl, Except.ok.inj h⟩

lemma scanQuoted_behind (k n : Nat) :
    scanQuoted (text ++ '"' :: rest) ≠ .ok (List.replicate (k + 1) '\\' ++ text, n) := by
  intro h
  induction hl : text.length using Nat.strong_induction_on generalizing text k n with
  | _ l ih =>
    rw [List.replicate_succ, List.cons_append] at h
    cases text with
    | nil =>
      rw [List.nil_append, scanQuoted_quote] at h
      cases (Prod.mk.inj (Except.ok.inj h)).1
    | cons c text =>
      rw [List.cons_append] at h
      by_cases hq : c = '"'
      · subst hq
        rw [scanQuoted_quote] at h
        cases (Prod.mk.inj (Except.ok.inj h)).1
      · by_cases hb : c = '\\'
        · subst hb
          cases text with
          | nil =>
            rw [List.nil_append, scanQuoted_escape, if_pos (.inl rfl)] at h
            obtain ⟨⟨v, m⟩, -, hv⟩ := map_ok_inj h
            exact absurd (List.cons.inj (Prod.mk.inj hv).1).1 (by decide)
          | cons d text =>
            rw [List.cons_append, scanQuoted_escape] at h
            by_cases hd : d = '"' ∨ d = '\\'
            · rw [if_pos hd] at h
              obtain ⟨⟨v, m⟩, hscan, hv⟩ := map_ok_inj h
              obtain ⟨rfl, hv⟩ := List.cons.inj (Prod.mk.inj hv).1
              refine ih text.length ?_ (k + 1) m ?_ rfl
              · rw [← hl]
                simp only [List.length_cons]
                omega
              · change v = List.replicate k '\\' ++ '\\' :: '\\' :: text at hv
                rw [hscan, hv, List.replicate_succ', List.replicate_succ']
                simp
            · rw [if_neg hd] at h
              obtain ⟨⟨v, m⟩, -, hv⟩ := map_ok_inj h
              have htail := (List.cons.inj (Prod.mk.inj hv).1).2
              have hback : d = '\\' := by
                cases k with
                | zero => exact (List.cons.inj htail).1
                | succ k =>
                  rw [List.replicate_succ] at htail
                  exact (List.cons.inj htail).1
              exact hd (.inr hback)
        · rw [scanQuoted_char hq hb] at h
          obtain ⟨⟨v, m⟩, -, hv⟩ := map_ok_inj h
          exact hb (List.cons.inj (Prod.mk.inj hv).1).1

lemma plain_of_scanQuoted {n : Nat} (h : scanQuoted (text ++ '"' :: rest) = .ok (text, n)) :
    plainValue text = true := by
  fun_induction plainValue text generalizing n with
  | case1 => rfl
  | case2 =>
    rw [List.cons_append, scanQuoted_quote] at h
    cases (Prod.mk.inj (Except.ok.inj h)).1
  | case3 hq =>
    rw [List.cons_append, List.nil_append, scanQuoted_escape, if_pos (.inl rfl)] at h
    obtain ⟨⟨v, m⟩, -, hv⟩ := map_ok_inj h
    exact absurd (List.cons.inj (Prod.mk.inj hv).1).1 (by decide)
  | case4 d text' hq ih =>
    rw [List.cons_append, List.cons_append, scanQuoted_escape] at h
    by_cases hd : d = '"' ∨ d = '\\'
    · rw [if_pos hd] at h
      obtain ⟨⟨v, m⟩, hscan, hv⟩ := map_ok_inj h
      obtain ⟨rfl, hv⟩ := List.cons.inj (Prod.mk.inj hv).1
      change v = List.replicate 1 '\\' ++ text' at hv
      rw [hv] at hscan
      exact absurd hscan (scanQuoted_behind 0 m)
    · rw [if_neg hd] at h
      obtain ⟨⟨v, m⟩, hscan, hv⟩ := map_ok_inj h
      have htail : v = text' := (List.cons.inj (List.cons.inj (Prod.mk.inj hv).1).2).2
      rw [htail] at hscan
      rw [not_or] at hd
      simp [hd.1, hd.2, ih hscan]
  | case5 c text' hq hb ih =>
    rw [List.cons_append, scanQuoted_char hq hb] at h
    obtain ⟨⟨v, m⟩, hscan, hv⟩ := map_ok_inj h
    have htail : v = text' := (List.cons.inj (Prod.mk.inj hv).1).2
    rw [htail] at hscan
    exact ih hscan

lemma parseSingleFieldCondition_display (hp : PathShaped condition.path)
    (hr : cursor.rest = condition.display ++ rest) :
    ∃ cursor₁ : Cursor, cursor₁.rest = condition.value ++ '"' :: rest ∧
      parseSingleFieldCondition cursor =
        match scanQuoted (condition.value ++ '"' :: rest) with
        | .error e => .error ((cursor₁.advance cursor₁.rest.length).error e.message)
        | .ok (value, n) => .ok (⟨condition.path, condition.op, value⟩, cursor₁.advance n) := by
  obtain ⟨c, text, hhead, hc⟩ := displayPath_head hp
  have hws : isAsciiWhitespace c = false := by
    rcases hc with rfl | hc
    · decide
    · exact not_asciiWhitespace_of_identifierChar hc
  have hr' : cursor.rest = displayPath condition.path ++
      ' ' :: (condition.op.display ++ ' ' :: '"' :: (condition.value ++ '"' :: rest)) := by
    rw [hr, FieldCondition.display]
    simp
  have hskip : cursor.skipWhitespace.rest = cursor.rest := by
    rw [hr', hhead, List.cons_append]
    exact Cursor.skipWhitespace_of_rest (by rw [hr', hhead]; rfl) hws
  obtain ⟨cursor₂, hpath, hr₂⟩ := parseFieldPath_display hp (hskip.trans hr')
  have hskip₂ : cursor₂.skipWhitespace.rest =
      condition.op.display ++ ' ' :: '"' :: (condition.value ++ '"' :: rest) := by
    rw [Cursor.skipWhitespace_rest, hr₂, List.dropWhile_cons_of_pos (by decide)]
    cases condition.op <;> rfl
  obtain ⟨cursor₃, hop, hr₃⟩ := parseMatchOp_display condition.op hskip₂
  have hskip₃ : cursor₃.skipWhitespace.rest = '"' :: (condition.value ++ '"' :: rest) := by
    rw [Cursor.skipWhitespace_rest, hr₃, List.dropWhile_cons_of_pos (by decide)]
    rfl
  have hskip₄ := Cursor.skipWhitespace_of_rest hskip₃ (by decide)
  have hvalue : (cursor₃.skipWhitespace.skipWhitespace.advance 1).rest =
      condition.value ++ '"' :: rest := by
    rw [Cursor.advance_rest, hskip₄]
    rfl
  refine ⟨_, hvalue, ?_⟩
  simp only [parseSingleFieldCondition, hpath, hop, bind, Except.bind, parseQuotedValue,
    Cursor.peek_of_rest hskip₄, hvalue]
  cases scanQuoted (condition.value ++ '"' :: rest) with
  | error e => rfl
  | ok read => rfl

lemma displayConditions_cons (condition : FieldCondition) {conditions : List FieldCondition}
    (h : conditions ≠ []) : displayConditions (condition :: conditions) =
      condition.display ++ ',' :: ' ' :: displayConditions conditions := by
  cases conditions with
  | nil => exact absurd rfl h
  | cons next conditions => rfl

lemma display_head (hp : PathShaped condition.path) (rest : List Char) :
    (condition.display ++ rest).dropWhile isAsciiWhitespace = condition.display ++ rest := by
  obtain ⟨c, text, hhead, hc⟩ := displayPath_head hp
  have hws : isAsciiWhitespace c = false := by
    rcases hc with rfl | hc
    · decide
    · exact not_asciiWhitespace_of_identifierChar hc
  rw [FieldCondition.display, hhead, List.cons_append, List.cons_append,
    List.dropWhile_cons_of_neg (by simp [hws])]

variable {conditions : List FieldCondition} {fuel : Nat}

lemma displayConditions_head (hne : conditions ≠ [])
    (hs : ∀ condition ∈ conditions, PathShaped condition.path) (rest : List Char) :
    (displayConditions conditions ++ rest).dropWhile isAsciiWhitespace =
      displayConditions conditions ++ rest := by
  obtain ⟨condition, conditions, rfl⟩ := List.exists_cons_of_ne_nil hne
  have hp := hs condition List.mem_cons_self
  by_cases hnil : conditions = []
  · subst hnil
    exact display_head hp rest
  · rw [displayConditions_cons condition hnil, List.append_assoc]
    exact display_head hp _

lemma advance_value {cursor : Cursor} {value : List Char}
    (hr : cursor.rest = value ++ '"' :: rest) : (cursor.advance (value.length + 1)).rest = rest := by
  rw [Cursor.advance_rest, hr, List.drop_append, List.drop_eq_nil_of_le (by omega)]
  simp

lemma advance_separator {cursor : Cursor} (hne : conditions ≠ [])
    (hs : ∀ condition ∈ conditions, PathShaped condition.path)
    (hr : cursor.rest = ',' :: ' ' :: displayConditions conditions ++ rest) :
    (cursor.advance 1).rest.dropWhile isAsciiWhitespace = displayConditions conditions ++ rest := by
  rw [Cursor.advance_rest, hr, List.cons_append, List.drop_succ_cons, List.drop_zero,
    List.cons_append, List.dropWhile_cons_of_pos (by decide), displayConditions_head hne hs]

lemma parseFieldConditionsLoop_display (hf : conditions.length ≤ fuel) (hne : conditions ≠ [])
    (hs : ∀ condition ∈ conditions, PathShaped condition.path)
    (hr : cursor.rest.dropWhile isAsciiWhitespace = displayConditions conditions ++ ')' :: rest)
    (hv : ∀ condition ∈ conditions, plainValue condition.value = true) :
    ∃ cursor', parseFieldConditionsLoop fuel cursor = .ok (conditions, cursor') ∧
      cursor'.rest = ')' :: rest := by
  induction conditions generalizing fuel cursor with
  | nil => exact absurd rfl hne
  | cons condition conditions ih =>
    obtain ⟨fuel, rfl⟩ : ∃ n, fuel = n + 1 := ⟨fuel - 1, by simp at hf; omega⟩
    have hp := hs condition List.mem_cons_self
    have hplain := hv condition List.mem_cons_self
    rw [← Cursor.skipWhitespace_rest] at hr
    by_cases hnil : conditions = []
    · subst hnil
      obtain ⟨cursor₁, hr₁, hparse⟩ := parseSingleFieldCondition_display hp hr
      rw [scanQuoted_plain hplain] at hparse
      have hr₂ := Cursor.skipWhitespace_of_rest (advance_value hr₁) (by decide)
      refine ⟨_, ?_, hr₂⟩
      simp only [parseFieldConditionsLoop, hparse, bind, Except.bind, Cursor.peek_of_rest hr₂]
      rfl
    · rw [displayConditions_cons condition hnil, List.append_assoc] at hr
      obtain ⟨cursor₁, hr₁, hparse⟩ := parseSingleFieldCondition_display hp hr
      rw [scanQuoted_plain hplain] at hparse
      have hr₂ := Cursor.skipWhitespace_of_rest (advance_value hr₁) (by decide)
      have hs' := fun c hmem => hs c (List.mem_cons_of_mem condition hmem)
      have hfuel : conditions.length ≤ fuel := by simpa using hf
      have hr₃ := advance_separator hnil hs' hr₂
      obtain ⟨cursor', hloop, hrest⟩ := ih hfuel hnil hs' hr₃
        (fun c hmem => hv c (List.mem_cons_of_mem condition hmem))
      refine ⟨cursor', ?_, hrest⟩
      simp only [parseFieldConditionsLoop, hparse, bind, Except.bind]
      rw [if_pos (Cursor.peek_of_rest hr₂), hloop]
      rfl

lemma bind_ok {ε α β : Type} {x : Except ε α} {f : α → Except ε β} {b : β}
    (h : (x >>= f) = .ok b) : ∃ a, x = .ok a ∧ f a = .ok b := by
  cases x with
  | error e => cases h
  | ok a => exact ⟨a, rfl, h⟩

lemma parseSingleFieldCondition_value {cursor' : Cursor} (hp : PathShaped condition.path)
    (hr : cursor.rest = condition.display ++ rest)
    (h : parseSingleFieldCondition cursor = .ok (condition, cursor')) :
    plainValue condition.value = true ∧ cursor'.rest = rest := by
  obtain ⟨cursor₁, hr₁, hparse⟩ := parseSingleFieldCondition_display hp hr
  rw [h] at hparse
  cases hscan : scanQuoted (condition.value ++ '"' :: rest) with
  | error e =>
    rw [hscan] at hparse
    cases hparse
  | ok read =>
    obtain ⟨value, n⟩ := read
    rw [hscan] at hparse
    obtain ⟨hcond, hcursor⟩ := Prod.mk.inj (Except.ok.inj hparse)
    have hvalue : condition.value = value := congrArg FieldCondition.value hcond
    rw [← hvalue] at hscan
    have hplain := plain_of_scanQuoted hscan
    refine ⟨hplain, ?_⟩
    rw [scanQuoted_plain hplain] at hscan
    rw [hcursor, ← (Prod.mk.inj (Except.ok.inj hscan)).2]
    exact advance_value hr₁

lemma plain_of_parseFieldConditionsLoop {cursor' : Cursor} (hne : conditions ≠ [])
    (hs : ∀ condition ∈ conditions, PathShaped condition.path)
    (hr : cursor.rest.dropWhile isAsciiWhitespace = displayConditions conditions ++ ')' :: rest)
    (h : parseFieldConditionsLoop fuel cursor = .ok (conditions, cursor')) :
    ∀ condition ∈ conditions, plainValue condition.value = true := by
  induction conditions generalizing fuel cursor cursor' with
  | nil => exact absurd rfl hne
  | cons condition conditions ih =>
    cases fuel with
    | zero => cases (Prod.mk.inj (Except.ok.inj h)).1
    | succ fuel =>
      have hp := hs condition List.mem_cons_self
      rw [← Cursor.skipWhitespace_rest] at hr
      obtain ⟨⟨first, cursor₁⟩, hsingle, h⟩ := bind_ok h
      simp only at h
      by_cases hcomma : cursor₁.skipWhitespace.peek = some ','
      · rw [if_pos hcomma] at h
        obtain ⟨⟨others, cursor₂⟩, hloop, h⟩ := bind_ok h
        obtain ⟨rfl, rfl⟩ := List.cons.inj (Prod.mk.inj (Except.ok.inj h)).1
        by_cases hnil : others = []
        · subst hnil
          have hvalue := (parseSingleFieldCondition_value hp hr hsingle).1
          simpa using hvalue
        · rw [displayConditions_cons _ hnil, List.append_assoc] at hr
          obtain ⟨hvalue, hr₁⟩ := parseSingleFieldCondition_value hp hr hsingle
          have hs' := fun c hmem => hs c (List.mem_cons_of_mem first hmem)
          have hr₂ := Cursor.skipWhitespace_of_rest hr₁ (by decide)
          have hr₃ := advance_separator hnil hs' hr₂
          exact List.forall_mem_cons.mpr ⟨hvalue, ih hnil hs' hr₃ hloop⟩
      · rw [if_neg hcomma] at h
        obtain ⟨rfl, rfl⟩ := List.cons.inj (Prod.mk.inj (Except.ok.inj h)).1
        have hvalue := (parseSingleFieldCondition_value hp hr hsingle).1
        simpa using hvalue

end Conditions

end Awaken.ToolPattern
