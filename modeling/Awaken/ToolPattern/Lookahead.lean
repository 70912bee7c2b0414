import Mathlib.Data.List.DropRight
import Awaken.ToolPattern.Reparse

namespace Awaken.ToolPattern

open Awaken.Lib.Text

section Trim

variable {s w : List Char} {c : Char}

lemma trim_eq (s : List Char) : trim s = (s.dropWhile isWhiteSpace).rdropWhile isWhiteSpace := rfl

lemma head_dropWhile {p : Char → Bool} (h : (s.dropWhile p).head? = some c) : p c = false := by
  have hnot := List.head?_dropWhile_not p s
  rw [h] at hnot
  simpa using hnot

lemma trim_last (h : (trim s).getLast? = some c) : isWhiteSpace c = false := by
  have hne : trim s ≠ [] := by
    rintro hnil
    rw [hnil] at h
    cases h
  have hlast := List.rdropWhile_last_not isWhiteSpace (s.dropWhile isWhiteSpace) hne
  rw [List.getLast?_eq_some_getLast hne] at h
  rw [← Option.some.inj h]
  exact Bool.eq_false_iff.mpr hlast

lemma trim_head (h : (trim s).head? = some c) : isWhiteSpace c = false := by
  obtain ⟨w, hw⟩ := List.rdropWhile_prefix isWhiteSpace (s.dropWhile isWhiteSpace)
  rw [← trim_eq] at hw
  refine head_dropWhile (s := s) (p := isWhiteSpace) ?_
  rw [← hw, List.head?_append, h]
  rfl

lemma trim_append (h : ∀ c, s.head? = some c → isWhiteSpace c = false) :
    ∃ w, s = trim s ++ w ∧ ∀ c ∈ w, isWhiteSpace c = true := by
  have hdrop : s.dropWhile isWhiteSpace = s := by
    cases s with
    | nil => rfl
    | cons d s => rw [List.dropWhile_cons_of_neg (by simp [h d rfl])]
  refine ⟨s.rtakeWhile isWhiteSpace, ?_, fun c hc => List.mem_rtakeWhile_imp hc⟩
  rw [trim_eq, hdrop, List.rdropWhile_append_rtakeWhile]

lemma trim_eq_self (hh : ∀ c, s.head? = some c → isWhiteSpace c = false)
    (hl : ∀ c, s.getLast? = some c → isWhiteSpace c = false) : trim s = s := by
  obtain ⟨w, hs, hw⟩ := trim_append hh
  cases hlast : w.getLast? with
  | none =>
    rw [List.getLast?_eq_none_iff.mp hlast, List.append_nil] at hs
    exact hs.symm
  | some c =>
    have hc := hw c (List.mem_of_getLast? hlast)
    rw [hl c (by rw [hs, List.getLast?_append, hlast]; rfl)] at hc
    cases hc

lemma whiteSpace_of_ascii (h : isAsciiWhitespace c = true) : isWhiteSpace c = true := by
  simp only [isAsciiWhitespace, Bool.or_eq_true, decide_eq_true_eq] at h
  rcases h with (((rfl | rfl) | rfl) | rfl) | rfl <;> decide

lemma toNat_of_identifierChar (h : isIdentifierChar c = true) :
    0x2D ≤ c.toNat ∧ c.toNat ≤ 0x7A := by
  delta isIdentifierChar Char.isAlphanum Char.isAlpha Char.isUpper Char.isLower Char.isDigit at h
  simp only [Bool.or_eq_true, Bool.and_eq_true, decide_eq_true_eq, ge_iff_le,
    UInt32.le_iff_toNat_le] at h
  rcases h with (((⟨h₁, h₂⟩ | ⟨h₁, h₂⟩) | ⟨h₁, h₂⟩) | rfl) | rfl
  · exact ⟨le_trans (by decide) h₁, le_trans h₂ (by decide)⟩
  · exact ⟨le_trans (by decide) h₁, le_trans h₂ (by decide)⟩
  · exact ⟨le_trans (by decide) h₁, le_trans h₂ (by decide)⟩
  · decide
  · decide

lemma not_whiteSpace_of_identifierChar (h : isIdentifierChar c = true) :
    isWhiteSpace c = false := by
  obtain ⟨hlo, hhi⟩ := toNat_of_identifierChar h
  rw [Bool.eq_false_iff]
  intro hw
  simp only [isWhiteSpace, Bool.or_eq_true, Bool.and_eq_true, decide_eq_true_eq, beq_iff_eq] at hw
  omega

end Trim

section SkipPath

variable {s t v w : List Char} {c : Char}

def isPathChar (c : Char) : Bool := c.isAlphanum || c = '_' || c = '.'

lemma skipPath_open (c : Char) (s : List Char) : skipPath true (c :: s) = skipPath (c ≠ ']') s := rfl

lemma skipPath_char (h : isPathChar c = true) (s : List Char) :
    skipPath false (c :: s) = skipPath false s := by
  simp only [isPathChar, Bool.or_eq_true, decide_eq_true_eq, or_assoc] at h
  simp only [skipPath, h, if_true, Bool.false_eq_true, if_false]

lemma skipPath_bracket (s : List Char) : skipPath false ('[' :: s) = skipPath true s := rfl

lemma skipPath_star (s : List Char) : skipPath false ('*' :: s) =
    if s.head? = some '.' ∨ s.head? = some '[' then skipPath false s else s := rfl

lemma skipPath_stop (hp : isPathChar c = false) (hb : c ≠ '[') (hs : c ≠ '*') (s : List Char) :
    skipPath false (c :: s) = c :: s := by
  have hn : ¬(c.isAlphanum = true ∨ c = '_' ∨ c = '.') := by
    intro h
    have hc : isPathChar c = true := by simpa [isPathChar, or_assoc] using h
    rw [hp] at hc
    cases hc
  simp only [skipPath, hn, hb, hs, if_false, Bool.false_eq_true]

lemma skipPath_cases (c : Char) : isPathChar c = true ∨ c = '[' ∨ c = '*' ∨
    (isPathChar c = false ∧ c ≠ '[' ∧ c ≠ '*') := by
  by_cases hp : isPathChar c = true
  · exact .inl hp
  · by_cases hb : c = '['
    · exact .inr (.inl hb)
    · by_cases hs : c = '*'
      · exact .inr (.inr (.inl hs))
      · exact .inr (.inr (.inr ⟨Bool.eq_false_iff.mpr hp, hb, hs⟩))

lemma skipPath_suffix (b : Bool) (s : List Char) : skipPath b s <:+ s := by
  induction s generalizing b with
  | nil => exact List.suffix_refl _
  | cons c s ih =>
    cases b with
    | true => exact (ih _).trans (List.suffix_cons _ _)
    | false =>
      rcases skipPath_cases c with hp | rfl | rfl | ⟨hp, hb, hs⟩
      · rw [skipPath_char hp]
        exact (ih _).trans (List.suffix_cons _ _)
      · exact (ih _).trans (List.suffix_cons _ _)
      · rw [skipPath_star]
        split
        · exact (ih _).trans (List.suffix_cons _ _)
        · exact List.suffix_cons _ _
      · exact ⟨[], skipPath_stop hp hb hs s⟩

lemma skipPath_append (b : Bool) (v t : List Char) :
    skipPath b (v ++ t) = skipPath b v ++ t ∨ (skipPath b v = [] ∧ skipPath b (v ++ t) <:+ t) := by
  induction v generalizing b with
  | nil =>
    right
    exact ⟨rfl, skipPath_suffix b t⟩
  | cons c v ih =>
    cases b with
    | true => exact ih _
    | false =>
      rcases skipPath_cases c with hp | rfl | rfl | ⟨hp, hb, hs⟩
      · rw [List.cons_append, skipPath_char hp, skipPath_char hp]
        exact ih _
      · exact ih _
      · rw [List.cons_append, skipPath_star, skipPath_star]
        cases v with
        | nil =>
          right
          refine ⟨rfl, ?_⟩
          rw [List.nil_append]
          split
          · exact skipPath_suffix false t
          · exact List.suffix_refl t
        | cons d v =>
          rw [List.cons_append, List.head?_cons, List.head?_cons]
          split
          · exact ih _
          · exact .inl rfl
      · rw [List.cons_append, skipPath_stop hp hb hs, skipPath_stop hp hb hs]
        exact .inl rfl

lemma startsWithOp_cons (c : Char) (s : List Char) : startsWithOp (c :: s) =
    (c == '~' || c == '=' || (c == '!' && (s.head? == some '~' || s.head? == some '='))) := by
  have hcomm : ∀ d : Char, (d == c) = (c == d) := fun d => BEq.comm
  cases s with
  | nil => simp [startsWithOp, List.isPrefixOf, hcomm]
  | cons d s =>
    have hnext : ∀ e : Char, (e == d) = (d == e) := fun e => BEq.comm
    simp [startsWithOp, List.isPrefixOf, hcomm, hnext, Bool.or_assoc, Bool.and_or_distrib_left]

def isClosing (c : Char) : Bool := isWhiteSpace c || c = ')'

lemma startsWithOp_closing (h : ∀ c ∈ s, isClosing c = true) : startsWithOp s = false := by
  cases s with
  | nil => rfl
  | cons c s =>
    have hc := h c List.mem_cons_self
    have htilde : c ≠ '~' := by
      rintro rfl
      exact absurd hc (by decide)
    have hequal : c ≠ '=' := by
      rintro rfl
      exact absurd hc (by decide)
    have hbang : c ≠ '!' := by
      rintro rfl
      exact absurd hc (by decide)
    rw [startsWithOp_cons]
    simp [htilde, hequal, hbang]

lemma startsWithOp_append (hs : s ≠ []) (ht : ∀ c ∈ t, isClosing c = true) :
    startsWithOp (s ++ t) = startsWithOp s := by
  cases s with
  | nil => exact absurd rfl hs
  | cons c s =>
    rw [List.cons_append, startsWithOp_cons, startsWithOp_cons]
    cases s with
    | cons d s => rfl
    | nil =>
      have hne : ∀ d, isClosing d = false → (t.head? == some d) = false := by
        intro d hd
        refine beq_eq_false_iff_ne.mpr ?_
        intro hhead
        rw [ht d (List.mem_of_mem_head? hhead)] at hd
        cases hd
      rw [List.nil_append, hne '~' (by decide), hne '=' (by decide)]
      rfl

lemma looksLike_append (hl : ∀ c, v.getLast? = some c → isWhiteSpace c = false)
    (ht : ∀ c ∈ t, isClosing c = true) :
    startsWithOp ((skipPath false (v ++ t)).dropWhile isAsciiWhitespace) =
      startsWithOp ((skipPath false v).dropWhile isAsciiWhitespace) := by
  rcases skipPath_append false v t with happ | ⟨hnil, hsuffix⟩
  · rw [happ]
    by_cases hx : skipPath false v = []
    · rw [hx, List.nil_append]
      rw [startsWithOp_closing (fun c hc => ht c ((List.dropWhile_suffix _).subset hc))]
      rfl
    · have hdrop : (skipPath false v).dropWhile isAsciiWhitespace ≠ [] := by
        intro hall
        obtain ⟨u, hu⟩ := skipPath_suffix false v
        have hlast := List.getLast?_eq_some_getLast hx
        have hc := List.dropWhile_eq_nil_iff.mp hall _ (List.getLast_mem hx)
        have hv : (u ++ skipPath false v).getLast? = some ((skipPath false v).getLast hx) := by
          rw [List.getLast?_append, hlast]
          rfl
        rw [hu] at hv
        have hwhite := whiteSpace_of_ascii hc
        rw [hl _ hv] at hwhite
        cases hwhite
      rw [List.dropWhile_append, if_neg (by simpa using hdrop)]
      exact startsWithOp_append hdrop ht
  · rw [hnil]
    exact startsWithOp_closing
      (fun c hc => ht c (hsuffix.subset ((List.dropWhile_suffix _).subset hc)))

def PathSegment.NoDash : PathSegment → Prop
  | .field name => '-' ∉ name
  | .index _ | .anyIndex | .wildcard => True

lemma pathChar_of_identifierChar (h : isIdentifierChar c = true) (hd : c ≠ '-') :
    isPathChar c = true := by
  simp only [isIdentifierChar, Bool.or_eq_true, decide_eq_true_eq] at h
  simp only [isPathChar, Bool.or_eq_true, decide_eq_true_eq]
  rcases h with (h | h) | h
  · exact .inl (.inl h)
  · exact .inl (.inr h)
  · exact absurd h hd

lemma skipPath_name {name : List Char} (h : ∀ c ∈ name, isPathChar c = true) (s : List Char) :
    skipPath false (name ++ s) = skipPath false s := by
  induction name with
  | nil => rfl
  | cons c name ih =>
    rw [List.cons_append, skipPath_char (h c List.mem_cons_self)]
    exact ih (fun d hd => h d (List.mem_cons_of_mem c hd))

lemma skipPath_inner {inner : List Char} (h : ']' ∉ inner) (s : List Char) :
    skipPath true (inner ++ ']' :: s) = skipPath false s := by
  induction inner with
  | nil => rfl
  | cons c inner ih =>
    have hc : decide (c ≠ ']') = true := by
      refine decide_eq_true ?_
      rintro rfl
      exact h List.mem_cons_self
    rw [List.cons_append, skipPath_open, hc]
    exact ih (fun hmem => h (List.mem_cons_of_mem c hmem))

lemma skipPath_index {segment : PathSegment} (h : segment.isNamed = false) (s : List Char) :
    skipPath false (segment.display ++ s) = skipPath false s := by
  cases segment with
  | field name => cases h
  | wildcard => cases h
  | anyIndex => rfl
  | index i =>
    have hdigits : ']' ∉ Nat.toDigits 10 i := by
      intro hmem
      exact absurd (Nat.isDigit_of_mem_toDigits (by decide) (by decide) hmem) (by decide)
    have hinner := skipPath_inner hdigits s
    simpa [PathSegment.display, skipPath_bracket] using hinner

lemma skipPath_named {segment : PathSegment} (h : segment.isNamed = true) (hs : segment.Shaped)
    (hd : segment.NoDash) (hc : c = '.' ∨ c = '[' ∨ c = ' ') (s : List Char) :
    skipPath false (segment.display ++ c :: s) = skipPath false (c :: s) := by
  cases segment with
  | index i => cases h
  | anyIndex => cases h
  | field name =>
    refine skipPath_name (fun d hmem => pathChar_of_identifierChar (hs.2 d hmem) ?_) (c :: s)
    rintro rfl
    exact hd hmem
  | wildcard =>
    rcases hc with rfl | rfl | rfl <;> rfl

lemma skipPath_displayTail {path : List PathSegment} (hs : ∀ segment ∈ path, segment.Shaped)
    (hd : ∀ segment ∈ path, segment.NoDash) (rest : List Char) :
    skipPath false (displayTail path ++ ' ' :: rest) = ' ' :: rest := by
  induction path with
  | nil => rfl
  | cons segment path ih =>
    obtain ⟨hs, hs'⟩ := List.forall_mem_cons.mp hs
    obtain ⟨hd, hd'⟩ := List.forall_mem_cons.mp hd
    cases hn : segment.isNamed with
    | false =>
      rw [displayTail_index hn, List.append_assoc, skipPath_index hn]
      exact ih hs' hd'
    | true =>
      obtain ⟨c, text, htail, hc⟩ := displayTail_head path rest
      rw [displayTail_named hn, List.cons_append, List.append_assoc, htail,
        skipPath_char (by decide), skipPath_named hn hs hd hc, ← htail]
      exact ih hs' hd'

lemma skipPath_displayPath {path : List PathSegment} (hp : PathShaped path)
    (hd : ∀ segment ∈ path, segment.NoDash) (rest : List Char) :
    skipPath false (displayPath path ++ ' ' :: rest) = ' ' :: rest := by
  obtain ⟨segment, path, rfl, hn⟩ := hp.named
  obtain ⟨hs, hs'⟩ := List.forall_mem_cons.mp hp.shaped
  obtain ⟨hd, hd'⟩ := List.forall_mem_cons.mp hd
  obtain ⟨c, text, htail, hc⟩ := displayTail_head path rest
  rw [displayPath, List.append_assoc, htail, skipPath_named hn hs hd hc, ← htail]
  exact skipPath_displayTail hs' hd' rest

lemma startsWithOp_display (op : MatchOp) (s : List Char) :
    startsWithOp ((' ' :: (op.display ++ s)).dropWhile isAsciiWhitespace) = true := by
  cases op <;> rfl

lemma looksLike_condition {condition : FieldCondition} (hp : PathShaped condition.path)
    (hd : ∀ segment ∈ condition.path, segment.NoDash)
    (hl : ∀ c, (condition.display ++ s).getLast? = some c → isWhiteSpace c = false) :
    looksLikeFieldConditions (condition.display ++ s) = true := by
  have hhead : ∀ c, (condition.display ++ s).head? = some c → isWhiteSpace c = false := by
    intro d hdisplay
    obtain ⟨c, text, hpath, hc⟩ := displayPath_head hp
    rw [FieldCondition.display, hpath, List.cons_append, List.cons_append] at hdisplay
    obtain rfl := Option.some.inj hdisplay
    rcases hc with rfl | hc
    · decide
    · exact not_whiteSpace_of_identifierChar hc
  rw [looksLikeFieldConditions, trim_eq_self hhead hl, FieldCondition.display, List.append_assoc,
    List.cons_append, skipPath_displayPath hp hd, List.append_assoc]
  exact startsWithOp_display condition.op _

end SkipPath

end Awaken.ToolPattern
