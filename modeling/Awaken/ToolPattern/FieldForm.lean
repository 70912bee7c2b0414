import Mathlib.Data.List.Chain
import Awaken.ToolPattern.Closing

namespace Awaken.ToolPattern

open Awaken.Lib.Text

def isOpChar (c : Char) : Bool := c = '~' || c = '=' || c = '!'

def DotsTight (text : List Char) : Prop :=
  List.IsChain (fun a b => a = '.' → isAsciiWhitespace b = false) text

def seesOp (text : List Char) : Bool :=
  startsWithOp ((skipPath false text).dropWhile isAsciiWhitespace)

section Sees

variable {s t text : List Char} {c c' : Cursor} {segment : PathSegment} {path : List PathSegment}

lemma not_isOpChar_of_identifierChar {a : Char} (h : isIdentifierChar a = true) :
    isOpChar a = false := by
  rw [Bool.eq_false_iff]
  intro hop
  simp only [isOpChar, Bool.or_eq_true, decide_eq_true_eq] at hop
  rcases hop with (rfl | rfl) | rfl <;> exact absurd h (by decide)

lemma startsWithOp_other {a : Char} (h : isOpChar a = false) (s : List Char) :
    startsWithOp (a :: s) = false := by
  simp only [isOpChar, Bool.or_eq_false_iff, decide_eq_false_iff_not] at h
  exact startsWithOp_stop h.1.1 h.1.2 h.2 s

lemma seesOp_blank {a : Char} (ha : isAsciiWhitespace a = true) (s : List Char) :
    seesOp (a :: s) = startsWithOp (s.dropWhile isAsciiWhitespace) := by
  have hstop : isPathChar a = false ∧ a ≠ '[' ∧ a ≠ '*' := by
    simp only [isAsciiWhitespace, Bool.or_eq_true, decide_eq_true_eq] at ha
    rcases ha with (((rfl | rfl) | rfl) | rfl) | rfl <;> decide
  rw [seesOp, skipPath_stop hstop.1 hstop.2.1 hstop.2.2, List.dropWhile_cons_of_pos ha]

lemma skipPath_of_op (h : startsWithOp (s.dropWhile isAsciiWhitespace) = true) :
    skipPath false s = s := by
  cases s with
  | nil => rfl
  | cons a s =>
    by_cases ha : isAsciiWhitespace a = true
    · simp only [isAsciiWhitespace, Bool.or_eq_true, decide_eq_true_eq] at ha
      rcases ha with (((rfl | rfl) | rfl) | rfl) | rfl <;>
        exact skipPath_stop (by decide) (by decide) (by decide) s
    · rw [List.dropWhile_cons_of_neg ha] at h
      have hop : isOpChar a = true := by
        by_contra hne
        rw [startsWithOp_other (Bool.eq_false_iff.mpr hne)] at h
        cases h
      simp only [isOpChar, Bool.or_eq_true, decide_eq_true_eq] at hop
      rcases hop with (rfl | rfl) | rfl <;>
        exact skipPath_stop (by decide) (by decide) (by decide) s

lemma name_chars (hn : segment.isNamed = true) (hs : segment.Shaped) {a : Char}
    (ha : a ∈ segment.display) :
    isOpChar a = false ∧ a ≠ '.' ∧ isAsciiWhitespace a = false := by
  cases segment with
  | index i => cases hn
  | anyIndex => cases hn
  | wildcard =>
    obtain rfl := List.mem_singleton.mp ha
    decide
  | field name =>
    have hident := hs.2 a ha
    refine ⟨not_isOpChar_of_identifierChar hident, ?_, not_asciiWhitespace_of_identifierChar hident⟩
    rintro rfl
    exact absurd hident (by decide)

lemma name_ne_nil (hn : segment.isNamed = true) (hs : segment.Shaped) : segment.display ≠ [] := by
  cases segment with
  | index i => cases hn
  | anyIndex => cases hn
  | wildcard => exact List.cons_ne_nil _ _
  | field name => exact hs.1

lemma seesOp_dash (hn : segment.isNamed = true) (hs : segment.Shaped) (hd : '-' ∈ segment.display)
    (s : List Char) : seesOp (segment.display ++ s) = false := by
  cases segment with
  | index i => cases hn
  | anyIndex => cases hn
  | wildcard => exact absurd hd (by decide)
  | field name =>
    obtain ⟨before, after, hname, hbefore⟩ := List.eq_append_cons_of_mem hd
    obtain rfl : name = before ++ '-' :: after := hname
    have hall : ∀ a ∈ before, isPathChar a = true := by
      intro a ha
      refine pathChar_of_identifierChar (hs.2 a (List.mem_append_left _ ha)) ?_
      rintro rfl
      exact hbefore ha
    rw [seesOp, PathSegment.display, List.append_assoc, skipPath_name hall, List.cons_append,
      skipPath_stop (by decide) (by decide) (by decide), List.dropWhile_cons_of_neg (by decide)]
    exact startsWithOp_stop (by decide) (by decide) (by decide) _

lemma skipPath_plain (hn : segment.isNamed = true) (hs : segment.Shaped)
    (hd : '-' ∉ segment.display) (s : List Char) :
    skipPath false (segment.display ++ s) = skipPath false s ∨
      (skipPath false (segment.display ++ s) = s ∧ s.head? ≠ some '.' ∧ s.head? ≠ some '[') := by
  cases segment with
  | index i => cases hn
  | anyIndex => cases hn
  | wildcard =>
    have hstar := skipPath_star s
    by_cases hhead : s.head? = some '.' ∨ s.head? = some '['
    · rw [if_pos hhead] at hstar
      exact .inl hstar
    · rw [if_neg hhead] at hstar
      rw [not_or] at hhead
      exact .inr ⟨hstar, hhead⟩
  | field name =>
    refine .inl (skipPath_name (fun a ha => pathChar_of_identifierChar (hs.2 a ha) ?_) s)
    rintro rfl
    exact hd ha

def isIndexChar (c : Char) : Bool :=
  c = '[' || c = ']' || c = '*' || c.isDigit || isAsciiWhitespace c

lemma indexChar {a : Char} (h : isIndexChar a = true) : isOpChar a = false ∧ a ≠ '.' ∧ a ≠ '-' := by
  have hne : ∀ e : Char, isIndexChar e = false → a ≠ e := by
    rintro e he rfl
    rw [he] at h
    cases h
  refine ⟨?_, hne '.' (by decide), hne '-' (by decide)⟩
  simp [isOpChar, hne '~' (by decide), hne '=' (by decide), hne '!' (by decide)]

lemma blanks_split (c : Cursor) : ∃ blanks, (∀ a ∈ blanks, isAsciiWhitespace a = true) ∧
    c.rest = blanks ++ c.skipWhitespace.rest := by
  refine ⟨c.rest.takeWhile isAsciiWhitespace, fun a ha => List.mem_takeWhile_imp ha, ?_⟩
  rw [Cursor.skipWhitespace_rest]
  exact List.takeWhile_append_dropWhile.symm

lemma indexChar_of_blank {a : Char} (h : isAsciiWhitespace a = true) : isIndexChar a = true := by
  rw [isIndexChar, h, Bool.or_true]

lemma parseIndex_text (h : parseIndex c = .ok (segment, c')) :
    ∃ text, (∀ a ∈ text, isIndexChar a = true) ∧ c.rest = text ++ c'.rest := by
  obtain ⟨blanks, hblanks, hrest⟩ := blanks_split c
  have hclose : ∀ {c₁ : Cursor}, c₁.expect ']' = .ok c' →
      ∃ text, (∀ a ∈ text, isIndexChar a = true) ∧ c₁.rest = text ++ c'.rest := by
    intro c₁ hexpect
    obtain ⟨blanks₁, hblanks₁, hrest₁⟩ := blanks_split c₁
    refine ⟨blanks₁ ++ [']'], ?_, by rw [hrest₁, Cursor.expect_ok hexpect]; simp⟩
    intro a ha
    rcases List.mem_append.mp ha with ha | ha
    · exact indexChar_of_blank (hblanks₁ a ha)
    · obtain rfl := List.mem_singleton.mp ha
      decide
  simp only [parseIndex] at h
  split at h
  · rename_i hstar
    obtain ⟨c₁, hexpect, h⟩ := bind_ok h
    obtain ⟨rfl, rfl⟩ := Prod.mk.inj (Except.ok.inj h)
    obtain ⟨text, htext, hrest₁⟩ := hclose hexpect
    refine ⟨blanks ++ '*' :: text, ?_, by rw [hrest, Cursor.rest_of_peek hstar, hrest₁]; simp⟩
    intro a ha
    rcases List.mem_append.mp ha with ha | ha
    · exact indexChar_of_blank (hblanks a ha)
    · rcases List.mem_cons.mp ha with rfl | ha
      · decide
      · exact htext a ha
  · obtain ⟨⟨i, c₁⟩, husize, h⟩ := bind_ok h
    obtain ⟨c₂, hexpect, h⟩ := bind_ok h
    obtain ⟨rfl, rfl⟩ := Prod.mk.inj (Except.ok.inj h)
    have hdigits := Cursor.takeWhile_append c.skipWhitespace Char.isDigit
    simp only [parseUsize] at husize
    split at husize
    · cases husize
    · obtain ⟨-, rfl⟩ := Prod.mk.inj (Except.ok.inj husize)
      obtain ⟨text, htext, hrest₁⟩ := hclose hexpect
      refine ⟨blanks ++ ((c.skipWhitespace.takeWhile Char.isDigit).1 ++ text), ?_, ?_⟩
      · intro a ha
        rcases List.mem_append.mp ha with ha | ha
        · exact indexChar_of_blank (hblanks a ha)
        · rcases List.mem_append.mp ha with ha | ha
          · have hdigit : a.isDigit = true := List.mem_takeWhile_imp ha
            rw [isIndexChar, hdigit, Bool.or_true, Bool.true_or]
          · exact htext a ha
      · rw [hrest, ← hdigits, hrest₁]
        simp

lemma parseIndices_text {fuel : Nat} (h : parseIndices fuel c = .ok (path, c')) :
    ∃ text, (∀ a ∈ text, isIndexChar a = true) ∧ c.rest = text ++ c'.rest := by
  induction fuel generalizing c path with
  | zero =>
    obtain ⟨-, rfl⟩ := Prod.mk.inj (Except.ok.inj h)
    exact ⟨[], List.forall_mem_nil _, rfl⟩
  | succ fuel ih =>
    by_cases hopen : c.peek = some '['
    · rw [parseIndices, if_pos hopen] at h
      obtain ⟨⟨segment, c₁⟩, hindex, h⟩ := bind_ok h
      obtain ⟨⟨segments, c₂⟩, hloop, h⟩ := bind_ok h
      obtain ⟨-, rfl⟩ := Prod.mk.inj (Except.ok.inj h)
      obtain ⟨text₁, htext₁, hrest₁⟩ := parseIndex_text hindex
      obtain ⟨text₂, htext₂, hrest₂⟩ := ih hloop
      refine ⟨'[' :: (text₁ ++ text₂), ?_, ?_⟩
      · rw [List.forall_mem_cons, List.forall_mem_append]
        exact ⟨by decide, htext₁, htext₂⟩
      · rw [Cursor.rest_of_peek hopen, hrest₁, hrest₂]
        simp
    · rw [parseIndices_none hopen] at h
      obtain ⟨-, rfl⟩ := Prod.mk.inj (Except.ok.inj h)
      exact ⟨[], List.forall_mem_nil _, rfl⟩

lemma dotsTight_of_no_dot (h : ∀ a ∈ text, a ≠ '.') : DotsTight text := by
  refine List.isChain_iff_forall_rel_of_append_cons_cons.mpr ?_
  rintro a b before after rfl hdot
  exact absurd hdot (h a (by simp))

lemma dotsTight_dot (h : ∀ a ∈ text, a ≠ '.') (s : List Char) :
    DotsTight (text ++ '.' :: s) ↔
      (∀ b, s.head? = some b → isAsciiWhitespace b = false) ∧ DotsTight s := by
  rw [DotsTight, List.isChain_append, List.isChain_cons]
  constructor
  · rintro ⟨-, ⟨hhead, htail⟩, -⟩
    exact ⟨fun b hb => hhead b hb rfl, htail⟩
  · rintro ⟨hhead, htail⟩
    refine ⟨dotsTight_of_no_dot h, ⟨fun b hb _ => hhead b hb, htail⟩, ?_⟩
    intro a ha b _ hdot
    exact absurd hdot (h a (List.mem_of_mem_getLast? ha))

lemma dotsTight_blanks {blanks : List Char} (hblanks : ∀ a ∈ blanks, isAsciiWhitespace a = true)
    (hlast : text.getLast? ≠ some '.') : DotsTight (text ++ blanks) ↔ DotsTight text := by
  rw [DotsTight, List.isChain_append]
  refine ⟨fun h => h.1, fun h => ⟨h, dotsTight_of_no_dot ?_, ?_⟩⟩
  · rintro a ha rfl
    exact absurd (hblanks _ ha) (by decide)
  · rintro a ha b - rfl
    exact absurd ha hlast

/-- What a path stands for in the text, and when the lookahead finds the operator behind it. -/
structure PathText (text : List Char) (c c' : Cursor) : Prop where
  split : c.rest = text ++ c'.rest
  noOp : ∀ a ∈ text, isOpChar a = false
  written : ∃ a ∈ text, isAsciiWhitespace a = false
  last : text.getLast? ≠ some '.'
  sees : startsWithOp (c'.rest.dropWhile isAsciiWhitespace) = true →
    (∀ b, text.head? = some b → isAsciiWhitespace b = false) →
    (seesOp c.rest = true ↔ '-' ∉ text ∧ DotsTight text)

lemma seesOp_name {indices : List PathSegment} {c₁ c₂ : Cursor}
    (hname : parseName c = .ok (segment, c₁))
    (hindices : parseIndices c₁.rest.length c₁ = .ok (indices, c₂)) :
    ∃ blanks text, (∀ a ∈ blanks, isAsciiWhitespace a = true) ∧
      c.rest = blanks ++ text ++ c₂.rest ∧ text ≠ [] ∧
      (∀ a ∈ text, isOpChar a = false ∧ a ≠ '.') ∧
      (∀ b, text.head? = some b → isAsciiWhitespace b = false) ∧
      ('-' ∈ text → seesOp (text ++ c₂.rest) = false) ∧
      ('-' ∉ text → skipPath false (text ++ c₂.rest) = skipPath false c₂.rest ∨
        (skipPath false (text ++ c₂.rest) = c₂.rest ∧ c₂.peek ≠ some '.')) := by
  obtain ⟨hn, hs, hskip⟩ := parseName_ok hname
  obtain ⟨blanks, hblanks, hrest⟩ := blanks_split c
  obtain ⟨inner, hinner, hrest₁⟩ := parseIndices_text hindices
  have hne := name_ne_nil hn hs
  have hdash : '-' ∈ segment.display ++ inner ↔ '-' ∈ segment.display := by
    rw [List.mem_append]
    exact ⟨fun h => h.resolve_right fun h => (indexChar (hinner _ h)).2.2 rfl, .inl⟩
  have hsame := (parseIndices_ok hindices).2
  refine ⟨blanks, segment.display ++ inner, hblanks, ?_, ?_, ?_, ?_, ?_, ?_⟩
  · rw [hrest, hskip, hrest₁]
    simp
  · exact List.append_ne_nil_of_left_ne_nil hne inner
  · intro a ha
    rcases List.mem_append.mp ha with ha | ha
    · exact ⟨(name_chars hn hs ha).1, (name_chars hn hs ha).2.1⟩
    · exact ⟨(indexChar (hinner a ha)).1, (indexChar (hinner a ha)).2.1⟩
  · intro b hb
    rw [List.head?_append_of_ne_nil _ hne] at hb
    exact (name_chars hn hs (List.mem_of_mem_head? hb)).2.2
  · intro hd
    rw [List.append_assoc]
    exact seesOp_dash hn hs (hdash.mp hd) _
  · intro hd
    rw [hdash] at hd
    rw [List.append_assoc, ← hrest₁]
    rcases skipPath_plain hn hs hd c₁.rest with hplain | ⟨hstop, hdot, hopen⟩
    · exact .inl (hplain.trans hsame)
    · rw [parseIndices_none hopen] at hindices
      obtain ⟨-, rfl⟩ := Prod.mk.inj (Except.ok.inj hindices)
      exact .inr ⟨hstop, hdot⟩

lemma startsWithOp_written (hwritten : ∃ a ∈ text, isAsciiWhitespace a = false)
    (hop : ∀ a ∈ text, isOpChar a = false) (s : List Char) :
    startsWithOp ((text ++ s).dropWhile isAsciiWhitespace) = false := by
  induction text with
  | nil =>
    obtain ⟨a, ha, -⟩ := hwritten
    cases ha
  | cons b text ih =>
    obtain ⟨hb, hop⟩ := List.forall_mem_cons.mp hop
    rw [List.cons_append]
    by_cases hblank : isAsciiWhitespace b = true
    · rw [List.dropWhile_cons_of_pos hblank]
      refine ih ?_ hop
      obtain ⟨a, ha, hw⟩ := hwritten
      rcases List.mem_cons.mp ha with rfl | ha
      · rw [hblank] at hw
        cases hw
      · exact ⟨a, ha, hw⟩
    · rw [List.dropWhile_cons_of_neg hblank]
      exact startsWithOp_other hb _

lemma path_text {fuel : Nat} (h : parseFieldPathLoop fuel c = .ok (path, c'))
    (hfuel : c.rest.length < fuel) : ∃ text, PathText text c c' := by
  induction fuel generalizing c path with
  | zero => cases hfuel
  | succ fuel ih =>
    rw [parseFieldPathLoop] at h
    obtain ⟨⟨segment, c₁⟩, hname, h⟩ := bind_ok h
    obtain ⟨⟨indices, c₂⟩, hindices, h⟩ := bind_ok h
    obtain ⟨blanks, text, hblanks, hsplit, hne, hchars, hhead, hdash, hplain⟩ :=
      seesOp_name hname hindices
    have hblankNoOp : ∀ a ∈ blanks, isOpChar a = false :=
      fun a ha => (indexChar (indexChar_of_blank (hblanks a ha))).1
    have hnone : (∀ b, (blanks ++ text).head? = some b → isAsciiWhitespace b = false) →
        blanks = [] := by
      intro hall
      cases blanks with
      | nil => rfl
      | cons b blanks =>
        have hb := hall b rfl
        rw [hblanks b List.mem_cons_self] at hb
        cases hb
    have hshort₁ := parseName_shorter hname
    have hshort₂ := parseIndices_shorter hindices
    have hnodot : ∀ a ∈ text, a ≠ '.' := fun a ha => (hchars a ha).2
    have hwritten : ∃ a ∈ text, isAsciiWhitespace a = false := by
      obtain ⟨a, text', rfl⟩ := List.exists_cons_of_ne_nil hne
      exact ⟨a, List.mem_cons_self, hhead a rfl⟩
    dsimp only at h
    by_cases hdot : c₂.peek = some '.'
    · rw [if_pos hdot] at h
      obtain ⟨⟨segments, c₃⟩, hloop, h⟩ := bind_ok h
      obtain ⟨-, rfl⟩ := Prod.mk.inj (Except.ok.inj h)
      have hle := length_advance_le c₂ 1
      obtain ⟨more, hmore⟩ := ih hloop (by omega)
      have hrest₂ := Cursor.rest_of_peek hdot
      refine ⟨blanks ++ text ++ '.' :: more, ?_, ?_, ?_, ?_, ?_⟩
      · rw [hsplit, hrest₂, hmore.split]
        simp
      · intro a ha
        rcases List.mem_append.mp ha with ha | ha
        · rcases List.mem_append.mp ha with ha | ha
          · exact hblankNoOp a ha
          · exact (hchars a ha).1
        · rcases List.mem_cons.mp ha with rfl | ha
          · decide
          · exact hmore.noOp a ha
      · obtain ⟨a, ha, hw⟩ := hwritten
        exact ⟨a, List.mem_append_left _ (List.mem_append_right _ ha), hw⟩
      · obtain ⟨a, ha, -⟩ := hmore.written
        rw [List.getLast?_append, List.getLast?_cons]
        obtain ⟨b, hb⟩ := Option.isSome_iff_exists.mp (List.getLast?_isSome.mpr (List.ne_nil_of_mem ha))
        have hlast := hmore.last
        rw [hb] at hlast ⊢
        exact hlast
      · intro hop hall
        obtain rfl := hnone fun b hb => hall b (by
          rw [List.head?_append, hb]
          rfl)
        rw [hsplit, List.nil_append, dotsTight_dot hnodot]
        by_cases hd : '-' ∈ text
        · rw [hdash hd]
          exact iff_of_false Bool.false_ne_true fun h => h.1 (List.mem_append_left _ hd)
        · have hskip := (hplain hd).resolve_right fun h => h.2 hdot
          have hsees : seesOp (text ++ c₂.rest) = seesOp (c₂.advance 1).rest := by
            rw [seesOp, hskip, hrest₂, skipPath_char (by decide)]
            rfl
          have hdashes : '-' ∉ text ++ '.' :: more ↔ '-' ∉ more := by
            simp [hd]
          rw [hsees, hdashes]
          by_cases hblank : ∀ b, more.head? = some b → isAsciiWhitespace b = false
          · rw [hmore.sees hop hblank]
            exact ⟨fun h => ⟨h.1, hblank, h.2⟩, fun h => ⟨h.1, h.2.2⟩⟩
          · refine iff_of_false ?_ fun h => hblank h.2.1
            have hfalse := startsWithOp_written hmore.written hmore.noOp c₃.rest
            simp only [not_forall, Bool.not_eq_false] at hblank
            obtain ⟨b, hb, hw⟩ := hblank
            obtain ⟨more', rfl⟩ := List.head?_eq_some_iff.mp hb
            rw [List.cons_append, List.dropWhile_cons_of_pos hw] at hfalse
            rw [hmore.split, List.cons_append, seesOp_blank hw, hfalse]
            exact Bool.false_ne_true
    · rw [if_neg hdot] at h
      obtain ⟨-, rfl⟩ := Prod.mk.inj (Except.ok.inj h)
      refine ⟨blanks ++ text, hsplit, ?_, ?_, ?_, ?_⟩
      · rw [List.forall_mem_append]
        exact ⟨hblankNoOp, fun a ha => (hchars a ha).1⟩
      · obtain ⟨a, ha, hw⟩ := hwritten
        exact ⟨a, List.mem_append_right _ ha, hw⟩
      · intro hlast
        have hmem := List.mem_of_mem_getLast? hlast
        rcases List.mem_append.mp hmem with hmem | hmem
        · exact absurd (hblanks _ hmem) (by decide)
        · exact hnodot _ hmem rfl
      · intro hop hall
        obtain rfl := hnone hall
        rw [hsplit, List.nil_append]
        by_cases hd : '-' ∈ text
        · rw [hdash hd]
          exact iff_of_false Bool.false_ne_true fun h => h.1 hd
        · refine iff_of_true ?_ ⟨hd, dotsTight_of_no_dot hnodot⟩
          have hskip : skipPath false (text ++ c₂.rest) = c₂.rest := by
            rcases hplain hd with hskip | ⟨hskip, -⟩
            · rw [hskip, skipPath_of_op hop]
            · exact hskip
          change startsWithOp ((skipPath false (text ++ c₂.rest)).dropWhile isAsciiWhitespace) = true
          rw [hskip, hop]

end Sees

section Grammar

variable {text rest : List Char} {c c' d : Cursor} {conditions : List FieldCondition}

/-- The text is a list of field conditions and nothing else. -/
def FieldGrammar (text : List Char) (conditions : List FieldCondition) : Prop :=
  ∃ cursor, parseFieldConditions (.new text) = .ok (.fields conditions, cursor) ∧ cursor.rest = []

def frontOfOp (text : List Char) : List Char := text.takeWhile (fun a => !isOpChar a)

/-- The first path has no dash in a name, no blank behind a dot, and no star in front of a blank. -/
structure LookaheadReads (text : List Char) : Prop where
  noDash : '-' ∉ frontOfOp text
  tight : DotsTight (frontOfOp text)
  star : ∀ b more, text = '*' :: b :: more → isAsciiWhitespace b = false

/-- Between parentheses the text looks like field conditions and is read as these, whatever tool
stands in front of it. -/
structure TakenAsConditions (text : List Char) (conditions : List FieldCondition) : Prop where
  looks : ∀ rest, looksLikeFieldConditions (text.dropWhile isAsciiWhitespace ++ ')' :: rest) = true
  args : ∀ pos rest, ∃ cursor, parseArgs ⟨pos, '(' :: (text ++ ')' :: rest)⟩ =
    .ok (.fields conditions, cursor) ∧ cursor.rest = rest
  pattern : ∀ {R : Type} (lib : RegexLib R) (input : List Char) (tool : ToolMatcher R)
    (cursor : Cursor), parseToolPart lib (.new (trim input)) = .ok (tool, cursor) →
    cursor.skipWhitespace.rest = '(' :: (text ++ [')']) →
    parsePattern lib input = .ok ⟨tool, .fields conditions⟩

lemma skipWhitespace_skipWhitespace (c : Cursor) :
    c.skipWhitespace.skipWhitespace = c.skipWhitespace := by
  have hnone : c.skipWhitespace.rest.takeWhile isAsciiWhitespace = [] := by
    rw [Cursor.skipWhitespace_rest]
    cases h : c.rest.dropWhile isAsciiWhitespace with
    | nil => rfl
    | cons a s =>
      have ha := head_dropWhile (congrArg List.head? h)
      rw [List.takeWhile_cons_of_neg (by simp [ha])]
  rw [Cursor.skipWhitespace, Cursor.takeWhile, hnone]
  rfl

lemma parseFieldConditionsLoop_skip (fuel : Nat) (c : Cursor) :
    parseFieldConditionsLoop (fuel + 1) c.skipWhitespace = parseFieldConditionsLoop (fuel + 1) c := by
  rw [parseFieldConditionsLoop, parseFieldConditionsLoop, skipWhitespace_skipWhitespace]

lemma FieldGrammar.read (h : FieldGrammar text conditions)
    (hd : d.rest = text.dropWhile isAsciiWhitespace ++ ')' :: rest) :
    ∃ d', parseFieldConditions d = .ok (.fields conditions, d') ∧ d'.rest = ')' :: rest := by
  obtain ⟨c', hparse, hrest⟩ := h
  rw [parseFieldConditions] at hparse
  obtain ⟨⟨conditions', c₁⟩, hloop, hparse⟩ := bind_ok hparse
  obtain ⟨hconditions, rfl⟩ := Prod.mk.inj (Except.ok.inj hparse)
  obtain rfl := ArgMatcher.fields.inj hconditions
  rw [← parseFieldConditionsLoop_skip] at hloop
  have hext : Extends rest (Cursor.new text).skipWhitespace d := by
    rw [Extends, Cursor.skipWhitespace_rest]
    exact hd
  have hlen := length_skipWhitespace_le (Cursor.new text)
  obtain ⟨d', hd', hext'⟩ :=
    hext.parseFieldConditionsLoop (Nat.lt_succ_of_le hlen) (Nat.lt_succ_self d.rest.length) hloop
  refine ⟨d', ?_, ?_⟩
  · rw [parseFieldConditions, hd']
    rfl
  · rw [hext', hrest]
    rfl

lemma op_of_parseMatchOp {op : MatchOp} (h : parseMatchOp c = .ok (op, c')) :
    startsWithOp c.rest = true := by
  rw [parseMatchOp_eq] at h
  rw [startsWithOp]
  have hlong : ∀ s : List Char, ['!', '=', '~'].isPrefixOf s = true → ['!', '='].isPrefixOf s = true := by
    intro s hs
    refine List.isPrefixOf_iff_prefix.mpr (List.IsPrefix.trans ?_ (List.isPrefixOf_iff_prefix.mp hs))
    decide
  have hmatch : ∀ s : List Char, ['=', '~'].isPrefixOf s = true → ['='].isPrefixOf s = true := by
    intro s hs
    refine List.isPrefixOf_iff_prefix.mpr (List.IsPrefix.trans ?_ (List.isPrefixOf_iff_prefix.mp hs))
    decide
  repeat'
    split at h
  all_goals
    cases h
  all_goals simp [*]

lemma first_path {fuel : Nat} (h : parseFieldConditionsLoop (fuel + 1) c = .ok (conditions, c'))
    (hskip : c.skipWhitespace = c) :
    ∃ path c₁, parseFieldPath c = .ok (path, c₁) ∧
      startsWithOp (c₁.rest.dropWhile isAsciiWhitespace) = true := by
  rw [parseFieldConditionsLoop, hskip] at h
  obtain ⟨⟨condition, c₂⟩, hsingle, -⟩ := bind_ok h
  rw [parseSingleFieldCondition, hskip] at hsingle
  obtain ⟨⟨path, c₁⟩, hpath, hsingle⟩ := bind_ok hsingle
  obtain ⟨⟨op, c₃⟩, hop, -⟩ := bind_ok hsingle
  refine ⟨path, c₁, hpath, ?_⟩
  rw [← Cursor.skipWhitespace_rest]
  exact op_of_parseMatchOp hop

lemma op_head {s : List Char} (h : startsWithOp s = true) :
    ∃ a more, s = a :: more ∧ isOpChar a = true := by
  cases s with
  | nil => cases h
  | cons a s =>
    refine ⟨a, s, rfl, ?_⟩
    by_contra hne
    rw [startsWithOp_other (Bool.eq_false_iff.mpr hne)] at h
    cases h

lemma seesOp_conditions {fuel : Nat}
    (h : parseFieldConditionsLoop (fuel + 1) c = .ok (conditions, c'))
    (hskip : c.skipWhitespace = c) :
    (∃ a ∈ c.rest, isOpChar a = true) ∧
      (seesOp c.rest = true ↔ '-' ∉ frontOfOp c.rest ∧ DotsTight (frontOfOp c.rest)) := by
  obtain ⟨path, c₁, hpath, hop⟩ := first_path h hskip
  obtain ⟨text, htext⟩ := path_text hpath (Nat.lt_succ_self _)
  obtain ⟨blanks, hblanks, hrest⟩ := blanks_split c₁
  rw [← Cursor.skipWhitespace_rest] at hop
  obtain ⟨a, more, hmore, ha⟩ := op_head hop
  rw [Cursor.skipWhitespace_rest] at hop
  have hwhole : c.rest = text ++ (blanks ++ a :: more) := by rw [htext.split, hrest, hmore]
  have hblankNoOp : ∀ b ∈ blanks, isOpChar b = false :=
    fun b hb => (indexChar (indexChar_of_blank (hblanks b hb))).1
  have hfront : frontOfOp c.rest = text ++ blanks := by
    have hnot : ∀ b ∈ text ++ blanks, (!isOpChar b) = true := by
      intro b hb
      rw [Bool.not_eq_true']
      rcases List.mem_append.mp hb with hb | hb
      · exact htext.noOp b hb
      · exact hblankNoOp b hb
    rw [frontOfOp, hwhole, ← List.append_assoc, List.takeWhile_append_of_pos hnot,
      List.takeWhile_cons_of_neg (by simp [ha]), List.append_nil]
  have hhead : ∀ b, text.head? = some b → isAsciiWhitespace b = false := by
    intro b hb
    have hdrop : c.rest.dropWhile isAsciiWhitespace = c.rest := by
      rw [← Cursor.skipWhitespace_rest, hskip]
    refine head_dropWhile (s := c.rest) (p := isAsciiWhitespace) ?_
    rw [hdrop, htext.split, List.head?_append, hb]
    rfl
  have hdash : '-' ∉ text ++ blanks ↔ '-' ∉ text := by
    rw [List.mem_append, not_or]
    exact ⟨fun h => h.1, fun h => ⟨h, fun hb => absurd (hblanks _ hb) (by decide)⟩⟩
  refine ⟨⟨a, by rw [hwhole]; simp, ha⟩, ?_⟩
  rw [hfront, hdash, dotsTight_blanks hblanks htext.last]
  exact htext.sees hop hhead

lemma frontOfOp_append {s : List Char} (h : ∃ a ∈ s, isOpChar a = true) (t : List Char) :
    frontOfOp (s ++ t) = frontOfOp s := by
  induction s with
  | nil =>
    obtain ⟨a, ha, -⟩ := h
    cases ha
  | cons b s ih =>
    by_cases hb : isOpChar b = true
    · rw [frontOfOp, frontOfOp, List.cons_append, List.takeWhile_cons_of_neg (by simp [hb]),
        List.takeWhile_cons_of_neg (by simp [hb])]
    · have hb' : (!isOpChar b) = true := by simp [hb]
      have hmore : ∃ a ∈ s, isOpChar a = true := by
        obtain ⟨a, ha, hop⟩ := h
        rcases List.mem_cons.mp ha with rfl | ha
        · exact absurd hop hb
        · exact ⟨a, ha, hop⟩
      have hnext := ih hmore
      rw [frontOfOp, frontOfOp] at hnext ⊢
      rw [List.cons_append, List.takeWhile_cons_of_pos (p := fun a => !isOpChar a) hb',
        List.takeWhile_cons_of_pos (p := fun a => !isOpChar a) hb', hnext]

lemma skipWhitespace_closing (text rest : List Char) (pos : Nat) :
    (⟨pos, text.dropWhile isAsciiWhitespace ++ ')' :: rest⟩ : Cursor).skipWhitespace =
      ⟨pos, text.dropWhile isAsciiWhitespace ++ ')' :: rest⟩ := by
  have hnone : (text.dropWhile isAsciiWhitespace ++ ')' :: rest).takeWhile isAsciiWhitespace = [] := by
    cases h : text.dropWhile isAsciiWhitespace with
    | nil => rfl
    | cons a s =>
      have ha := head_dropWhile (congrArg List.head? h)
      rw [List.cons_append, List.takeWhile_cons_of_neg (by simp [ha])]
  rw [Cursor.skipWhitespace, Cursor.takeWhile]
  dsimp only
  rw [hnone]
  rfl

lemma trim_closing {body : List Char} (rest : List Char)
    (hhead : ∀ a, (body ++ ')' :: rest).head? = some a → isWhiteSpace a = false) :
    ∃ rest', trim (body ++ ')' :: rest) = body ++ ')' :: rest' := by
  obtain ⟨w, hsplit, hw⟩ := trim_append hhead
  rcases List.append_eq_append_iff.mp hsplit with ⟨more, htrim, hmore⟩ | ⟨more, hbody, hmore⟩
  · cases more with
    | nil =>
      rw [List.nil_append] at hmore
      rw [← hmore] at hw
      exact absurd (hw ')' List.mem_cons_self) (by decide)
    | cons a more =>
      obtain ⟨rfl, -⟩ := List.cons.inj hmore
      exact ⟨more, htrim⟩
  · rw [hmore] at hw
    exact absurd (hw ')' (by simp)) (by decide)

lemma FieldGrammar.looks (h : FieldGrammar text conditions) (rest : List Char) :
    looksLikeFieldConditions (text.dropWhile isAsciiWhitespace ++ ')' :: rest) = true ↔
      '-' ∉ frontOfOp (text.dropWhile isAsciiWhitespace) ∧
        DotsTight (frontOfOp (text.dropWhile isAsciiWhitespace)) := by
  have hop : ∃ a ∈ text.dropWhile isAsciiWhitespace, isOpChar a = true := by
    obtain ⟨c', hparse, -⟩ := h
    rw [parseFieldConditions] at hparse
    obtain ⟨⟨conditions', c₁⟩, hloop, -⟩ := bind_ok hparse
    rw [← parseFieldConditionsLoop_skip] at hloop
    have hsees := (seesOp_conditions hloop (skipWhitespace_skipWhitespace _)).1
    rwa [Cursor.skipWhitespace_rest] at hsees
  have hread : ∀ rest, ∃ fuel conditions d',
      parseFieldConditionsLoop (fuel + 1) ⟨0, text.dropWhile isAsciiWhitespace ++ ')' :: rest⟩ =
        .ok (conditions, d') := by
    intro rest
    obtain ⟨d', hd', -⟩ := h.read (d := ⟨0, text.dropWhile isAsciiWhitespace ++ ')' :: rest⟩) rfl
    rw [parseFieldConditions] at hd'
    obtain ⟨⟨conditions', d₁⟩, hloop, -⟩ := bind_ok hd'
    exact ⟨_, _, _, hloop⟩
  have hhead : ∀ a, (text.dropWhile isAsciiWhitespace ++ ')' :: rest).head? = some a →
      isWhiteSpace a = false := by
    obtain ⟨fuel, conditions', d', hloop⟩ := hread rest
    have hskip := skipWhitespace_closing text rest 0
    obtain ⟨path, c₁, hpath, -⟩ := first_path hloop hskip
    exact parseFieldPath_head hpath (congrArg Cursor.rest hskip)
  obtain ⟨rest', htrim⟩ := trim_closing rest hhead
  obtain ⟨fuel, conditions', d', hloop⟩ := hread rest'
  have hsees := (seesOp_conditions hloop (skipWhitespace_closing text rest' 0)).2
  rw [frontOfOp_append hop] at hsees
  rw [looksLikeFieldConditions, htrim]
  exact hsees

lemma behind_star {fuel : Nat} {more : List Char}
    (h : parseFieldConditionsLoop (fuel + 1) c = .ok (conditions, c'))
    (hskip : c.skipWhitespace = c) (hstar : c.rest = '*' :: more) :
    ∃ b more', more = b :: more' ∧ (isAsciiWhitespace b = false → standsAlone more = false) := by
  obtain ⟨path, c₁, hpath, hop⟩ := first_path h hskip
  have hpeek : c.skipWhitespace.peek = some '*' := by
    rw [hskip]
    exact Cursor.peek_of_rest hstar
  have hrest : (c.advance 1).rest = more := by
    rw [Cursor.advance_rest, hstar]
    rfl
  have hnext : ∀ b more', more = b :: more' → b ≠ ')' → b.utf8Size = 1 →
      isAsciiWhitespace b = false → standsAlone more = false := by
    rintro b more' rfl hclose hone hblank
    simp [standsAlone, hclose, hone, hblank]
  rw [parseFieldPath, parseFieldPathLoop, parseName] at hpath
  dsimp only at hpath
  rw [if_pos hpeek, hskip] at hpath
  change (parseIndices (c.advance 1).rest.length (c.advance 1) >>= _) = _ at hpath
  by_cases hopen : (c.advance 1).peek = some '['
  · have hmore := Cursor.rest_of_peek hopen
    rw [hrest] at hmore
    exact ⟨_, _, hmore, hnext _ _ hmore (by decide) rfl⟩
  · rw [parseIndices_none hopen] at hpath
    change (if (c.advance 1).peek = some '.' then _ else _) = _ at hpath
    by_cases hdot : (c.advance 1).peek = some '.'
    · have hmore := Cursor.rest_of_peek hdot
      rw [hrest] at hmore
      exact ⟨_, _, hmore, hnext _ _ hmore (by decide) rfl⟩
    · rw [if_neg hdot] at hpath
      obtain ⟨-, rfl⟩ := Prod.mk.inj (Except.ok.inj hpath)
      rw [hrest] at hop
      cases more with
      | nil => cases hop
      | cons b more' =>
        refine ⟨b, more', rfl, fun hblank => ?_⟩
        rw [List.dropWhile_cons_of_neg (by simp [hblank])] at hop
        obtain ⟨a, _, hcons, ha⟩ := op_head hop
        obtain ⟨rfl, -⟩ := List.cons.inj hcons
        simp only [isOpChar, Bool.or_eq_true, decide_eq_true_eq] at ha
        rcases ha with (rfl | rfl) | rfl <;> exact hnext _ _ rfl (by decide) rfl rfl

lemma standsAlone_closing {b : Char} (more rest : List Char) :
    standsAlone (b :: more ++ ')' :: rest) = standsAlone (b :: more) := rfl

lemma FieldGrammar.parseArgPart (h : FieldGrammar text conditions) (pos : Nat) (rest : List Char) :
    (LookaheadReads (text.dropWhile isAsciiWhitespace) →
      ∃ d, parseArgPart ⟨pos, text ++ ')' :: rest⟩ = .ok (.fields conditions, d) ∧
        d.rest = ')' :: rest) ∧
    (∀ b more, text.dropWhile isAsciiWhitespace = '*' :: b :: more → isAsciiWhitespace b = true →
      ∃ d, parseArgPart ⟨pos, text ++ ')' :: rest⟩ = .ok (.any, d)) := by
  have hskip : (⟨pos, text ++ ')' :: rest⟩ : Cursor).skipWhitespace.rest =
      text.dropWhile isAsciiWhitespace ++ ')' :: rest := by
    have hext : Extends rest ⟨0, text⟩ ⟨pos, text ++ ')' :: rest⟩ := rfl
    have hskipped := hext.skipWhitespace
    rw [Extends, Cursor.skipWhitespace_rest ⟨0, text⟩] at hskipped
    exact hskipped
  rw [ToolPattern.parseArgPart]
  refine ⟨fun hreads => ?_, fun b more hstar hblank => ?_⟩
  · have halone : ¬((⟨pos, text ++ ')' :: rest⟩ : Cursor).skipWhitespace.peek = some '*' ∧
        standsAlone (⟨pos, text ++ ')' :: rest⟩ : Cursor).skipWhitespace.rest.tail = true) := by
      rintro ⟨hpeek, halone⟩
      obtain ⟨c', hparse, -⟩ := h
      rw [parseFieldConditions] at hparse
      obtain ⟨⟨conditions', c₁⟩, hloop, -⟩ := bind_ok hparse
      rw [← parseFieldConditionsLoop_skip] at hloop
      have hidem := skipWhitespace_skipWhitespace (Cursor.new text)
      have hbody : (Cursor.new text).skipWhitespace.rest = text.dropWhile isAsciiWhitespace :=
        Cursor.skipWhitespace_rest _
      obtain ⟨path, c₂, hpath, -⟩ := first_path hloop hidem
      obtain ⟨front, hfront⟩ := path_text hpath (Nat.lt_succ_self _)
      obtain ⟨a, ha, -⟩ := hfront.written
      cases hcases : text.dropWhile isAsciiWhitespace with
      | nil =>
        have hnil := hfront.split
        rw [hbody, hcases] at hnil
        obtain ⟨rfl, -⟩ := List.append_eq_nil_iff.mp hnil.symm
        cases ha
      | cons e more =>
        rw [hskip, hcases] at halone
        rw [Cursor.peek, hskip, hcases] at hpeek
        obtain rfl := Option.some.inj hpeek
        obtain ⟨b, more', rfl, hnext⟩ := behind_star hloop hidem (hbody.trans hcases)
        rw [List.cons_append, List.tail_cons, standsAlone_closing,
          hnext (hreads.star b more' hcases)] at halone
        cases halone
    obtain ⟨d, hd, hrest⟩ := h.read hskip
    have hlooks := (h.looks rest).mpr ⟨hreads.noDash, hreads.tight⟩
    refine ⟨d, ?_, hrest⟩
    rw [if_neg halone, hskip, if_pos hlooks, hd]
  · rw [hstar] at hskip
    have halone : standsAlone (b :: more ++ ')' :: rest) = true := by
      rw [List.cons_append, standsAlone, hblank]
      simp
    rw [if_pos ⟨Cursor.peek_of_rest hskip, by rw [hskip]; exact halone⟩]
    exact ⟨_, rfl⟩

lemma parseArgs_open (pos : Nat) (s : List Char) : parseArgs ⟨pos, '(' :: s⟩ = (do
    let (args, cursor) ← parseArgPart ⟨pos + 1, s⟩
    let cursor ← cursor.expect ')'
    return (args, cursor)) := rfl

theorem lookahead_agrees (h : FieldGrammar text conditions) :
    TakenAsConditions text conditions ↔
      LookaheadReads (text.dropWhile isAsciiWhitespace) := by
  constructor
  · rintro ⟨hlooks, hargs, -⟩
    obtain ⟨hdash, htight⟩ := (h.looks []).mp (hlooks [])
    refine ⟨hdash, htight, fun b more hstar => ?_⟩
    by_contra hblank
    obtain ⟨d, hany⟩ := (h.parseArgPart 1 []).2 b more hstar (eq_true_of_ne_false hblank)
    obtain ⟨d', hparse, -⟩ := hargs 0 []
    rw [parseArgs_open, hany] at hparse
    change (d.expect ')' >>= _) = _ at hparse
    obtain ⟨d₁, -, hparse⟩ := bind_ok hparse
    cases (Prod.mk.inj (Except.ok.inj hparse)).1
  · intro hreads
    have hargs : ∀ pos rest, ∃ cursor, parseArgs ⟨pos, '(' :: (text ++ ')' :: rest)⟩ =
        .ok (.fields conditions, cursor) ∧ cursor.rest = rest := by
      intro pos rest
      obtain ⟨d, hd, hrest⟩ := (h.parseArgPart (pos + 1) rest).1 hreads
      obtain ⟨d', hd', hrest'⟩ := Cursor.expect_of_rest hrest (by decide)
      refine ⟨d', ?_, hrest'⟩
      rw [parseArgs_open, hd]
      change (d.expect ')' >>= _) = _
      rw [hd']
      rfl
    refine ⟨fun rest => (h.looks rest).mpr ⟨hreads.noDash, hreads.tight⟩, hargs, ?_⟩
    intro R lib input tool cursor htool hrest
    obtain ⟨d, hd, hend⟩ := hargs cursor.skipWhitespace.pos []
    rw [← hrest] at hd
    have hskip : d.skipWhitespace.isEmpty = true := by
      rw [Cursor.isEmpty, Cursor.skipWhitespace_rest, hend]
      rfl
    rw [parsePattern, htool]
    dsimp only
    rw [hd]
    dsimp only
    rw [if_pos hskip]

def nestedText : List Char := ['a', '.', 'b', '~', '"', 'x', '"']

def nestedCondition : FieldCondition := ⟨[.field ['a'], .field ['b']], .glob, ['x']⟩

theorem lookahead_agrees_nested : TakenAsConditions nestedText [nestedCondition] := by
  have h : FieldGrammar nestedText [nestedCondition] := ⟨⟨7, []⟩, rfl, rfl⟩
  refine (lookahead_agrees h).mpr ⟨by decide, ?_, fun b more hstar => by cases hstar⟩
  change List.IsChain _ ['a', '.', 'b']
  simp [isAsciiWhitespace]

def dashedText : List Char := ['a', '-', 'b', ' ', '~', ' ', '"', 'x', '"']

def dashedCondition : FieldCondition := ⟨[.field ['a', '-', 'b']], .glob, ['x']⟩

theorem dashed_name_is_primary :
    FieldGrammar dashedText [dashedCondition] ∧ ¬TakenAsConditions dashedText [dashedCondition] ∧
      parseArgs ⟨0, '(' :: (dashedText ++ [')'])⟩ = .ok (.primary .glob dashedText, ⟨11, []⟩) :=
  ⟨⟨⟨9, []⟩, rfl, rfl⟩, fun h => absurd (h.looks []) (by decide), rfl⟩

end Grammar

end Awaken.ToolPattern
