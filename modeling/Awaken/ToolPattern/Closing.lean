import Awaken.ToolPattern.Offsets

namespace Awaken.ToolPattern

open Awaken.Lib.Text

section Extends

variable {t : List Char} {c c' d : Cursor}

def Extends (t : List Char) (c d : Cursor) : Prop := d.rest = c.rest ++ ')' :: t

lemma Extends.takeWhile {p : Char → Bool} (h : Extends t c d) (hp : p ')' = false) :
    (d.takeWhile p).1 = (c.takeWhile p).1 ∧ Extends t (c.takeWhile p).2 (d.takeWhile p).2 := by
  have hclose : ¬p ')' = true := by rw [hp]; exact Bool.false_ne_true
  have htake : (c.rest ++ ')' :: t).takeWhile p = c.rest.takeWhile p := by
    rw [List.takeWhile_append]
    split
    · rename_i hall
      rw [List.takeWhile_cons_of_neg hclose, List.append_nil]
      exact (List.IsPrefix.eq_of_length (List.takeWhile_prefix p) hall).symm
    · rfl
  have hdrop : (c.rest ++ ')' :: t).dropWhile p = c.rest.dropWhile p ++ ')' :: t := by
    rw [List.dropWhile_append]
    split
    · rename_i hall
      rw [List.dropWhile_cons_of_neg hclose, List.isEmpty_iff.mp hall, List.nil_append]
    · rfl
  refine ⟨?_, ?_⟩
  · rw [Cursor.takeWhile, h, htake]
    rfl
  · rw [Extends, Cursor.takeWhile_rest, Cursor.takeWhile_rest, h, hdrop]

lemma Extends.skipWhitespace (h : Extends t c d) : Extends t c.skipWhitespace d.skipWhitespace :=
  (h.takeWhile (by decide)).2

lemma Extends.peek (h : Extends t c d) {a : Char} (ha : a ≠ ')') :
    d.peek = some a ↔ c.peek = some a := by
  rw [Cursor.peek, Cursor.peek, h]
  cases c.rest with
  | nil => simp [ha.symm]
  | cons e rest => simp

lemma Extends.advance (h : Extends t c d) {n : Nat} (hn : n ≤ c.rest.length) :
    Extends t (c.advance n) (d.advance n) := by
  rw [Extends, Cursor.advance_rest, Cursor.advance_rest, h, List.drop_append_of_le_length hn]

lemma Extends.advance_peek (h : Extends t c d) {a : Char} (ha : c.peek = some a) :
    Extends t (c.advance 1) (d.advance 1) := by
  refine h.advance ?_
  rw [Cursor.rest_of_peek ha, List.length_cons]
  omega

lemma Extends.expect {a : Char} (h : Extends t c d) (hc : c.expect a = .ok c') :
    ∃ d', d.expect a = .ok d' ∧ Extends t c' d' := by
  have hrest := Cursor.expect_ok hc
  have hskip := h.skipWhitespace
  rw [Extends, hrest, List.cons_append] at hskip
  refine ⟨d.skipWhitespace.advance 1, ?_, ?_⟩
  · simp only [Cursor.expect, Cursor.peek_of_rest hskip, if_true]
  · rw [Extends, Cursor.advance_rest, hskip, List.drop_succ_cons, List.drop_zero]

lemma Extends.parseIdentifier {ident : List Char} (h : Extends t c d)
    (hc : parseIdentifier c = .ok (ident, c')) :
    ∃ d', parseIdentifier d = .ok (ident, d') ∧ Extends t c' d' := by
  obtain ⟨htake, hrest⟩ := h.takeWhile (p := isIdentifierChar) (by decide)
  simp only [ToolPattern.parseIdentifier] at hc ⊢
  rw [htake]
  split at hc
  · cases hc
  · rename_i hne
    obtain ⟨rfl, rfl⟩ := Prod.mk.inj (Except.ok.inj hc)
    rw [if_neg hne]
    exact ⟨_, rfl, hrest⟩

lemma Extends.parseUsize {i : Nat} (h : Extends t c d) (hc : parseUsize c = .ok (i, c')) :
    ∃ d', parseUsize d = .ok (i, d') ∧ Extends t c' d' := by
  obtain ⟨htake, hrest⟩ := h.takeWhile (p := Char.isDigit) (by decide)
  simp only [ToolPattern.parseUsize] at hc ⊢
  rw [htake]
  split at hc
  · cases hc
  · rename_i hle
    obtain ⟨rfl, rfl⟩ := Prod.mk.inj (Except.ok.inj hc)
    rw [if_neg hle]
    exact ⟨_, rfl, hrest⟩

lemma Extends.parseIndex {segment : PathSegment} (h : Extends t c d)
    (hc : parseIndex c = .ok (segment, c')) :
    ∃ d', parseIndex d = .ok (segment, d') ∧ Extends t c' d' := by
  have hskip := h.skipWhitespace
  rw [ToolPattern.parseIndex] at hc ⊢
  dsimp only at hc ⊢
  by_cases hstar : c.skipWhitespace.peek = some '*'
  · rw [if_pos hstar] at hc
    obtain ⟨c₁, hexpect, hc⟩ := bind_ok hc
    obtain ⟨rfl, rfl⟩ := Prod.mk.inj (Except.ok.inj hc)
    obtain ⟨d₁, hd₁, hext⟩ := (hskip.advance_peek hstar).expect hexpect
    rw [if_pos ((hskip.peek (by decide)).mpr hstar), hd₁]
    exact ⟨d₁, rfl, hext⟩
  · rw [if_neg hstar] at hc
    obtain ⟨⟨i, c₁⟩, husize, hc⟩ := bind_ok hc
    obtain ⟨c₂, hexpect, hc⟩ := bind_ok hc
    obtain ⟨rfl, rfl⟩ := Prod.mk.inj (Except.ok.inj hc)
    obtain ⟨d₁, hd₁, hext₁⟩ := hskip.parseUsize husize
    obtain ⟨d₂, hd₂, hext₂⟩ := hext₁.expect hexpect
    rw [if_neg (fun hpeek => hstar ((hskip.peek (by decide)).mp hpeek)), hd₁]
    refine ⟨d₂, ?_, hext₂⟩
    change (d₁.expect ']' >>= _) = _
    rw [hd₂]
    rfl

lemma Extends.parseIndices {fuel fuel' : Nat} {path : List PathSegment} (h : Extends t c d)
    (hfuel : c.rest.length ≤ fuel) (hfuel' : d.rest.length ≤ fuel')
    (hc : parseIndices fuel c = .ok (path, c')) :
    ∃ d', parseIndices fuel' d = .ok (path, d') ∧ Extends t c' d' := by
  induction fuel generalizing c d fuel' path with
  | zero =>
    have hrest := List.eq_nil_of_length_eq_zero (Nat.le_zero.mp hfuel)
    obtain ⟨rfl, rfl⟩ := Prod.mk.inj (Except.ok.inj hc)
    have hpeek : d.peek ≠ some '[' := by
      rw [Ne, h.peek (by decide), Cursor.peek, hrest]
      simp
    exact ⟨d, parseIndices_none hpeek, h⟩
  | succ fuel ih =>
    by_cases hopen : c.peek = some '['
    · have hopen' := (h.peek (by decide)).mpr hopen
      have hlength := congrArg List.length (Cursor.rest_of_peek hopen)
      have hlength' := congrArg List.length (Cursor.rest_of_peek hopen')
      rw [List.length_cons] at hlength hlength'
      obtain ⟨fuel', rfl⟩ := Nat.exists_eq_succ_of_ne_zero (n := fuel') (by omega)
      rw [ToolPattern.parseIndices, if_pos hopen] at hc
      obtain ⟨⟨segment, c₁⟩, hindex, hc⟩ := bind_ok hc
      obtain ⟨⟨segments, c₂⟩, hloop, hc⟩ := bind_ok hc
      obtain ⟨rfl, rfl⟩ := Prod.mk.inj (Except.ok.inj hc)
      obtain ⟨d₁, hd₁, hext₁⟩ := (h.advance_peek hopen).parseIndex hindex
      have hshort := parseIndex_shorter hindex
      have hshort' := parseIndex_shorter hd₁
      obtain ⟨d₂, hd₂, hext₂⟩ := ih hext₁ (by omega) (show d₁.rest.length ≤ fuel' by omega) hloop
      refine ⟨d₂, ?_, hext₂⟩
      rw [ToolPattern.parseIndices, if_pos hopen', hd₁]
      change (ToolPattern.parseIndices fuel' d₁ >>= _) = _
      rw [hd₂]
      rfl
    · rw [parseIndices_none hopen] at hc
      obtain ⟨rfl, rfl⟩ := Prod.mk.inj (Except.ok.inj hc)
      exact ⟨d, parseIndices_none (fun hd => hopen ((h.peek (by decide)).mp hd)), h⟩

lemma Extends.parseName {segment : PathSegment} (h : Extends t c d)
    (hc : parseName c = .ok (segment, c')) :
    ∃ d', parseName d = .ok (segment, d') ∧ Extends t c' d' := by
  have hskip := h.skipWhitespace
  rw [ToolPattern.parseName] at hc ⊢
  dsimp only at hc ⊢
  by_cases hstar : c.skipWhitespace.peek = some '*'
  · rw [if_pos hstar] at hc
    obtain ⟨rfl, rfl⟩ := Prod.mk.inj (Except.ok.inj hc)
    rw [if_pos ((hskip.peek (by decide)).mpr hstar)]
    exact ⟨_, rfl, hskip.advance_peek hstar⟩
  · rw [if_neg hstar] at hc
    obtain ⟨⟨ident, c₁⟩, hident, hc⟩ := bind_ok hc
    obtain ⟨rfl, rfl⟩ := Prod.mk.inj (Except.ok.inj hc)
    obtain ⟨d₁, hd₁, hext⟩ := hskip.parseIdentifier hident
    rw [if_neg (fun hpeek => hstar ((hskip.peek (by decide)).mp hpeek)), hd₁]
    exact ⟨d₁, rfl, hext⟩

lemma Extends.parseFieldPathLoop {fuel fuel' : Nat} {path : List PathSegment} (h : Extends t c d)
    (hfuel : c.rest.length < fuel) (hfuel' : d.rest.length < fuel')
    (hc : parseFieldPathLoop fuel c = .ok (path, c')) :
    ∃ d', parseFieldPathLoop fuel' d = .ok (path, d') ∧ Extends t c' d' := by
  induction fuel generalizing c d fuel' path c' with
  | zero => cases hfuel
  | succ fuel ih =>
    obtain ⟨fuel', rfl⟩ := Nat.exists_eq_succ_of_ne_zero (Nat.ne_zero_of_lt hfuel')
    rw [ToolPattern.parseFieldPathLoop] at hc ⊢
    obtain ⟨⟨segment, c₁⟩, hname, hc⟩ := bind_ok hc
    obtain ⟨⟨indices, c₂⟩, hindices, hc⟩ := bind_ok hc
    obtain ⟨d₁, hd₁, hext₁⟩ := h.parseName hname
    obtain ⟨d₂, hd₂, hext₂⟩ := hext₁.parseIndices le_rfl le_rfl hindices
    have hname' := parseName_shorter hd₁
    have hindices' := parseIndices_shorter hd₂
    have hname := parseName_shorter hname
    have hindices := parseIndices_shorter hindices
    rw [hd₁]
    change ∃ d', (ToolPattern.parseIndices d₁.rest.length d₁ >>= _) = _ ∧ _
    rw [hd₂]
    change ∃ d', (if d₂.peek = some '.' then _ else _) = _ ∧ _
    dsimp only at hc
    by_cases hdot : c₂.peek = some '.'
    · rw [if_pos hdot] at hc
      obtain ⟨⟨segments, c₃⟩, hloop, hc⟩ := bind_ok hc
      obtain ⟨rfl, rfl⟩ := Prod.mk.inj (Except.ok.inj hc)
      have hle := length_advance_le c₂ 1
      have hle' := length_advance_le d₂ 1
      have hfuel₂ : (d₂.advance 1).rest.length < fuel' := by omega
      obtain ⟨d₃, hd₃, hext₃⟩ := ih (hext₂.advance_peek hdot) (by omega) hfuel₂ hloop
      rw [if_pos ((hext₂.peek (by decide)).mpr hdot), hd₃]
      exact ⟨d₃, rfl, hext₃⟩
    · rw [if_neg hdot] at hc
      obtain ⟨rfl, rfl⟩ := Prod.mk.inj (Except.ok.inj hc)
      rw [if_neg (fun hd => hdot ((hext₂.peek (by decide)).mp hd))]
      exact ⟨d₂, rfl, hext₂⟩

lemma Extends.parseFieldPath {path : List PathSegment} (h : Extends t c d)
    (hc : parseFieldPath c = .ok (path, c')) :
    ∃ d', parseFieldPath d = .ok (path, d') ∧ Extends t c' d' :=
  h.parseFieldPathLoop (Nat.lt_succ_self _) (Nat.lt_succ_self _) hc

lemma isPrefixOf_closing {op : List Char} (hop : ')' ∉ op) (s : List Char) :
    op.isPrefixOf (s ++ ')' :: t) = op.isPrefixOf s := by
  induction op generalizing s with
  | nil => simp
  | cons a op ih =>
    have ha : a ≠ ')' := fun ha => hop (ha ▸ List.mem_cons_self)
    cases s with
    | nil => simp [List.isPrefixOf, ha]
    | cons b s =>
      rw [List.cons_append, List.isPrefixOf, List.isPrefixOf,
        ih (fun hmem => hop (List.mem_cons_of_mem a hmem))]

lemma Extends.parseMatchOp {op : MatchOp} (h : Extends t c d) (hc : parseMatchOp c = .ok (op, c')) :
    ∃ d', parseMatchOp d = .ok (op, d') ∧ Extends t c' d' := by
  have hlen : ∀ (front : List Char), front.isPrefixOf c.rest = true → front.length ≤ c.rest.length :=
    fun front hfront => (List.isPrefixOf_iff_prefix.mp hfront).length_le
  rw [parseMatchOp_eq] at hc ⊢
  rw [h]
  simp only [isPrefixOf_closing (t := t) (by decide : ')' ∉ ['!', '=', '~']),
    isPrefixOf_closing (t := t) (by decide : ')' ∉ ['!', '=']),
    isPrefixOf_closing (t := t) (by decide : ')' ∉ ['!', '~']),
    isPrefixOf_closing (t := t) (by decide : ')' ∉ ['=', '~']),
    isPrefixOf_closing (t := t) (by decide : ')' ∉ ['~']),
    isPrefixOf_closing (t := t) (by decide : ')' ∉ ['='])]
  repeat'
    split at hc
  all_goals
    cases hc
  all_goals
    rename_i hop
    refine ⟨_, ?_, h.advance (hlen _ hop)⟩
    simp only [*, Bool.false_eq_true, if_true, if_false]

lemma scanQuoted_closing {s value more : List Char} {n : Nat}
    (h : scanQuoted s = .ok (value, n)) :
    n ≤ s.length ∧ scanQuoted (s ++ more) = .ok (value, n) := by
  induction hl : s.length using Nat.strong_induction_on generalizing s value n with
  | _ l ih =>
    cases s with
    | nil => cases h
    | cons a s =>
      by_cases hq : a = '"'
      · subst hq
        rw [List.cons_append]
        rw [scanQuoted_quote] at h ⊢
        obtain ⟨rfl, rfl⟩ := Prod.mk.inj (Except.ok.inj h)
        exact ⟨by rw [← hl, List.length_cons]; omega, rfl⟩
      · by_cases hb : a = '\\'
        · subst hb
          cases s with
          | nil =>
            rw [scanQuoted, if_neg hq, if_pos rfl] at h
            cases h
          | cons b s =>
            have hlt : s.length < l := by
              rw [← hl, List.length_cons, List.length_cons]
              omega
            rw [List.cons_append, List.cons_append]
            rw [scanQuoted_escape] at h ⊢
            by_cases hesc : b = '"' ∨ b = '\\'
            · rw [if_pos hesc] at h ⊢
              obtain ⟨⟨v, m⟩, hscan, hv⟩ := map_ok_inj h
              obtain ⟨rfl, rfl⟩ := Prod.mk.inj hv
              obtain ⟨hm, hmore⟩ := ih s.length hlt hscan rfl
              rw [hmore]
              exact ⟨hl ▸ Nat.add_le_add_right hm 2, rfl⟩
            · rw [if_neg hesc] at h ⊢
              obtain ⟨⟨v, m⟩, hscan, hv⟩ := map_ok_inj h
              obtain ⟨rfl, rfl⟩ := Prod.mk.inj hv
              obtain ⟨hm, hmore⟩ := ih s.length hlt hscan rfl
              rw [hmore]
              exact ⟨hl ▸ Nat.add_le_add_right hm 2, rfl⟩
        · have hlt : s.length < l := by
            rw [← hl, List.length_cons]
            omega
          rw [List.cons_append]
          rw [scanQuoted_char hq hb] at h ⊢
          obtain ⟨⟨v, m⟩, hscan, hv⟩ := map_ok_inj h
          obtain ⟨rfl, rfl⟩ := Prod.mk.inj hv
          obtain ⟨hm, hmore⟩ := ih s.length hlt hscan rfl
          rw [hmore]
          exact ⟨hl ▸ Nat.add_le_add_right hm 1, rfl⟩

lemma Extends.parseQuotedValue {value : List Char} (h : Extends t c d)
    (hc : parseQuotedValue c = .ok (value, c')) :
    ∃ d', parseQuotedValue d = .ok (value, d') ∧ Extends t c' d' := by
  have hskip := h.skipWhitespace
  rw [ToolPattern.parseQuotedValue] at hc ⊢
  dsimp only at hc ⊢
  by_cases hquote : c.skipWhitespace.peek = some '"'
  · have hext := hskip.advance_peek hquote
    rw [if_neg (not_not.mpr hquote)] at hc
    rw [if_neg (not_not.mpr ((hskip.peek (by decide)).mpr hquote)), hext]
    cases hscan : scanQuoted (c.skipWhitespace.advance 1).rest with
    | error e =>
      rw [hscan] at hc
      cases hc
    | ok scanned =>
      obtain ⟨v, n⟩ := scanned
      rw [hscan] at hc
      obtain ⟨rfl, rfl⟩ := Prod.mk.inj (Except.ok.inj hc)
      obtain ⟨hn, hmore⟩ := scanQuoted_closing hscan
      rw [hmore]
      exact ⟨_, rfl, hext.advance hn⟩
  · rw [if_pos hquote] at hc
    cases hc

lemma Extends.parseSingleFieldCondition {condition : FieldCondition} (h : Extends t c d)
    (hc : parseSingleFieldCondition c = .ok (condition, c')) :
    ∃ d', parseSingleFieldCondition d = .ok (condition, d') ∧ Extends t c' d' := by
  rw [ToolPattern.parseSingleFieldCondition] at hc ⊢
  obtain ⟨⟨path, c₁⟩, hpath, hc⟩ := bind_ok hc
  obtain ⟨⟨op, c₂⟩, hop, hc⟩ := bind_ok hc
  obtain ⟨⟨value, c₃⟩, hvalue, hc⟩ := bind_ok hc
  obtain ⟨rfl, rfl⟩ := Prod.mk.inj (Except.ok.inj hc)
  obtain ⟨d₁, hd₁, hext₁⟩ := h.skipWhitespace.parseFieldPath hpath
  obtain ⟨d₂, hd₂, hext₂⟩ := hext₁.skipWhitespace.parseMatchOp hop
  obtain ⟨d₃, hd₃, hext₃⟩ := hext₂.skipWhitespace.parseQuotedValue hvalue
  refine ⟨d₃, ?_, hext₃⟩
  rw [hd₁]
  change (ToolPattern.parseMatchOp d₁.skipWhitespace >>= _) = _
  rw [hd₂]
  change (ToolPattern.parseQuotedValue d₂.skipWhitespace >>= _) = _
  rw [hd₃]
  rfl

lemma Extends.parseFieldConditionsLoop {fuel fuel' : Nat} {conditions : List FieldCondition}
    (h : Extends t c d) (hfuel : c.rest.length < fuel) (hfuel' : d.rest.length < fuel')
    (hc : parseFieldConditionsLoop fuel c = .ok (conditions, c')) :
    ∃ d', parseFieldConditionsLoop fuel' d = .ok (conditions, d') ∧ Extends t c' d' := by
  induction fuel generalizing c d fuel' conditions c' with
  | zero => cases hfuel
  | succ fuel ih =>
    obtain ⟨fuel', rfl⟩ := Nat.exists_eq_succ_of_ne_zero (Nat.ne_zero_of_lt hfuel')
    rw [ToolPattern.parseFieldConditionsLoop] at hc ⊢
    obtain ⟨⟨condition, c₁⟩, hsingle, hc⟩ := bind_ok hc
    obtain ⟨d₁, hd₁, hext₁⟩ := h.skipWhitespace.parseSingleFieldCondition hsingle
    have hskip₁ := hext₁.skipWhitespace
    have hlen := length_skipWhitespace_le c
    have hlen' := length_skipWhitespace_le d
    have hlen₁ := length_skipWhitespace_le c₁
    have hlen₁' := length_skipWhitespace_le d₁
    have hshort := parseSingleFieldCondition_shorter hsingle
    have hshort' := parseSingleFieldCondition_shorter hd₁
    rw [hd₁]
    change ∃ d', (if d₁.skipWhitespace.peek = some ',' then _ else _) = _ ∧ _
    dsimp only at hc
    by_cases hcomma : c₁.skipWhitespace.peek = some ','
    · rw [if_pos hcomma] at hc
      obtain ⟨⟨others, c₂⟩, hloop, hc⟩ := bind_ok hc
      obtain ⟨rfl, rfl⟩ := Prod.mk.inj (Except.ok.inj hc)
      have hle := length_advance_le c₁.skipWhitespace 1
      have hle' := length_advance_le d₁.skipWhitespace 1
      have hfuel₁ : (d₁.skipWhitespace.advance 1).rest.length < fuel' := by omega
      obtain ⟨d₂, hd₂, hext₂⟩ := ih (hskip₁.advance_peek hcomma) (by omega) hfuel₁ hloop
      rw [if_pos ((hskip₁.peek (by decide)).mpr hcomma), hd₂]
      exact ⟨d₂, rfl, hext₂⟩
    · rw [if_neg hcomma] at hc
      obtain ⟨rfl, rfl⟩ := Prod.mk.inj (Except.ok.inj hc)
      rw [if_neg (fun hd => hcomma ((hskip₁.peek (by decide)).mp hd))]
      exact ⟨d₁.skipWhitespace, rfl, hskip₁⟩

end Extends

end Awaken.ToolPattern
