import Awaken.ToolPattern.Lookahead

namespace Awaken.ToolPattern

open Awaken.Lib Awaken.Lib.Text

namespace Cursor

variable {cursor cursor' : Cursor} {c : Char}

lemma skipWhitespace_suffix (cursor : Cursor) : cursor.skipWhitespace.rest <:+ cursor.rest := by
  rw [skipWhitespace_rest]
  exact List.dropWhile_suffix _

lemma rest_of_peek (h : cursor.peek = some c) : cursor.rest = c :: (cursor.advance 1).rest := by
  obtain ⟨rest, hr⟩ := List.head?_eq_some_iff.mp h
  rw [advance_rest, hr]
  rfl

lemma expect_ok (h : cursor.expect c = .ok cursor') :
    cursor.skipWhitespace.rest = c :: cursor'.rest := by
  simp only [expect] at h
  cases hpeek : cursor.skipWhitespace.peek with
  | none =>
    rw [hpeek] at h
    cases h
  | some d =>
    rw [hpeek] at h
    dsimp only at h
    by_cases hd : d = c
    · rw [if_pos hd] at h
      obtain rfl := Except.ok.inj h
      rw [← hd]
      exact rest_of_peek hpeek
    · rw [if_neg hd] at h
      cases h

lemma takeWhile_append (cursor : Cursor) (p : Char → Bool) :
    (cursor.takeWhile p).1 ++ (cursor.takeWhile p).2.rest = cursor.rest := by
  rw [takeWhile_rest]
  exact List.takeWhile_append_dropWhile

end Cursor

section Tool

variable {R : Type} {lib : RegexLib R} {cursor cursor' : Cursor} {tool : ToolMatcher R}

structure NameShaped (name : List Char) : Prop where
  nonempty : name ≠ []
  inside : ∀ c ∈ name, c ≠ '(' ∧ isAsciiWhitespace c = false
  head : ∀ c, name.head? = some c → c ≠ '/' ∧ isWhiteSpace c = false

structure RegexShaped (lib : RegexLib R) (re : R) : Prop where
  nonempty : lib.asStr re ≠ []
  compiled : lib.new (lib.asStr re) = .ok re
  scanned : ∀ rest, scanRegex 0 (lib.asStr re ++ '/' :: rest) = some (lib.asStr re, '/' :: rest)

def ToolMatcher.Shaped (lib : RegexLib R) : ToolMatcher R → Prop
  | .exact name => NameShaped name ∧ hasGlobChars name = false
  | .glob name => NameShaped name ∧ hasGlobChars name = true
  | .regex re => RegexShaped lib re

lemma scanRegex_escape (depth : Nat) (d : Char) (s : List Char) :
    scanRegex depth ('\\' :: d :: s) =
      if d.utf8Size = 1 then (scanRegex depth s).map (Prod.map (['\\', d] ++ ·) id) else none := by
  rw [scanRegex.eq_def]
  rfl

lemma scanRegex_slash (s : List Char) : scanRegex 0 ('/' :: s) = some ([], '/' :: s) := by
  rw [scanRegex.eq_def]
  rfl

def behind (depth : Nat) (c : Char) : Nat :=
  if c = '(' then deeper depth else if c = ')' then depth - 1 else depth

lemma scanRegex_char {depth : Nat} {c : Char} (hb : c ≠ '\\') (hs : ¬(c = '/' ∧ depth = 0))
    (s : List Char) : scanRegex depth (c :: s) =
      (scanRegex (behind depth c) s).map (Prod.map (c :: ·) id) := by
  rw [scanRegex.eq_def]
  simp only [if_neg hb, if_neg hs, behind]
  split
  · rfl
  · split <;> rfl

lemma map_scanned {x : Option (List Char × List Char)} {f : List Char → List Char}
    {body rest : List Char} (h : x.map (Prod.map f id) = some (body, rest)) :
    ∃ body', x = some (body', rest) ∧ f body' = body := by
  obtain ⟨⟨body', rest'⟩, rfl, heq⟩ := Option.map_eq_some_iff.mp h
  obtain ⟨rfl, rfl⟩ := Prod.mk.inj heq
  exact ⟨body', rfl, rfl⟩

lemma scanRegex_ok {depth : Nat} {s body rest : List Char}
    (h : scanRegex depth s = some (body, rest)) : s = body ++ rest ∧
      (rest = [] ∨ ∃ text, rest = '/' :: text ∧
        ∀ text', scanRegex depth (body ++ '/' :: text') = some (body, '/' :: text')) := by
  induction hl : s.length using Nat.strong_induction_on generalizing s depth body with
  | _ l ih =>
    cases s with
    | nil =>
      rw [scanRegex.eq_def] at h
      obtain ⟨rfl, rfl⟩ := Prod.mk.inj (Option.some.inj h)
      exact ⟨rfl, .inl rfl⟩
    | cons c s =>
      by_cases hb : c = '\\'
      · subst hb
        cases s with
        | nil =>
          rw [scanRegex.eq_def] at h
          obtain ⟨rfl, rfl⟩ := Prod.mk.inj (Option.some.inj h)
          exact ⟨rfl, .inl rfl⟩
        | cons d s =>
          rw [scanRegex_escape] at h
          by_cases hd : d.utf8Size = 1
          · rw [if_pos hd] at h
            obtain ⟨body', hscan, rfl⟩ := map_scanned h
            have hlt : s.length < l := by
              rw [← hl, List.length_cons, List.length_cons]
              omega
            obtain ⟨rfl, hrest⟩ := ih s.length hlt hscan rfl
            refine ⟨rfl, hrest.imp_right ?_⟩
            rintro ⟨text, rfl, hagain⟩
            refine ⟨text, rfl, fun text' => ?_⟩
            change scanRegex depth ('\\' :: d :: (body' ++ '/' :: text')) = _
            rw [scanRegex_escape, if_pos hd, hagain text']
            rfl
          · rw [if_neg hd] at h
            cases h
      · by_cases hs : c = '/' ∧ depth = 0
        · obtain ⟨rfl, rfl⟩ := hs
          rw [scanRegex_slash] at h
          obtain ⟨rfl, rfl⟩ := Prod.mk.inj (Option.some.inj h)
          exact ⟨rfl, .inr ⟨s, rfl, scanRegex_slash⟩⟩
        · rw [scanRegex_char hb hs] at h
          obtain ⟨body', hscan, rfl⟩ := map_scanned h
          have hlt : s.length < l := by
            rw [← hl, List.length_cons]
            omega
          obtain ⟨rfl, hrest⟩ := ih s.length hlt hscan rfl
          refine ⟨rfl, hrest.imp_right ?_⟩
          rintro ⟨text, rfl, hagain⟩
          refine ⟨text, rfl, fun text' => ?_⟩
          rw [List.cons_append, scanRegex_char hb hs, hagain text']
          rfl

lemma parseRegexTool_ok (h : parseRegexTool lib cursor = .ok (tool, cursor')) :
    tool.Shaped lib ∧ '/' :: cursor.rest = tool.display lib ++ cursor'.rest := by
  simp only [parseRegexTool] at h
  cases hscan : scanRegex 0 cursor.rest with
  | none =>
    rw [hscan] at h
    cases h
  | some scanned =>
    obtain ⟨body, rest⟩ := scanned
    rw [hscan] at h
    dsimp only at h
    split at h
    · cases h
    · rename_i hne
      cases hexpect : (cursor.advance body.length).expect '/' with
      | error e =>
        rw [hexpect] at h
        cases h
      | ok cursor₁ =>
        rw [hexpect] at h
        dsimp only at h
        cases hnew : lib.new body with
        | error e =>
          rw [hnew] at h
          cases h
        | ok re =>
          rw [hnew] at h
          obtain ⟨rfl, rfl⟩ := Prod.mk.inj (Outcome.ok.inj h)
          have hstr := lib.asStr_new body re hnew
          obtain ⟨hsplit, hrest⟩ := scanRegex_ok hscan
          have hslash := Cursor.expect_ok hexpect
          rw [Cursor.skipWhitespace_rest, Cursor.advance_rest, hsplit, List.drop_left] at hslash
          rcases hrest with rfl | ⟨text, rfl, hagain⟩
          · cases hslash
          · rw [List.dropWhile_cons_of_neg (by decide)] at hslash
            refine ⟨⟨?_, ?_, ?_⟩, ?_⟩
            · rw [hstr]
              exact fun hnil => hne (List.isEmpty_iff.mpr hnil)
            · rw [hstr, hnew]
            · rw [hstr]
              exact hagain
            · rw [ToolMatcher.display, hstr, hsplit, hslash]
              simp

lemma parseNamedTool_ok (h : parseNamedTool cursor = .ok (tool, cursor'))
    (hhead : ∀ c, cursor.rest.head? = some c → c ≠ '/' ∧ isWhiteSpace c = false) :
    tool.Shaped lib ∧ cursor.rest = tool.display lib ++ cursor'.rest := by
  simp only [parseNamedTool] at h
  generalize htake : cursor.takeWhile (fun c => !(decide (c = '(') || isAsciiWhitespace c)) = taken
    at h
  obtain ⟨name, cursor₁⟩ := taken
  have hrest : cursor.rest = name ++ cursor₁.rest := by
    rw [← Cursor.takeWhile_append cursor, htake]
  dsimp only at h
  split at h
  · cases h
  · rename_i hne
    have hname : NameShaped name := by
      refine ⟨fun hnil => hne (List.isEmpty_iff.mpr hnil), ?_, ?_⟩
      · intro c hc
        have htaken : name = (cursor.takeWhile (fun c => !(decide (c = '(') || isAsciiWhitespace c))).1 :=
          (congrArg Prod.fst htake).symm
        rw [htaken] at hc
        simpa using List.mem_takeWhile_imp hc
      · intro c hc
        refine hhead c ?_
        rw [hrest, List.head?_append, hc]
        rfl
    split at h
    · rename_i hglob
      obtain ⟨rfl, rfl⟩ := Prod.mk.inj (Outcome.ok.inj h)
      exact ⟨⟨hname, hglob⟩, hrest⟩
    · rename_i hglob
      obtain ⟨rfl, rfl⟩ := Prod.mk.inj (Outcome.ok.inj h)
      exact ⟨⟨hname, Bool.eq_false_iff.mpr hglob⟩, hrest⟩

lemma parseToolPart_ok (h : parseToolPart lib cursor = .ok (tool, cursor'))
    (hhead : ∀ c, cursor.rest.head? = some c → isWhiteSpace c = false) :
    tool.Shaped lib ∧ cursor.rest = tool.display lib ++ cursor'.rest := by
  have hskip : cursor.skipWhitespace.rest = cursor.rest := by
    cases hr : cursor.rest with
    | nil =>
      rw [Cursor.skipWhitespace_rest, hr]
      rfl
    | cons c rest =>
      refine Cursor.skipWhitespace_of_rest hr ?_
      rw [Bool.eq_false_iff]
      intro hc
      have hwhite := whiteSpace_of_ascii hc
      rw [hhead c (by rw [hr]; rfl)] at hwhite
      cases hwhite
  simp only [parseToolPart] at h
  split at h
  · rename_i hslash
    rw [← hskip, Cursor.rest_of_peek hslash]
    exact parseRegexTool_ok h
  · rename_i hslash
    rw [← hskip]
    refine parseNamedTool_ok h ?_
    intro c hc
    refine ⟨?_, hhead c (by rw [← hskip]; exact hc)⟩
    rintro rfl
    exact hslash hc

variable {rest : List Char}

lemma parseRegexTool_display {re : R} (hs : RegexShaped lib re)
    (hr : cursor.rest = lib.asStr re ++ '/' :: rest) :
    ∃ cursor', parseRegexTool lib cursor = .ok (.regex re, cursor') ∧ cursor'.rest = rest := by
  have hslash : (cursor.advance (lib.asStr re).length).rest = '/' :: rest := by
    rw [Cursor.advance_rest, hr, List.drop_left]
  obtain ⟨cursor', hexpect, hrest⟩ := Cursor.expect_of_rest hslash (by decide)
  have hne : (lib.asStr re).isEmpty = false := List.isEmpty_eq_false_iff.mpr hs.nonempty
  refine ⟨cursor', ?_, hrest⟩
  simp only [parseRegexTool, hr, hs.scanned rest, hne, hexpect, hs.compiled]
  rfl

lemma parseNamedTool_display {name : List Char} (hs : NameShaped name)
    (hr : cursor.rest = name ++ rest) (hrest : rest = [] ∨ ∃ text, rest = '(' :: text) :
    ∃ cursor', (parseNamedTool cursor : Outcome PatternParseError (ToolMatcher R × Cursor)) =
      .ok (if hasGlobChars name then .glob name else .exact name, cursor') ∧ cursor'.rest = rest := by
  have hall : ∀ c ∈ name, (!(decide (c = '(') || isAsciiWhitespace c)) = true := by
    intro c hc
    simp [hs.inside c hc]
  have htake : cursor.rest.takeWhile (fun c => !(decide (c = '(') || isAsciiWhitespace c)) = name := by
    rw [hr, List.takeWhile_append_of_pos hall]
    rcases hrest with rfl | ⟨text, rfl⟩
    · simp
    · simp
  have hdrop : (cursor.advance name.length).rest = rest := by
    rw [Cursor.advance_rest, hr, List.drop_left]
  refine ⟨cursor.advance name.length, ?_, hdrop⟩
  have hne : name.isEmpty = false := List.isEmpty_eq_false_iff.mpr hs.nonempty
  simp only [parseNamedTool, Cursor.takeWhile, htake, hne, Bool.false_eq_true, if_false]
  cases hasGlobChars name <;> rfl

lemma parseToolPart_display (hs : tool.Shaped lib) (hr : cursor.rest = tool.display lib ++ rest)
    (hrest : rest = [] ∨ ∃ text, rest = '(' :: text) :
    ∃ cursor', parseToolPart lib cursor = .ok (tool, cursor') ∧ cursor'.rest = rest := by
  have hnamed : ∀ name : List Char, NameShaped name → cursor.rest = name ++ rest →
      ∃ cursor', parseToolPart lib cursor =
        .ok (if hasGlobChars name then .glob name else .exact name, cursor') ∧
          cursor'.rest = rest := by
    intro name hname hr
    obtain ⟨c, text, htext⟩ := List.exists_cons_of_ne_nil hname.nonempty
    have hhead : name.head? = some c := by rw [htext]; rfl
    have hr' : cursor.rest = c :: (text ++ rest) := by rw [hr, htext]; rfl
    have hc : c ∈ name := List.mem_of_mem_head? hhead
    have hskip := Cursor.skipWhitespace_of_rest hr' (hname.inside c hc).2
    obtain ⟨cursor', hparse, hcursor'⟩ :=
      parseNamedTool_display (R := R) hname ((hskip.trans hr'.symm).trans hr) hrest
    refine ⟨cursor', ?_, hcursor'⟩
    rw [parseToolPart, if_neg, hparse]
    rw [Cursor.peek_of_rest hskip]
    exact fun h => (hname.head c hhead).1 (Option.some.inj h)
  cases tool with
  | exact name =>
    obtain ⟨hname, hglob⟩ := hs
    simpa [hglob] using hnamed name hname hr
  | glob name =>
    obtain ⟨hname, hglob⟩ := hs
    simpa [hglob] using hnamed name hname hr
  | regex re =>
    have hr' : cursor.rest = '/' :: (lib.asStr re ++ '/' :: rest) := by
      rw [hr, ToolMatcher.display]
      simp
    have hskip := Cursor.skipWhitespace_of_rest hr' (by decide)
    have hbody : (cursor.skipWhitespace.advance 1).rest = lib.asStr re ++ '/' :: rest := by
      rw [Cursor.advance_rest, hskip]
      rfl
    obtain ⟨cursor', hparse, hcursor'⟩ := parseRegexTool_display hs hbody
    refine ⟨cursor', ?_, hcursor'⟩
    rw [parseToolPart, if_pos (Cursor.peek_of_rest hskip), hparse]

end Tool

section Paths

variable {cursor cursor' : Cursor} {segment : PathSegment} {path : List PathSegment} {fuel : Nat}

lemma parseIdentifier_ok {ident : List Char} (h : parseIdentifier cursor = .ok (ident, cursor')) :
    ident ≠ [] ∧ (∀ c ∈ ident, isIdentifierChar c = true) ∧
      cursor.rest = ident ++ cursor'.rest := by
  have hrest := Cursor.takeWhile_append cursor isIdentifierChar
  simp only [parseIdentifier] at h
  split at h
  · cases h
  · rename_i hne
    obtain ⟨rfl, rfl⟩ := Prod.mk.inj (Except.ok.inj h)
    exact ⟨fun hnil => hne (List.isEmpty_iff.mpr hnil),
      fun c hc => List.mem_takeWhile_imp hc, hrest.symm⟩

lemma parseName_ok (h : parseName cursor = .ok (segment, cursor')) :
    segment.isNamed = true ∧ segment.Shaped ∧
      cursor.skipWhitespace.rest = segment.display ++ cursor'.rest := by
  simp only [parseName] at h
  split at h
  · rename_i hstar
    obtain ⟨rfl, rfl⟩ := Prod.mk.inj (Except.ok.inj h)
    exact ⟨rfl, trivial, Cursor.rest_of_peek hstar⟩
  · obtain ⟨⟨ident, cursor₁⟩, hident, h⟩ := bind_ok h
    obtain ⟨rfl, rfl⟩ := Prod.mk.inj (Except.ok.inj h)
    obtain ⟨hne, hall, hrest⟩ := parseIdentifier_ok hident
    exact ⟨rfl, ⟨hne, hall⟩, hrest⟩

lemma parseUsize_ok {i : Nat} (h : parseUsize cursor = .ok (i, cursor')) :
    i ≤ usizeMax ∧ ∃ digits, ']' ∉ digits ∧ cursor.rest = digits ++ cursor'.rest := by
  have hrest := Cursor.takeWhile_append cursor Char.isDigit
  simp only [parseUsize] at h
  split at h
  · cases h
  · rename_i hle
    obtain ⟨rfl, rfl⟩ := Prod.mk.inj (Except.ok.inj h)
    refine ⟨Nat.not_lt.mp (fun hlt => hle (.inr hlt)), _, ?_, hrest.symm⟩
    intro hmem
    exact absurd (List.mem_takeWhile_imp hmem) (by decide)

lemma skipWhitespace_split (cursor : Cursor) :
    ∃ blanks, ']' ∉ blanks ∧ cursor.rest = blanks ++ cursor.skipWhitespace.rest := by
  refine ⟨cursor.rest.takeWhile isAsciiWhitespace, ?_, ?_⟩
  · intro hmem
    exact absurd (List.mem_takeWhile_imp hmem) (by decide)
  · rw [Cursor.skipWhitespace_rest]
    exact List.takeWhile_append_dropWhile.symm

lemma parseIndex_ok (h : parseIndex cursor = .ok (segment, cursor')) :
    segment.isNamed = false ∧ segment.Shaped ∧
      ∃ inner, ']' ∉ inner ∧ cursor.rest = inner ++ ']' :: cursor'.rest := by
  obtain ⟨blanks, hblanks, hr⟩ := skipWhitespace_split cursor
  have hclose : ∀ {cursor₁ : Cursor}, cursor₁.expect ']' = .ok cursor' →
      ∃ inner, ']' ∉ inner ∧ cursor₁.rest = inner ++ ']' :: cursor'.rest := by
    intro cursor₁ hexpect
    obtain ⟨blanks, hblanks, hr⟩ := skipWhitespace_split cursor₁
    exact ⟨blanks, hblanks, by rw [hr, Cursor.expect_ok hexpect]⟩
  simp only [parseIndex] at h
  split at h
  · rename_i hstar
    obtain ⟨cursor₁, hexpect, h⟩ := bind_ok h
    obtain ⟨rfl, rfl⟩ := Prod.mk.inj (Except.ok.inj h)
    obtain ⟨inner, hinner, hr₁⟩ := hclose hexpect
    refine ⟨rfl, trivial, blanks ++ '*' :: inner, ?_, ?_⟩
    · simp [hblanks, hinner]
    · rw [hr, Cursor.rest_of_peek hstar, hr₁]
      simp
  · obtain ⟨⟨i, cursor₁⟩, husize, h⟩ := bind_ok h
    obtain ⟨cursor₂, hexpect, h⟩ := bind_ok h
    obtain ⟨rfl, rfl⟩ := Prod.mk.inj (Except.ok.inj h)
    obtain ⟨hi, digits, hdigits, hr₁⟩ := parseUsize_ok husize
    obtain ⟨inner, hinner, hr₂⟩ := hclose hexpect
    refine ⟨rfl, hi, blanks ++ digits ++ inner, ?_, ?_⟩
    · simp [hblanks, hdigits, hinner]
    · rw [hr, hr₁, hr₂]
      simp

lemma parseIndices_ok (h : parseIndices fuel cursor = .ok (path, cursor')) :
    (∀ segment ∈ path, segment.isNamed = false ∧ segment.Shaped) ∧
      skipPath false cursor.rest = skipPath false cursor'.rest := by
  induction fuel generalizing cursor path with
  | zero =>
    obtain ⟨rfl, rfl⟩ := Prod.mk.inj (Except.ok.inj h)
    exact ⟨fun _ hmem => absurd hmem List.not_mem_nil, rfl⟩
  | succ fuel ih =>
    simp only [parseIndices] at h
    split at h
    · rename_i hopen
      obtain ⟨⟨segment, cursor₁⟩, hindex, h⟩ := bind_ok h
      obtain ⟨⟨segments, cursor₂⟩, hloop, h⟩ := bind_ok h
      obtain ⟨rfl, rfl⟩ := Prod.mk.inj (Except.ok.inj h)
      obtain ⟨hn, hs, inner, hinner, hr⟩ := parseIndex_ok hindex
      obtain ⟨hall, hskip⟩ := ih hloop
      refine ⟨List.forall_mem_cons.mpr ⟨⟨hn, hs⟩, hall⟩, ?_⟩
      rw [Cursor.rest_of_peek hopen, hr, skipPath_bracket, skipPath_inner hinner, hskip]
    · obtain ⟨rfl, rfl⟩ := Prod.mk.inj (Except.ok.inj h)
      exact ⟨fun _ hmem => absurd hmem List.not_mem_nil, rfl⟩

lemma parseFieldPathLoop_cons (h : parseFieldPathLoop (fuel + 1) cursor = .ok (path, cursor')) :
    ∃ segment cursor₁ indices cursor₂ segments, parseName cursor = .ok (segment, cursor₁) ∧
      parseIndices cursor₁.rest.length cursor₁ = .ok (indices, cursor₂) ∧
      path = segment :: indices ++ segments ∧
      (segments = [] ∨ (cursor₂.peek = some '.' ∧
        parseFieldPathLoop fuel (cursor₂.advance 1) = .ok (segments, cursor'))) := by
  simp only [parseFieldPathLoop] at h
  obtain ⟨⟨segment, cursor₁⟩, hname, h⟩ := bind_ok h
  obtain ⟨⟨indices, cursor₂⟩, hindices, h⟩ := bind_ok h
  dsimp only at h
  split at h
  · rename_i hdot
    obtain ⟨⟨segments, cursor₃⟩, hloop, h⟩ := bind_ok h
    obtain ⟨rfl, rfl⟩ := Prod.mk.inj (Except.ok.inj h)
    exact ⟨segment, cursor₁, indices, cursor₂, segments, hname, hindices, rfl, .inr ⟨hdot, hloop⟩⟩
  · obtain ⟨rfl, rfl⟩ := Prod.mk.inj (Except.ok.inj h)
    exact ⟨segment, cursor₁, indices, cursor₂, [], hname, hindices, by simp, .inl rfl⟩

lemma parseFieldPathLoop_shaped (h : parseFieldPathLoop fuel cursor = .ok (path, cursor')) :
    ∀ segment ∈ path, segment.Shaped := by
  induction fuel generalizing cursor path with
  | zero =>
    obtain ⟨rfl, -⟩ := Prod.mk.inj (Except.ok.inj h)
    exact fun _ hmem => absurd hmem List.not_mem_nil
  | succ fuel ih =>
    obtain ⟨segment, cursor₁, indices, cursor₂, segments, hname, hindices, rfl, hrest⟩ :=
      parseFieldPathLoop_cons h
    have hsegments : ∀ s ∈ segments, s.Shaped := by
      rcases hrest with rfl | ⟨-, hloop⟩
      · exact fun _ hmem => absurd hmem List.not_mem_nil
      · exact ih hloop
    intro s hmem
    rcases List.mem_append.mp hmem with hmem | hmem
    · rcases List.mem_cons.mp hmem with rfl | hmem
      · exact (parseName_ok hname).2.1
      · exact ((parseIndices_ok hindices).1 s hmem).2
    · exact hsegments s hmem

lemma parseFieldPath_ok (h : parseFieldPath cursor = .ok (path, cursor')) : PathShaped path := by
  obtain ⟨segment, cursor₁, indices, cursor₂, segments, hname, -, rfl, -⟩ :=
    parseFieldPathLoop_cons h
  exact ⟨⟨segment, indices ++ segments, rfl, (parseName_ok hname).1⟩, parseFieldPathLoop_shaped h⟩

lemma startsWithOp_stop {c : Char} (ht : c ≠ '~') (he : c ≠ '=') (hb : c ≠ '!') (s : List Char) :
    startsWithOp (c :: s) = false := by
  rw [startsWithOp_cons]
  simp [ht, he, hb]

lemma parseName_noDash (h : parseName cursor = .ok (segment, cursor'))
    (hl : startsWithOp ((skipPath false cursor.rest).dropWhile isAsciiWhitespace) = true) :
    segment.NoDash ∧ (cursor'.rest.head? = some '.' ∨ cursor'.rest.head? = some '[' →
      skipPath false cursor.rest = skipPath false cursor'.rest) := by
  obtain ⟨hn, hs, hr⟩ := parseName_ok h
  have hp : PathShaped [segment] :=
    ⟨⟨segment, [], rfl, hn⟩, List.forall_mem_singleton.mpr hs⟩
  obtain ⟨c, text, htext, hc⟩ := displayPath_head hp
  rw [displayPath, displayTail, List.append_nil] at htext
  have hstop : ∀ s, startsWithOp (c :: s) = false := by
    refine startsWithOp_stop ?_ ?_ ?_ <;> rintro rfl <;> revert hc <;> decide
  have hr' : cursor.rest = segment.display ++ cursor'.rest := by
    rw [← hr, Cursor.skipWhitespace_rest]
    cases hcursor : cursor.rest with
    | nil => rfl
    | cons d s =>
      cases hd : isAsciiWhitespace d with
      | false => rw [List.dropWhile_cons_of_neg (by simp [hd])]
      | true =>
        have hpath : isPathChar d = false ∧ d ≠ '[' ∧ d ≠ '*' := by
          simp only [isAsciiWhitespace, Bool.or_eq_true, decide_eq_true_eq] at hd
          rcases hd with (((rfl | rfl) | rfl) | rfl) | rfl <;> decide
        rw [hcursor, skipPath_stop hpath.1 hpath.2.1 hpath.2.2, ← hcursor,
          ← Cursor.skipWhitespace_rest, hr, htext, List.cons_append, hstop] at hl
        cases hl
  rw [hr'] at hl ⊢
  cases segment with
  | index i => cases hn
  | anyIndex => cases hn
  | wildcard =>
    refine ⟨trivial, fun hhead => ?_⟩
    change skipPath false ('*' :: cursor'.rest) = _
    rw [skipPath_star, if_pos hhead]
  | field name =>
    have hdash : '-' ∉ name := by
      intro hmem
      obtain ⟨before, after, rfl, hbefore⟩ := List.eq_append_cons_of_mem hmem
      have hall : ∀ d ∈ before, isPathChar d = true := by
        intro d hd
        refine pathChar_of_identifierChar (hs.2 d (List.mem_append_left _ hd)) ?_
        rintro rfl
        exact hbefore hd
      rw [PathSegment.display, List.append_assoc, skipPath_name hall, List.cons_append,
        skipPath_stop (by decide) (by decide) (by decide),
        List.dropWhile_cons_of_neg (by decide),
        startsWithOp_stop (by decide) (by decide) (by decide)] at hl
      cases hl
    refine ⟨hdash, fun _ => skipPath_name (fun d hd => ?_) _⟩
    refine pathChar_of_identifierChar (hs.2 d hd) ?_
    rintro rfl
    exact hdash hd

lemma parseIndices_none (h : cursor.peek ≠ some '[') :
    parseIndices fuel cursor = .ok ([], cursor) := by
  cases fuel with
  | zero => rfl
  | succ fuel =>
    rw [parseIndices, if_neg h]
    rfl

lemma parseFieldPathLoop_noDash (h : parseFieldPathLoop fuel cursor = .ok (path, cursor'))
    (hl : startsWithOp ((skipPath false cursor.rest).dropWhile isAsciiWhitespace) = true) :
    ∀ segment ∈ path, segment.NoDash := by
  induction fuel generalizing cursor path with
  | zero =>
    obtain ⟨rfl, -⟩ := Prod.mk.inj (Except.ok.inj h)
    exact fun _ hmem => absurd hmem List.not_mem_nil
  | succ fuel ih =>
    obtain ⟨segment, cursor₁, indices, cursor₂, segments, hname, hindices, rfl, hrest⟩ :=
      parseFieldPathLoop_cons h
    obtain ⟨hsegment, hskip₁⟩ := parseName_noDash hname hl
    obtain ⟨hshaped, hskip₂⟩ := parseIndices_ok hindices
    have hindex : ∀ s ∈ indices, s.NoDash := by
      intro s hmem
      cases s with
      | field name => cases (hshaped _ hmem).1
      | index i => trivial
      | anyIndex => trivial
      | wildcard => trivial
    have hsegments : ∀ s ∈ segments, s.NoDash := by
      rcases hrest with rfl | ⟨hdot, hloop⟩
      · exact fun _ hmem => absurd hmem List.not_mem_nil
      · have hhead : cursor₁.rest.head? = some '.' ∨ cursor₁.rest.head? = some '[' := by
          by_cases hopen : cursor₁.peek = some '['
          · exact .inr hopen
          · rw [parseIndices_none hopen] at hindices
            rw [← (Prod.mk.inj (Except.ok.inj hindices)).2] at hdot
            exact .inl hdot
        refine ih hloop ?_
        rw [hskip₁ hhead, hskip₂, Cursor.rest_of_peek hdot, skipPath_char (by decide)] at hl
        exact hl
    intro s hmem
    rcases List.mem_append.mp hmem with hmem | hmem
    · rcases List.mem_cons.mp hmem with rfl | hmem
      · exact hsegment
      · exact hindex s hmem
    · exact hsegments s hmem

end Paths

section Primary

variable {depth : Nat} {s v w : List Char}

lemma trim_split (s : List Char) : ∃ before after, s = before ++ (trim s ++ after) ∧
    (∀ c ∈ before, isWhiteSpace c = true) ∧ ∀ c ∈ after, isWhiteSpace c = true := by
  refine ⟨s.takeWhile isWhiteSpace, (s.dropWhile isWhiteSpace).rtakeWhile isWhiteSpace, ?_,
    fun c hc => List.mem_takeWhile_imp hc, fun c hc => List.mem_rtakeWhile_imp hc⟩
  rw [trim_eq, List.rdropWhile_append_rtakeWhile, List.takeWhile_append_dropWhile]

lemma trim_behind (hw : ∀ c ∈ w, isWhiteSpace c = true) (s : List Char) :
    trim (w ++ s) = trim s := by
  rw [trim, trim, List.dropWhile_append_of_pos hw]

lemma not_paren_of_whiteSpace {c : Char} (h : isWhiteSpace c = true) : c ≠ '(' ∧ c ≠ ')' := by
  constructor <;> rintro rfl <;> revert h <;> decide

lemma scanPrimary_char {c : Char} (h : c ≠ '(' ∧ c ≠ ')') (s : List Char) :
    scanPrimary depth (c :: s) = c :: scanPrimary depth s := by
  rw [scanPrimary, if_neg h.1, if_neg h.2]

lemma scanPrimary_blank (hw : ∀ c ∈ w, isWhiteSpace c = true) (s : List Char) :
    scanPrimary depth (w ++ s) = w ++ scanPrimary depth s := by
  induction w with
  | nil => rfl
  | cons c w ih =>
    obtain ⟨hc, hw⟩ := List.forall_mem_cons.mp hw
    rw [List.cons_append, scanPrimary_char (not_paren_of_whiteSpace hc), ih hw, List.cons_append]

lemma scanPrimary_split (depth : Nat) (s : List Char) :
    ∃ rest, s = scanPrimary depth s ++ rest ∧ (rest = [] ∨ ∃ text, rest = ')' :: text) := by
  induction s generalizing depth with
  | nil => exact ⟨[], rfl, .inl rfl⟩
  | cons c s ih =>
    rw [scanPrimary]
    split
    · obtain ⟨rest, hs, hrest⟩ := ih (deeper depth)
      exact ⟨rest, congrArg _ hs, hrest⟩
    · split
      · rename_i hc
        split
        · obtain ⟨rest, hs, hrest⟩ := ih (depth - 1)
          exact ⟨rest, congrArg _ hs, hrest⟩
        · exact ⟨c :: s, rfl, .inr ⟨s, by rw [hc]⟩⟩
      · obtain ⟨rest, hs, hrest⟩ := ih depth
        exact ⟨rest, congrArg _ hs, hrest⟩

lemma scanPrimary_again {text : List Char} (hw : ∀ c ∈ w, isWhiteSpace c = true)
    (h : scanPrimary depth (v ++ (w ++ ')' :: text)) = v ++ w) (text' : List Char) :
    scanPrimary depth (v ++ ')' :: text') = v := by
  induction v generalizing depth with
  | nil =>
    rw [List.nil_append, scanPrimary_blank hw] at h
    have hnil : scanPrimary depth (')' :: text) = [] := by simpa using h
    cases depth with
    | zero => rfl
    | succ depth => cases hnil
  | cons c v ih =>
    rw [List.cons_append, scanPrimary] at h ⊢
    split at h
    · rename_i hc
      rw [if_pos hc, ih (List.cons.inj h).2]
    · rename_i hc
      rw [if_neg hc]
      split at h
      · rename_i hclose
        rw [if_pos hclose]
        split at h
        · rename_i hdepth
          rw [if_pos hdepth, ih (List.cons.inj h).2]
        · cases h
      · rename_i hclose
        rw [if_neg hclose, ih (List.cons.inj h).2]

end Primary

section Args

variable {cursor cursor' cursor'' : Cursor} {fuel : Nat} {args : ArgMatcher}

structure PrimaryShaped (value : List Char) : Prop where
  nonempty : value ≠ []
  trimmed : trim value = value
  scanned : ∀ rest, scanPrimary 0 (value ++ ')' :: rest) = value
  unlike : looksLikeFieldConditions (value ++ [')']) = false

structure ConditionsShaped (conditions : List FieldCondition) : Prop where
  nonempty : conditions ≠ []
  paths : ∀ condition ∈ conditions, PathShaped condition.path
  first : ∀ condition, conditions.head? = some condition →
    ∀ segment ∈ condition.path, segment.NoDash

def ArgMatcher.Shaped : ArgMatcher → Prop
  | .any => True
  | .primary op value => op = .glob ∧ PrimaryShaped value
  | .fields conditions => ConditionsShaped conditions

lemma primaryShaped_of_scan {s : List Char} (hs : s = scanPrimary 0 s ++ [')'])
    (hne : trim (scanPrimary 0 s) ≠ []) (hl : looksLikeFieldConditions s = false) :
    PrimaryShaped (trim (scanPrimary 0 s)) := by
  generalize hbody : scanPrimary 0 s = body at *
  obtain ⟨before, after, hsplit, hbefore, hafter⟩ := trim_split body
  have hhead : ∀ w c, (trim body ++ w).head? = some c → isWhiteSpace c = false := by
    intro w c hc
    obtain ⟨d, text, hd⟩ := List.exists_cons_of_ne_nil hne
    rw [hd] at hc
    obtain rfl := Option.some.inj hc
    exact trim_head (s := body) (by rw [hd]; rfl)
  have hlast : ∀ w c, (w ++ [')']).getLast? = some c → isWhiteSpace c = false := by
    intro w c hc
    rw [List.getLast?_concat] at hc
    obtain rfl := Option.some.inj hc
    decide
  have hs' : s = before ++ (trim body ++ (after ++ [')'])) := by
    rw [hs]
    conv_lhs => rw [hsplit]
    simp
  have hparen : ∀ c ∈ [')'], isClosing c = true := by
    simp [isClosing]
  have hclosing : ∀ c ∈ after ++ [')'], isClosing c = true := by
    intro c hc
    rcases List.mem_append.mp hc with hc | hc
    · simp [isClosing, hafter c hc]
    · exact hparen c hc
  refine ⟨hne, trim_eq_self (fun c hc => trim_head hc) (fun c hc => trim_last hc), ?_, ?_⟩
  · have hscan := hbody
    rw [hs', scanPrimary_blank hbefore] at hscan
    exact scanPrimary_again hafter (List.append_cancel_left (hscan.trans hsplit))
  · have htrim : trim s = trim body ++ (after ++ [')']) := by
      rw [hs', trim_behind hbefore]
      refine trim_eq_self (hhead _) ?_
      rw [← List.append_assoc]
      exact hlast _
    rw [looksLikeFieldConditions, htrim,
      looksLike_append (fun c hc => trim_last hc) hclosing] at hl
    rw [looksLikeFieldConditions, trim_eq_self (hhead _) (hlast _),
      looksLike_append (fun c hc => trim_last hc) hparen, hl]

lemma parsePrimaryValue_ok (h : parsePrimaryValue cursor = .ok (args, cursor'))
    (hclose : cursor'.expect ')' = .ok cursor'')
    (hend : ∀ c ∈ cursor''.rest, isAsciiWhitespace c = true)
    (hlast : ∀ c, cursor.skipWhitespace.rest.getLast? = some c → isWhiteSpace c = false)
    (hl : looksLikeFieldConditions cursor.skipWhitespace.rest = false) : args.Shaped := by
  simp only [parsePrimaryValue] at h
  split at h
  · cases h
  · rename_i hne
    obtain ⟨rfl, rfl⟩ := Prod.mk.inj (Except.ok.inj h)
    generalize hs : cursor.skipWhitespace.rest = s at *
    obtain ⟨rest, hsplit, hrest⟩ := scanPrimary_split 0 s
    have hparen := Cursor.expect_ok hclose
    rw [Cursor.skipWhitespace_rest, Cursor.advance_rest, hs] at hparen
    have hdrop := congrArg (List.drop (scanPrimary 0 s).length) hsplit
    rw [List.drop_left] at hdrop
    rw [hdrop] at hparen
    have hrest' : rest = ')' :: cursor''.rest := by
      rcases hrest with rfl | ⟨text, rfl⟩
      · cases hparen
      · rw [← hparen, List.dropWhile_cons_of_neg (by decide)]
    have hnil : cursor''.rest = [] := by
      cases hlast' : cursor''.rest.getLast? with
      | none => exact List.getLast?_eq_none_iff.mp hlast'
      | some c =>
        have hc := whiteSpace_of_ascii (hend c (List.mem_of_getLast? hlast'))
        rw [hlast c (by rw [hsplit, hrest', List.getLast?_append, List.getLast?_cons, hlast']; rfl)] at hc
        cases hc
    rw [hrest', hnil] at hsplit
    exact ⟨rfl, primaryShaped_of_scan hsplit (fun hnil => hne (List.isEmpty_iff.mpr hnil)) hl⟩

lemma parseSingleFieldCondition_ok {condition : FieldCondition}
    (h : parseSingleFieldCondition cursor = .ok (condition, cursor')) :
    ∃ cursor₁, parseFieldPath cursor.skipWhitespace = .ok (condition.path, cursor₁) := by
  simp only [parseSingleFieldCondition] at h
  obtain ⟨⟨path, cursor₁⟩, hpath, h⟩ := bind_ok h
  obtain ⟨⟨op, cursor₂⟩, -, h⟩ := bind_ok h
  obtain ⟨⟨value, cursor₃⟩, -, h⟩ := bind_ok h
  obtain ⟨rfl, -⟩ := Prod.mk.inj (Except.ok.inj h)
  exact ⟨cursor₁, hpath⟩

lemma parseFieldConditionsLoop_cons {conditions : List FieldCondition}
    (h : parseFieldConditionsLoop (fuel + 1) cursor = .ok (conditions, cursor')) :
    ∃ condition cursor₁ others, conditions = condition :: others ∧
      parseFieldPath cursor.skipWhitespace.skipWhitespace = .ok (condition.path, cursor₁) ∧
      (others = [] ∨ ∃ cursor₂, parseFieldConditionsLoop fuel cursor₂ = .ok (others, cursor')) := by
  simp only [parseFieldConditionsLoop] at h
  obtain ⟨⟨condition, cursor₁⟩, hsingle, h⟩ := bind_ok h
  obtain ⟨cursor₂, hpath⟩ := parseSingleFieldCondition_ok hsingle
  dsimp only at h
  split at h
  · obtain ⟨⟨others, cursor₃⟩, hloop, h⟩ := bind_ok h
    obtain ⟨rfl, rfl⟩ := Prod.mk.inj (Except.ok.inj h)
    exact ⟨condition, cursor₂, others, rfl, hpath, .inr ⟨_, hloop⟩⟩
  · obtain ⟨rfl, rfl⟩ := Prod.mk.inj (Except.ok.inj h)
    exact ⟨condition, cursor₂, [], rfl, hpath, .inl rfl⟩

lemma parseFieldConditionsLoop_paths {conditions : List FieldCondition}
    (h : parseFieldConditionsLoop fuel cursor = .ok (conditions, cursor')) :
    ∀ condition ∈ conditions, PathShaped condition.path := by
  induction fuel generalizing cursor conditions with
  | zero =>
    obtain ⟨rfl, -⟩ := Prod.mk.inj (Except.ok.inj h)
    exact fun _ hmem => absurd hmem List.not_mem_nil
  | succ fuel ih =>
    obtain ⟨condition, cursor₁, others, rfl, hpath, hrest⟩ := parseFieldConditionsLoop_cons h
    refine List.forall_mem_cons.mpr ⟨parseFieldPath_ok hpath, ?_⟩
    rcases hrest with rfl | ⟨cursor₂, hloop⟩
    · exact fun _ hmem => absurd hmem List.not_mem_nil
    · exact ih hloop

lemma parseFieldPath_head {path : List PathSegment} (h : parseFieldPath cursor = .ok (path, cursor'))
    (hskip : cursor.skipWhitespace.rest = cursor.rest) :
    ∀ c, cursor.rest.head? = some c → isWhiteSpace c = false := by
  obtain ⟨segment, cursor₁, indices, cursor₂, segments, hname, -⟩ := parseFieldPathLoop_cons h
  obtain ⟨hn, hs, hr⟩ := parseName_ok hname
  have hp : PathShaped [segment] :=
    ⟨⟨segment, [], rfl, hn⟩, List.forall_mem_singleton.mpr hs⟩
  obtain ⟨d, text, htext, hd⟩ := displayPath_head hp
  rw [displayPath, displayTail, List.append_nil] at htext
  intro c hc
  rw [← hskip, hr, htext] at hc
  obtain rfl := Option.some.inj hc
  rcases hd with rfl | hd
  · decide
  · exact not_whiteSpace_of_identifierChar hd

lemma parseFieldConditions_ok (h : parseFieldConditions cursor = .ok (args, cursor'))
    (hskip : cursor.skipWhitespace.rest = cursor.rest)
    (hlast : ∀ c, cursor.rest.getLast? = some c → isWhiteSpace c = false)
    (hl : looksLikeFieldConditions cursor.rest = true) : args.Shaped := by
  simp only [parseFieldConditions] at h
  obtain ⟨⟨conditions, cursor₁⟩, hloop, h⟩ := bind_ok h
  obtain ⟨rfl, rfl⟩ := Prod.mk.inj (Except.ok.inj h)
  obtain ⟨condition, cursor₂, others, rfl, hpath, -⟩ := parseFieldConditionsLoop_cons hloop
  have hstart : cursor.skipWhitespace.skipWhitespace.rest = cursor.rest := by
    rw [Cursor.skipWhitespace_rest, hskip, ← Cursor.skipWhitespace_rest, hskip]
  have hskip' : cursor.skipWhitespace.skipWhitespace.skipWhitespace.rest =
      cursor.skipWhitespace.skipWhitespace.rest := by
    rw [Cursor.skipWhitespace_rest, hstart, ← Cursor.skipWhitespace_rest, hskip]
  have hhead := parseFieldPath_head hpath hskip'
  rw [hstart] at hhead
  rw [looksLikeFieldConditions, trim_eq_self hhead hlast, ← hstart] at hl
  refine ⟨List.cons_ne_nil _ _, parseFieldConditionsLoop_paths hloop, ?_⟩
  intro first hfirst
  obtain rfl := Option.some.inj hfirst
  exact parseFieldPathLoop_noDash hpath hl

lemma skipWhitespace_idem (cursor : Cursor) :
    cursor.skipWhitespace.skipWhitespace.rest = cursor.skipWhitespace.rest := by
  rw [Cursor.skipWhitespace_rest, Cursor.skipWhitespace_rest, List.dropWhile_idempotent]

lemma parseArgPart_ok (h : parseArgPart cursor = .ok (args, cursor'))
    (hclose : cursor'.expect ')' = .ok cursor'')
    (hend : ∀ c ∈ cursor''.rest, isAsciiWhitespace c = true)
    (hlast : ∀ c, cursor.skipWhitespace.rest.getLast? = some c → isWhiteSpace c = false) :
    args.Shaped := by
  simp only [parseArgPart] at h
  split at h
  · obtain ⟨rfl, -⟩ := Prod.mk.inj (Except.ok.inj h)
    trivial
  · split at h
    · rename_i hl
      exact parseFieldConditions_ok h (skipWhitespace_idem cursor) hlast hl
    · rename_i hl
      have hidem := skipWhitespace_idem cursor
      refine parsePrimaryValue_ok h hclose hend ?_ ?_
      · rw [hidem]
        exact hlast
      · rw [hidem]
        exact Bool.eq_false_iff.mpr hl

end Args

section Pattern

variable {R : Type} {lib : RegexLib R} {input : List Char} {pattern : ToolCallPattern R}

structure ToolCallPattern.Shaped (lib : RegexLib R) (p : ToolCallPattern R) : Prop where
  tool : p.tool.Shaped lib
  args : p.args.Shaped

theorem parsePattern_shaped (h : parsePattern lib input = .ok pattern) :
    pattern.Shaped lib ∧ ∃ rest, trim input = pattern.tool.display lib ++ rest := by
  simp only [parsePattern] at h
  cases htool : parseToolPart lib (.new (trim input)) with
  | panic =>
    rw [htool] at h
    cases h
  | err e =>
    rw [htool] at h
    cases h
  | ok read =>
    obtain ⟨tool, cursor⟩ := read
    rw [htool] at h
    dsimp only at h
    obtain ⟨hshaped, hsplit⟩ := parseToolPart_ok htool (fun c hc => trim_head hc)
    change trim input = _ at hsplit
    cases hargs : parseArgs cursor.skipWhitespace with
    | error e =>
      rw [hargs] at h
      cases h
    | ok read =>
      obtain ⟨args, cursor'⟩ := read
      rw [hargs] at h
      dsimp only at h
      split at h
      · rename_i hempty
        obtain rfl := Outcome.ok.inj h
        refine ⟨⟨hshaped, ?_⟩, cursor.rest, hsplit⟩
        simp only [parseArgs] at hargs
        split at hargs
        · rename_i hopen
          obtain ⟨⟨args', cursor₁⟩, hpart, hargs⟩ := bind_ok hargs
          obtain ⟨cursor₂, hclose, hargs⟩ := bind_ok hargs
          obtain ⟨rfl, rfl⟩ := Prod.mk.inj (Except.ok.inj hargs)
          refine parseArgPart_ok hpart hclose ?_ ?_
          · rw [Cursor.isEmpty, Cursor.skipWhitespace_rest] at hempty
            exact List.dropWhile_eq_nil_iff.mp (List.isEmpty_iff.mp hempty)
          · intro c hc
            have hsuffix : (cursor.skipWhitespace.advance 1).skipWhitespace.rest <:+ trim input := by
              refine (Cursor.skipWhitespace_suffix _).trans ?_
              refine (List.drop_suffix 1 _).trans ?_
              refine (Cursor.skipWhitespace_suffix _).trans ?_
              rw [hsplit]
              exact List.suffix_append _ _
            obtain ⟨before, hbefore⟩ := hsuffix
            refine trim_last (s := input) ?_
            rw [← hbefore, List.getLast?_append, hc]
            rfl
        · obtain ⟨rfl, -⟩ := Prod.mk.inj (Except.ok.inj hargs)
          trivial
      · cases h

end Pattern

end Awaken.ToolPattern
