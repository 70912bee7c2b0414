import Awaken.ToolPattern.Offsets

namespace Awaken.ToolPattern

open Awaken.Lib Awaken.Lib.Text

inductive ReadsOn : Nat → List Char → Nat → Prop where
  | nil {depth : Nat} : ReadsOn depth [] depth
  | escape {depth depth' : Nat} {d : Char} {body : List Char} (hd : d.utf8Size = 1)
      (h : ReadsOn depth body depth') : ReadsOn depth ('\\' :: d :: body) depth'
  | char {depth depth' : Nat} {c : Char} {body : List Char} (hb : c ≠ '\\')
      (hs : ¬(c = '/' ∧ depth = 0)) (h : ReadsOn (behind depth c) body depth') :
      ReadsOn depth (c :: body) depth'

/-- A regex is given in whose body a backslash stands before a character of several bytes. -/
def EscapesWide (text : List Char) : Prop :=
  ∃ body d rest depth, text = '/' :: (body ++ '\\' :: d :: rest) ∧ ReadsOn 0 body depth ∧
    d.utf8Size ≠ 1

/-- A run that returns and touches no offset but those between two characters. -/
structure StaysOnBoundaries {α : Type} (text : List Char)
    (run : Except Bytes.Fault α × Bytes.Cursor) : Prop where
  returns : run.1 ≠ .error .panic
  offsets : ∀ offset ∈ run.2.touched, IsCharBoundary text offset

section Scan

variable {depth depth' : Nat} {body rest : List Char} {d : Char}

lemma ReadsOn.scanRegex_none (h : ReadsOn depth body depth') (hd : d.utf8Size ≠ 1) :
    scanRegex depth (body ++ '\\' :: d :: rest) = none := by
  induction h with
  | nil => rw [List.nil_append, scanRegex_escape, if_neg hd]
  | escape he _ ih =>
    rw [List.cons_append, List.cons_append, scanRegex_escape, if_pos he, ih, Option.map_none]
  | char hb hs _ ih => rw [List.cons_append, scanRegex_char hb hs, ih, Option.map_none]

lemma scanRegex_eq_none {t : List Char} : scanRegex depth t = none ↔
    ∃ body d rest depth', t = body ++ '\\' :: d :: rest ∧ ReadsOn depth body depth' ∧
      d.utf8Size ≠ 1 := by
  constructor
  · intro h
    induction hl : t.length using Nat.strong_induction_on generalizing t depth with
    | _ l ih =>
      cases t with
      | nil =>
        rw [scanRegex_nil] at h
        cases h
      | cons c t =>
        by_cases hb : c = '\\'
        · subst hb
          cases t with
          | nil =>
            rw [scanRegex_last] at h
            cases h
          | cons e t =>
            rw [scanRegex_escape] at h
            by_cases he : e.utf8Size = 1
            · rw [if_pos he] at h
              have hlt : t.length < l := by
                rw [← hl, List.length_cons, List.length_cons]
                omega
              obtain ⟨body, d, rest, depth', rfl, hbody, hd⟩ :=
                ih t.length hlt (Option.map_eq_none_iff.mp h) rfl
              exact ⟨'\\' :: e :: body, d, rest, depth', rfl, .escape he hbody, hd⟩
            · exact ⟨[], e, t, depth, rfl, .nil, he⟩
        · by_cases hs : c = '/' ∧ depth = 0
          · obtain ⟨rfl, rfl⟩ := hs
            rw [scanRegex_slash] at h
            cases h
          · rw [scanRegex_char hb hs] at h
            have hlt : t.length < l := by
              rw [← hl, List.length_cons]
              omega
            obtain ⟨body, d, rest, depth', rfl, hbody, hd⟩ :=
              ih t.length hlt (Option.map_eq_none_iff.mp h) rfl
            exact ⟨c :: body, d, rest, depth', rfl, .char hb hs hbody, hd⟩
  · rintro ⟨body, d, rest, depth', rfl, hbody, hd⟩
    exact hbody.scanRegex_none hd

end Scan

section Whole

variable {R : Type} (lib : RegexLib R) (input : List Char)

lemma parseRegexTool_panic {lib : RegexLib R} {c : Cursor} :
    parseRegexTool lib c = .panic ↔ scanRegex 0 c.rest = none := by
  rw [parseRegexTool]
  cases hscan : scanRegex 0 c.rest with
  | none => simp
  | some scanned =>
    refine iff_of_false ?_ (fun h => by cases h)
    dsimp only
    split
    · exact fun h => by cases h
    · split
      · exact fun h => by cases h
      · split <;> exact fun h => by cases h

lemma parseToolPart_panic {lib : RegexLib R} {c : Cursor} :
    parseToolPart lib c = .panic ↔
      ∃ t, c.skipWhitespace.rest = '/' :: t ∧ scanRegex 0 t = none := by
  rw [parseToolPart]
  by_cases hslash : c.skipWhitespace.peek = some '/'
  · have hrest := Cursor.rest_of_peek hslash
    rw [if_pos hslash, parseRegexTool_panic]
    constructor
    · exact fun h => ⟨_, hrest, h⟩
    · rintro ⟨t, ht, h⟩
      rw [hrest] at ht
      rwa [(List.cons.inj ht).2]
  · rw [if_neg hslash]
    refine iff_of_false ?_ ?_
    · rw [parseNamedTool]
      dsimp only
      split
      · exact fun h => by cases h
      · split <;> exact fun h => by cases h
    · rintro ⟨t, ht, -⟩
      exact hslash (Cursor.peek_of_rest ht)

lemma skipWhitespace_trim (input : List Char) :
    (Cursor.new (trim input)).skipWhitespace.rest = trim input := by
  rw [Cursor.skipWhitespace_rest]
  refine List.dropWhile_eq_self_iff.mpr (fun hpos hw => ?_)
  have hhead := trim_head (List.head?_eq_getElem? ▸ List.getElem?_eq_getElem hpos)
  rw [whiteSpace_of_ascii hw] at hhead
  cases hhead

lemma parsePattern_panic : parsePattern lib input = .panic ↔ EscapesWide (trim input) := by
  have htool : parseToolPart lib (.new (trim input)) = .panic ↔ _ := parseToolPart_panic
  rw [skipWhitespace_trim] at htool
  have hpanic : parsePattern lib input = .panic ↔
      parseToolPart lib (.new (trim input)) = .panic := by
    rw [parsePattern]
    cases parseToolPart lib (.new (trim input)) with
    | panic => simp
    | err e => simp
    | ok read =>
      refine iff_of_false ?_ (fun h => by cases h)
      dsimp only
      split
      · exact fun h => by cases h
      · split <;> exact fun h => by cases h
  rw [hpanic, htool]
  constructor
  · rintro ⟨t, ht, hscan⟩
    obtain ⟨body, d, rest, depth, rfl, hbody, hd⟩ := (scanRegex_eq_none).mp hscan
    exact ⟨body, d, rest, depth, ht, hbody, hd⟩
  · rintro ⟨body, d, rest, depth, ht, hbody, hd⟩
    exact ⟨_, ht, hbody.scanRegex_none hd⟩

theorem parse_stays_on_boundaries :
    StaysOnBoundaries (trim input) (Bytes.parsePattern lib input) ↔ ¬EscapesWide (trim input) := by
  obtain ⟨r, hr, hfollows⟩ := follows_parseWhole lib input
  have hstart : Stands (trim input) (.new (trim input)) (.new (trim input)) :=
    ⟨rfl, rfl, sliceFrom_zero _, List.forall_mem_nil _⟩
  have hrun : Agrees (trim input) (Bytes.parsePattern lib input) r := hfollows _ hstart
  rw [← parsePattern_panic lib, ← hr]
  cases r with
  | ok read =>
    obtain ⟨hvalue, hstands⟩ := hrun
    refine iff_of_true ⟨fun h => ?_, hstands.touched⟩ (fun h => by cases h)
    rw [hvalue] at h
    cases h
  | err e =>
    obtain ⟨herror, htouched⟩ := hrun
    refine iff_of_true ⟨fun h => ?_, htouched⟩ (fun h => by cases h)
    rw [herror] at h
    cases h
  | panic => exact iff_of_false (fun h => h.returns hrun) (fun h => h rfl)

lemma kept_text {text r : List Char}
    (h : (Except.ok text : Except String (List Char)) = .ok r) : r = text := by
  cases h
  rfl

def anyRegex : RegexLib (List Char) := ⟨.ok, id, fun _ _ => kept_text⟩

def escapedAccent : List Char := ['/', '\\', 'é', '/']

theorem escaped_accent_panics :
    ¬StaysOnBoundaries (trim escapedAccent) (Bytes.parsePattern anyRegex escapedAccent) :=
  fun h => h.returns rfl

end Whole

end Awaken.ToolPattern
