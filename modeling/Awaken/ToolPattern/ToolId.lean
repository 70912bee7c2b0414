import Mathlib.Data.Prod.Lex
import Awaken.Lib.Glob
import Awaken.ToolPattern.Matcher

namespace Awaken.ToolPattern

open Lib (GlobToken Splits globTokens utf8Bytes)

inductive ToolIdPatternError where
  | empty
  | danglingEscape
  deriving DecidableEq

def escapeByte : UInt8 := 92

section Loop

variable (p v : List UInt8)

structure GlobCursor where
  pi : Nat
  vi : Nat
  starPi : Option Nat
  starVi : Nat
  starVi_le : starVi ≤ vi

def GlobCursor.start : GlobCursor := ⟨0, 0, none, 0, le_rfl⟩

def GlobCursor.advance (c : GlobCursor) (width : Nat) : GlobCursor :=
  { c with pi := c.pi + width, vi := c.vi + 1, starVi_le := Nat.le_succ_of_le c.starVi_le }

def GlobCursor.star (c : GlobCursor) : GlobCursor := ⟨c.pi + 1, c.vi, some c.pi, c.vi, le_rfl⟩

def GlobCursor.backtrack (c : GlobCursor) : Option GlobCursor :=
  c.starPi.map fun sp => ⟨sp + 1, c.starVi + 1, some sp, c.starVi + 1, le_rfl⟩

/-- One round of the loop; `none` is its early return. -/
def GlobCursor.round (c : GlobCursor) (hv : c.vi < v.length) : Option GlobCursor :=
  if hp : c.pi < p.length then
    if hescape : p[c.pi] = escapeByte ∧ c.pi + 1 < p.length then
      if p[c.pi + 1] = v[c.vi] then some (c.advance 2) else c.backtrack
    else if p[c.pi] = starByte then some c.star
    else if p[c.pi] = v[c.vi] then some (c.advance 1)
    else c.backtrack
  else c.backtrack

def skipStars (pi : Nat) : Nat :=
  if hp : pi < p.length then
    if p[pi] = starByte then skipStars (pi + 1) else pi
  else pi
termination_by p.length - pi

variable {p v}

abbrev byteGlob : List UInt8 → Option (List (GlobToken UInt8)) := globTokens escapeByte starByte

theorem byteGlob_drop_escape {pi : Nat} (hp : pi + 1 < p.length) (hescape : p[pi] = escapeByte) :
    byteGlob (p.drop pi) = (byteGlob (p.drop (pi + 2))).map (.one p[pi + 1] :: ·) := by
  rw [List.drop_eq_getElem_cons (by omega), List.drop_eq_getElem_cons hp, hescape]
  exact Lib.globTokens_escape _ _

theorem byteGlob_drop_star {pi : Nat} (hp : pi < p.length) (hstar : p[pi] = starByte) :
    byteGlob (p.drop pi) = (byteGlob (p.drop (pi + 1))).map (.any :: ·) := by
  rw [List.drop_eq_getElem_cons hp, hstar]
  exact Lib.globTokens_star (by decide) _

theorem byteGlob_drop_one {pi : Nat} {tokens : List (GlobToken UInt8)} (hp : pi < p.length)
    (hescape : ¬ (p[pi] = escapeByte ∧ pi + 1 < p.length)) (hstar : p[pi] ≠ starByte)
    (h : byteGlob (p.drop pi) = some tokens) :
    byteGlob (p.drop pi) = (byteGlob (p.drop (pi + 1))).map (.one p[pi] :: ·) := by
  have hne : p[pi] ≠ escapeByte := by
    intro heq
    -- the pattern would end in an escape of nothing
    have hend : p.drop (pi + 1) = [] := List.drop_eq_nil_of_le (by have := mt (And.intro heq) hescape; omega)
    rw [List.drop_eq_getElem_cons hp, hend, heq] at h
    cases h
  rw [List.drop_eq_getElem_cons hp]
  exact Lib.globTokens_one hne hstar _

theorem GlobCursor.round_cases (c : GlobCursor) (hv : c.vi < v.length) :
    (∃ width, c.pi + width ≤ p.length ∧ c.round p v hv = some (c.advance width) ∧
      ∀ tokens, byteGlob (p.drop c.pi) = some tokens →
        ∃ rest, byteGlob (p.drop (c.pi + width)) = some rest ∧ tokens = .one v[c.vi] :: rest) ∨
    (c.pi < p.length ∧ c.round p v hv = some c.star ∧
      ∀ tokens, byteGlob (p.drop c.pi) = some tokens →
        ∃ rest, byteGlob (p.drop (c.pi + 1)) = some rest ∧ tokens = .any :: rest) ∨
    (c.round p v hv = c.backtrack ∧
      ∀ tokens, byteGlob (p.drop c.pi) = some tokens → ¬ Splits tokens (v.drop c.vi)) := by
  have hdrop : v.drop c.vi = v[c.vi] :: v.drop (c.vi + 1) := List.drop_eq_getElem_cons hv
  have hmismatch : ∀ (a : UInt8) rest, a ≠ v[c.vi] → ¬ Splits (.one a :: rest) (v.drop c.vi) := by
    intro a rest hne hsplit
    obtain ⟨_, htext, -⟩ := Lib.splits_one_cons.mp hsplit
    rw [hdrop] at htext
    exact hne (List.cons.inj htext).1.symm
  unfold GlobCursor.round
  split
  · rename_i hp
    split
    · rename_i hescape
      have htokens := byteGlob_drop_escape hescape.2 hescape.1
      split
      · rename_i heq
        refine .inl ⟨2, hescape.2, rfl, fun tokens h => ?_⟩
        rw [htokens, Option.map_eq_some_iff, heq] at h
        obtain ⟨rest, hrest, rfl⟩ := h
        exact ⟨rest, hrest, rfl⟩
      · rename_i hne
        refine .inr (.inr ⟨rfl, fun tokens h => ?_⟩)
        rw [htokens, Option.map_eq_some_iff] at h
        obtain ⟨rest, -, rfl⟩ := h
        exact hmismatch _ rest hne
    · rename_i hescape
      split
      · rename_i hstar
        refine .inr (.inl ⟨hp, rfl, fun tokens h => ?_⟩)
        rw [byteGlob_drop_star hp hstar, Option.map_eq_some_iff] at h
        obtain ⟨rest, hrest, rfl⟩ := h
        exact ⟨rest, hrest, rfl⟩
      · rename_i hstar
        split
        · rename_i heq
          refine .inl ⟨1, hp, rfl, fun tokens h => ?_⟩
          have htokens := byteGlob_drop_one hp hescape hstar h
          rw [htokens, Option.map_eq_some_iff, heq] at h
          obtain ⟨rest, hrest, rfl⟩ := h
          exact ⟨rest, hrest, rfl⟩
        · rename_i hne
          refine .inr (.inr ⟨rfl, fun tokens h => ?_⟩)
          have htokens := byteGlob_drop_one hp hescape hstar h
          rw [htokens, Option.map_eq_some_iff] at h
          obtain ⟨rest, -, rfl⟩ := h
          exact hmismatch _ rest hne
  · rename_i hp
    refine .inr (.inr ⟨rfl, fun tokens h hsplit => ?_⟩)
    rw [List.drop_eq_nil_of_le (not_lt.mp hp)] at h
    obtain rfl := Option.some.inj h
    rw [Lib.splits_nil, hdrop] at hsplit
    cases hsplit

theorem GlobCursor.round_decreases {c c' : GlobCursor} {hv : c.vi < v.length}
    (h : c.round p v hv = some c') :
    Prod.Lex (· < ·) (Prod.Lex (· < ·) (· < ·))
      (v.length - c'.starVi, v.length - c'.vi, p.length - c'.pi)
      (v.length - c.starVi, v.length - c.vi, p.length - c.pi) := by
  have hstar := c.starVi_le
  obtain ⟨width, -, hround, -⟩ | ⟨hp, hround, -⟩ | ⟨hround, -⟩ := c.round_cases (p := p) hv
  · obtain rfl := Option.some.inj (hround.symm.trans h)
    refine .right _ (.left _ _ ?_)
    simp only [GlobCursor.advance]
    omega
  · obtain rfl := Option.some.inj (hround.symm.trans h)
    simp only [GlobCursor.star]
    rcases hstar.lt_or_eq with hlt | heq
    · exact .left _ _ (by omega)
    · rw [heq]
      exact .right _ (.right _ (by omega))
  · rw [hround, GlobCursor.backtrack, Option.map_eq_some_iff] at h
    obtain ⟨sp, -, rfl⟩ := h
    exact .left _ _ (by simp only; omega)

variable (p v) in
def scan (c : GlobCursor) : Bool :=
  if hv : c.vi < v.length then
    match _hround : c.round p v hv with
    | none => false
    | some c' => scan c'
  else skipStars p c.pi = p.length
termination_by (v.length - c.starVi, v.length - c.vi, p.length - c.pi)
decreasing_by exact GlobCursor.round_decreases _hround

structure GlobCursor.Tracks (p v : List UInt8) (c : GlobCursor) (tokens : List (GlobToken UInt8)) : Prop where
  vi_le : c.vi ≤ v.length
  pi_le : c.pi ≤ p.length
  rest : byteGlob (p.drop c.pi) = some tokens
  sinceStar : ∀ sp, c.starPi = some sp → sp < p.length ∧ ∃ ones : List UInt8,
    byteGlob (p.drop (sp + 1)) = some (ones.map .one ++ tokens) ∧ c.vi = c.starVi + ones.length

def GlobCursor.Retries (p v : List UInt8) (c : GlobCursor) : Prop :=
  ∃ sp rest k, c.starPi = some sp ∧ byteGlob (p.drop (sp + 1)) = some rest ∧
    c.starVi < k ∧ k ≤ v.length ∧ Splits rest (v.drop k)

theorem skipStars_iff {pi : Nat} {tokens : List (GlobToken UInt8)} (hpi : pi ≤ p.length)
    (h : byteGlob (p.drop pi) = some tokens) : skipStars p pi = p.length ↔ Splits tokens [] := by
  fun_induction skipStars p pi generalizing tokens with
  | case1 pi hp hstar ih =>
    rw [byteGlob_drop_star hp hstar, Option.map_eq_some_iff] at h
    obtain ⟨rest, hrest, rfl⟩ := h
    rw [ih hp hrest, Lib.splits_any_cons]
    constructor
    · intro hsplit
      exact ⟨[], [], rfl, hsplit⟩
    · rintro ⟨x, y, hxy, hsplit⟩
      rwa [(List.nil_eq_append_iff.mp hxy).2] at hsplit
  | case2 pi hp hstar =>
    have hone : ∃ a rest, tokens = .one a :: rest := by
      by_cases hescape : p[pi] = escapeByte ∧ pi + 1 < p.length
      · rw [byteGlob_drop_escape hescape.2 hescape.1, Option.map_eq_some_iff] at h
        obtain ⟨rest, -, rfl⟩ := h
        exact ⟨_, rest, rfl⟩
      · have htokens := byteGlob_drop_one hp hescape hstar h
        rw [htokens, Option.map_eq_some_iff] at h
        obtain ⟨rest, -, rfl⟩ := h
        exact ⟨_, rest, rfl⟩
    obtain ⟨a, rest, rfl⟩ := hone
    refine ⟨fun heq => absurd heq hp.ne, fun hsplit => ?_⟩
    obtain ⟨_, htext, -⟩ := Lib.splits_one_cons.mp hsplit
    cases htext
  | case3 pi hp =>
    rw [List.drop_eq_nil_of_le (not_lt.mp hp)] at h
    obtain rfl := Option.some.inj h
    exact iff_of_true (le_antisymm hpi (not_lt.mp hp)) (Lib.splits_nil.mpr rfl)

theorem GlobCursor.Tracks.advance {c : GlobCursor} {width : Nat} {a : UInt8}
    {rest : List (GlobToken UInt8)} (hc : c.Tracks p v (.one a :: rest)) (hv : c.vi < v.length)
    (hp : c.pi + width ≤ p.length) (hrest : byteGlob (p.drop (c.pi + width)) = some rest) :
    (c.advance width).Tracks p v rest where
  vi_le := hv
  pi_le := hp
  rest := hrest
  sinceStar sp hsp := by
    obtain ⟨hlt, ones, hones, hlen⟩ := hc.sinceStar sp hsp
    refine ⟨hlt, ones ++ [a], by simpa using hones, ?_⟩
    simp only [GlobCursor.advance, List.length_append, List.length_singleton]
    omega

theorem GlobCursor.Tracks.star {c : GlobCursor} {rest : List (GlobToken UInt8)}
    (hc : c.Tracks p v (.any :: rest)) (hp : c.pi < p.length)
    (hrest : byteGlob (p.drop (c.pi + 1)) = some rest) : c.star.Tracks p v rest where
  vi_le := hc.vi_le
  pi_le := hp
  rest := hrest
  sinceStar sp hsp := by
    obtain rfl := Option.some.inj hsp
    exact ⟨hp, [], hrest, rfl⟩

theorem GlobCursor.Tracks.retries_star {c : GlobCursor} {rest : List (GlobToken UInt8)}
    (hc : c.Tracks p v (.any :: rest)) (h : c.Retries p v) :
    Splits (.any :: rest) (v.drop c.vi) := by
  obtain ⟨sp, rest', k, hsp, hrest', hk, hkv, hsplit⟩ := h
  obtain ⟨-, ones, hones, hvi⟩ := hc.sinceStar sp hsp
  obtain rfl := Option.some.inj (hones.symm.trans hrest')
  obtain ⟨tail, htail, hsplit⟩ := Lib.splits_ones_append.mp hsplit
  obtain ⟨x, y, rfl, hy⟩ := Lib.splits_any_cons.mp hsplit
  have hlen := congrArg List.length htail
  simp only [List.length_drop, List.length_append] at hlen
  refine (Lib.splits_any_drop hc.vi_le).mpr
    ⟨k + (ones.length + x.length), by omega, by omega, ?_⟩
  rwa [← List.drop_drop, htail, ← List.append_assoc, ← List.length_append, List.drop_left]

theorem GlobCursor.retries_iff {c : GlobCursor} {sp : Nat} {rest : List (GlobToken UInt8)}
    (hsp : c.starPi = some sp) (hrest : byteGlob (p.drop (sp + 1)) = some rest) :
    c.Retries p v ↔ ∃ k, c.starVi < k ∧ k ≤ v.length ∧ Splits rest (v.drop k) := by
  constructor
  · rintro ⟨sp', rest', k, hsp', hrest', hk⟩
    obtain rfl := Option.some.inj (hsp.symm.trans hsp')
    obtain rfl := Option.some.inj (hrest.symm.trans hrest')
    exact ⟨k, hk⟩
  · rintro ⟨k, hk⟩
    exact ⟨sp, rest, k, hsp, hrest, hk⟩

theorem splits_from_or {rest : List (GlobToken UInt8)} {i : Nat} (hi : i ≤ v.length) :
    (Splits rest (v.drop i) ∨ ∃ k, i < k ∧ k ≤ v.length ∧ Splits rest (v.drop k)) ↔
      ∃ k, i ≤ k ∧ k ≤ v.length ∧ Splits rest (v.drop k) := by
  constructor
  · rintro (h | ⟨k, hk, h⟩)
    · exact ⟨i, le_rfl, hi, h⟩
    · exact ⟨k, hk.le, h⟩
  · rintro ⟨k, hk, hle, h⟩
    rcases hk.eq_or_lt with rfl | hlt
    · exact .inl h
    · exact .inr ⟨k, hlt, hle, h⟩

theorem scan_iff {c : GlobCursor} {tokens : List (GlobToken UInt8)} (hc : c.Tracks p v tokens) :
    scan p v c = true ↔ Splits tokens (v.drop c.vi) ∨ c.Retries p v := by
  fun_induction scan p v c generalizing tokens with
  | case1 c hv hround =>
    obtain ⟨width, -, h, -⟩ | ⟨-, h, -⟩ | ⟨h, hno⟩ := c.round_cases (p := p) hv
    · rw [hround] at h
      cases h
    · rw [hround] at h
      cases h
    · rw [hround, eq_comm, GlobCursor.backtrack, Option.map_eq_none_iff] at h
      refine iff_of_false Bool.false_ne_true ?_
      rintro (hsplit | ⟨sp, rest, k, hsp, -⟩)
      · exact hno tokens hc.rest hsplit
      · rw [h] at hsp
        cases hsp
  | case2 c hv c' hround ih =>
    obtain ⟨width, hp, h, htokens⟩ | ⟨hp, h, htokens⟩ | ⟨h, hno⟩ := c.round_cases (p := p) hv
    · obtain rfl := Option.some.inj (h.symm.trans hround)
      obtain ⟨rest, hrest, rfl⟩ := htokens tokens hc.rest
      have hsame : Splits (.one v[c.vi] :: rest) (v.drop c.vi) ↔ Splits rest (v.drop (c.vi + 1)) := by
        rw [List.drop_eq_getElem_cons hv, Lib.splits_one_cons]
        constructor
        · rintro ⟨tail, htail, hsplit⟩
          rwa [(List.cons.inj htail).2]
        · intro hsplit
          exact ⟨_, rfl, hsplit⟩
      rw [ih (hc.advance hv hp hrest), hsame]
      rfl
    · obtain rfl := Option.some.inj (h.symm.trans hround)
      obtain ⟨rest, hrest, rfl⟩ := htokens tokens hc.rest
      rw [ih (hc.star hp hrest), or_iff_left_of_imp hc.retries_star, Lib.splits_any_drop hc.vi_le,
        GlobCursor.retries_iff (c := c.star) rfl hrest]
      exact splits_from_or hc.vi_le
    · rw [h, GlobCursor.backtrack, Option.map_eq_some_iff] at hround
      obtain ⟨sp, hsp, rfl⟩ := hround
      obtain ⟨hlt, ones, hones, -⟩ := hc.sinceStar sp hsp
      have hle : c.starVi + 1 ≤ v.length := Nat.succ_le_of_lt (c.starVi_le.trans_lt hv)
      have hc' : GlobCursor.Tracks p v ⟨sp + 1, c.starVi + 1, some sp, c.starVi + 1, le_rfl⟩
          (ones.map .one ++ tokens) := by
        refine ⟨hle, hlt, hones, fun sp' hsp' => ?_⟩
        obtain rfl := Option.some.inj hsp'
        exact ⟨hlt, [], hones, rfl⟩
      rw [ih hc', GlobCursor.retries_iff rfl hones, GlobCursor.retries_iff hsp hones,
        or_iff_right (hno tokens hc.rest)]
      exact splits_from_or hle
  | case3 c hv =>
    have hend : c.vi = v.length := le_antisymm hc.vi_le (not_lt.mp hv)
    rw [decide_eq_true_iff, skipStars_iff hc.pi_le hc.rest, hend, List.drop_length]
    refine (or_iff_left ?_).symm
    -- the letters since the star do not fit behind a later end of it
    rintro ⟨sp, rest, k, hsp, hrest, hk, hkv, hsplit⟩
    obtain ⟨-, ones, hones, hvi⟩ := hc.sinceStar sp hsp
    obtain rfl := Option.some.inj (hones.symm.trans hrest)
    obtain ⟨tail, htail, -⟩ := Lib.splits_ones_append.mp hsplit
    have hlen := congrArg List.length htail
    rw [List.length_drop, List.length_append] at hlen
    omega

theorem scan_start {tokens : List (GlobToken UInt8)} (h : byteGlob p = some tokens) :
    scan p v GlobCursor.start = true ↔ Splits tokens v := by
  have hstart : GlobCursor.start.Tracks p v tokens :=
    ⟨Nat.zero_le _, Nat.zero_le _, h, fun sp hsp => by cases hsp⟩
  rw [scan_iff hstart]
  refine or_iff_left ?_
  rintro ⟨sp, _, _, hsp, -⟩
  cases hsp

end Loop

def toolIdMatch (pattern toolId : List Char) : Bool :=
  scan (utf8Bytes pattern) (utf8Bytes toolId) GlobCursor.start

def validateFrom (bytes : List UInt8) (i : Nat) : Except ToolIdPatternError Unit :=
  if hi : i < bytes.length then
    if bytes[i] = escapeByte then
      if i + 1 ≥ bytes.length then .error .danglingEscape else validateFrom bytes (i + 2)
    else validateFrom bytes (i + 1)
  else .ok ()
termination_by bytes.length - i

def validateToolIdPattern (pattern : List Char) : Except ToolIdPatternError Unit :=
  if pattern.isEmpty then .error .empty else validateFrom (utf8Bytes pattern) 0

theorem validateFrom_ok_iff {bytes : List UInt8} {i : Nat} :
    validateFrom bytes i = .ok () ↔ (byteGlob (bytes.drop i)).isSome := by
  fun_induction validateFrom bytes i with
  | case1 i hi hescape hend =>
    have htail : bytes.drop (i + 1) = [] := List.drop_eq_nil_of_le hend
    rw [List.drop_eq_getElem_cons hi, hescape, htail, byteGlob, Lib.globTokens_escape_nil]
    exact iff_of_false (fun h => by cases h) Bool.false_ne_true
  | case2 i hi hescape hmore ih =>
    rw [ih, byteGlob_drop_escape (not_le.mp hmore) hescape, Option.isSome_map]
  | case3 i hi hescape ih =>
    rw [ih]
    by_cases hstar : bytes[i] = starByte
    · rw [byteGlob_drop_star hi hstar, Option.isSome_map]
    · rw [List.drop_eq_getElem_cons hi, byteGlob, Lib.globTokens_one hescape hstar,
        Option.isSome_map]
  | case4 i hi =>
    rw [List.drop_eq_nil_of_le (not_lt.mp hi)]
    exact iff_of_true rfl rfl

theorem byteGlob_utf8Bytes (pattern : List Char) :
    byteGlob (utf8Bytes pattern) =
      (globTokens '\\' '*' pattern).map (·.flatMap Lib.byteTokens) :=
  Lib.globTokens_utf8Bytes (by decide) (by decide) (by decide) pattern

theorem validateToolIdPattern_ok_iff {pattern : List Char} :
    validateToolIdPattern pattern = .ok () ↔
      pattern ≠ [] ∧ (globTokens '\\' '*' pattern).isSome := by
  unfold validateToolIdPattern
  split
  · rename_i hempty
    refine iff_of_false (fun h => by cases h) fun h => h.1 (List.isEmpty_iff.mp hempty)
  · rename_i hempty
    rw [validateFrom_ok_iff, List.drop_zero, byteGlob_utf8Bytes, Option.isSome_map]
    exact (and_iff_right (mt List.isEmpty_iff.mpr hempty)).symm

/-- A tool id matches a valid pattern when it can be cut into one piece for each of the tokens. -/
theorem toolIdMatch_iff_splits {pattern : List Char}
    (h : validateToolIdPattern pattern = .ok ()) (toolId : List Char) :
    ∃ tokens, globTokens '\\' '*' pattern = some tokens ∧
      (toolIdMatch pattern toolId = true ↔ Splits tokens toolId) := by
  obtain ⟨tokens, htokens⟩ := Option.isSome_iff_exists.mp (validateToolIdPattern_ok_iff.mp h).2
  have hbytes : byteGlob (utf8Bytes pattern) = some (tokens.flatMap Lib.byteTokens) := by
    rw [byteGlob_utf8Bytes, htokens]
    rfl
  exact ⟨tokens, htokens, (scan_start hbytes).trans Lib.splits_bytes_iff⟩

theorem toolIdMatch_escaped_star :
    ∃ tokens, globTokens '\\' '*' ['é', '*', '\\', '*'] = some tokens ∧
      (toolIdMatch ['é', '*', '\\', '*'] ['é', 'z', '*'] = true ↔ Splits tokens ['é', 'z', '*']) :=
  toolIdMatch_iff_splits (validateToolIdPattern_ok_iff.mpr (by decide)) _

end Awaken.ToolPattern
