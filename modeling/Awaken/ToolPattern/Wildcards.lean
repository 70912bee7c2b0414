import Mathlib.Data.List.DropRight
import Mathlib.Data.List.Infix
import Mathlib.Data.List.TakeWhile
import Mathlib.Tactic.Lemma
import Awaken.Lib.CharBoundary
import Awaken.Lib.Glob
import Awaken.ToolPattern.EscapedWide
import Awaken.ToolPattern.Matcher

namespace Awaken.ToolPattern

open Lib (GlobToken Splits splits_nil splits_one_cons splits_any_cons utf8Bytes utf8Len)

section Meaning

/-- Every star stands for any text, every other character for itself. -/
def wildTokens (pattern : List Char) : List (GlobToken Char) :=
  pattern.map (fun c => if c = '*' then .any else .one c)

def mergeStars : List Char → List Char
  | [] => []
  | c :: pattern =>
    if c = '*' ∧ pattern.head? = some '*' then mergeStars pattern else c :: mergeStars pattern

/-- A star of its own stands for a text without slashes, two and more stand for any text. -/
inductive StarMatches : List Char → List Char → Prop where
  | nil : StarMatches [] []
  | literal {c : Char} {p v : List Char} (hc : c ≠ '*') (h : StarMatches p v) :
      StarMatches (c :: p) (c :: v)
  | star {x p v : List Char} (hp : p.head? ≠ some '*') (hx : '/' ∉ x) (h : StarMatches p v) :
      StarMatches ('*' :: p) (x ++ v)
  | globstar {x p v : List Char} (h : StarMatches p v) : StarMatches ('*' :: '*' :: p) (x ++ v)

/-- What the glob library says of patterns without its other signs: two stars that are a whole
segment of a path may also, with the slash behind them, stand for nothing. The flag says that a
segment starts here. -/
inductive GlobMatches : Bool → List Char → List Char → Prop where
  | nil {start : Bool} : GlobMatches start [] []
  | literal {start : Bool} {c : Char} {p v : List Char} (hc : c ≠ '*')
      (h : GlobMatches (c = '/') p v) : GlobMatches start (c :: p) (c :: v)
  | star {start : Bool} {x p v : List Char} (hp : p.head? ≠ some '*') (hx : '/' ∉ x)
      (h : GlobMatches false p v) : GlobMatches start ('*' :: p) (x ++ v)
  | globstar {start : Bool} {x p v : List Char} (h : GlobMatches false p v) :
      GlobMatches start ('*' :: '*' :: p) (x ++ v)
  | segment {p v : List Char} (h : GlobMatches true p v) :
      GlobMatches true ('*' :: '*' :: '/' :: p) v

def hasSegment : Bool → List Char → Bool
  | _, [] => false
  | start, c :: p => (start && c = '*' && p.take 2 = ['*', '/']) || hasSegment (c = '/') p

def isGlobSign (c : Char) : Bool := c = '?' || c = '[' || c = '{' || c = '\\'

structure GlobLiteral (pattern : List Char) : Prop where
  noSign : ∀ c ∈ pattern, isGlobSign c = false
  noBang : pattern.head? ≠ some '!'

variable {c : Char} {p v : List Char}

@[simp] lemma wildTokens_nil : wildTokens [] = [] := rfl

lemma wildTokens_star (p : List Char) : wildTokens ('*' :: p) = .any :: wildTokens p := rfl

lemma wildTokens_literal (hc : c ≠ '*') (p : List Char) :
    wildTokens (c :: p) = .one c :: wildTokens p := by
  rw [wildTokens, List.map_cons, if_neg hc]
  rfl

lemma splits_star : Splits (wildTokens ('*' :: p)) v ↔
    ∃ x y, v = x ++ y ∧ Splits (wildTokens p) y := by
  rw [wildTokens_star, splits_any_cons]

lemma splits_literal (hc : c ≠ '*') : Splits (wildTokens (c :: p)) v ↔
    ∃ rest, v = c :: rest ∧ Splits (wildTokens p) rest := by
  rw [wildTokens_literal hc, splits_one_cons]

lemma splits_star_star :
    Splits (wildTokens ('*' :: '*' :: p)) v ↔ Splits (wildTokens ('*' :: p)) v := by
  rw [splits_star, splits_star]
  constructor
  · rintro ⟨x, _, rfl, hstar⟩
    obtain ⟨x', y', rfl, hy⟩ := (splits_star).mp hstar
    exact ⟨x ++ x', y', (List.append_assoc _ _ _).symm, hy⟩
  · rintro ⟨x, y, rfl, h⟩
    exact ⟨x, y, rfl, (splits_star).mpr ⟨[], y, rfl, h⟩⟩

lemma splits_of_starMatches (h : StarMatches p v) : Splits (wildTokens p) v := by
  induction h with
  | nil => exact splits_nil.mpr rfl
  | literal hc _ ih => exact (splits_literal hc).mpr ⟨_, rfl, ih⟩
  | star _ _ _ ih => exact (splits_star).mpr ⟨_, _, rfl, ih⟩
  | globstar _ ih => exact (splits_star_star).mpr (splits_star.mpr ⟨_, _, rfl, ih⟩)

lemma globMatches_literal {start : Bool} (hc : c ≠ '*') :
    GlobMatches start (c :: p) v ↔ ∃ rest, v = c :: rest ∧ GlobMatches (c = '/') p rest := by
  constructor
  · intro h
    cases h with
    | literal _ h => exact ⟨_, rfl, h⟩
    | star => exact absurd rfl hc
    | globstar => exact absurd rfl hc
    | segment => exact absurd rfl hc
  · rintro ⟨rest, rfl, h⟩
    exact .literal hc h

def literals (pattern : List Char) : List Char := pattern.filter (fun c => c ≠ '*')

lemma literals_star (p : List Char) : literals ('*' :: p) = literals p := rfl

lemma literals_cons {c : Char} (hc : c ≠ '*') (p : List Char) :
    literals (c :: p) = c :: literals p :=
  List.filter_cons_of_pos (decide_eq_true hc)

lemma literals_mergeStars (p : List Char) : literals (mergeStars p) = literals p := by
  induction p with
  | nil => rfl
  | cons c p ih =>
    by_cases hc : c = '*'
    · subst hc
      rw [mergeStars]
      split
      · exact ih
      · exact ih
    · rw [mergeStars, if_neg fun h => hc h.1, literals_cons hc, literals_cons hc, ih]

lemma starMatches_literals (p : List Char) : StarMatches p (literals p) := by
  induction hl : p.length using Nat.strong_induction_on generalizing p with
  | _ l ih =>
    match p, hl with
    | [], _ => exact .nil
    | c :: p, hl =>
      rw [List.length_cons] at hl
      by_cases hc : c = '*'
      · subst hc
        cases p with
        | nil => exact .star (x := []) nofun List.not_mem_nil .nil
        | cons d p =>
          rw [List.length_cons] at hl
          by_cases hd : d = '*'
          · subst hd
            exact .globstar (x := []) (ih p.length (by omega) p rfl)
          · refine .star (x := []) (by simpa using hd) List.not_mem_nil ?_
            exact ih (d :: p).length (by rw [List.length_cons]; omega) (d :: p) rfl
      · rw [literals_cons hc]
        exact .literal hc (ih p.length (by omega) p rfl)

section Segments

variable {start : Bool}

lemma globMatches_of_starMatches (h : StarMatches p v) (start : Bool) : GlobMatches start p v := by
  induction h generalizing start with
  | nil => exact .nil
  | literal hc _ ih => exact .literal hc (ih _)
  | star hp hx _ ih => exact .star hp hx (ih _)
  | globstar _ ih => exact .globstar (ih _)

lemma hasSegment_tail (h : hasSegment start (c :: p) = false) : hasSegment (c = '/') p = false := by
  rw [hasSegment, Bool.or_eq_false_iff] at h
  exact h.2

lemma globMatches_iff (hnone : hasSegment start p = false) :
    GlobMatches start p v ↔ StarMatches p v := by
  refine ⟨fun h => ?_, fun h => globMatches_of_starMatches h start⟩
  induction h with
  | nil => exact .nil
  | literal hc _ ih => exact .literal hc (ih (hasSegment_tail hnone))
  | star hp hx _ ih => exact .star hp hx (ih (hasSegment_tail hnone))
  | globstar _ ih => exact .globstar (ih (hasSegment_tail (hasSegment_tail hnone)))
  | segment => cases hnone

lemma exists_shorter (h : hasSegment start p = true) :
    ∃ v, GlobMatches start p v ∧ v.length < (literals p).length := by
  induction hl : p.length using Nat.strong_induction_on generalizing start p with
  | _ l ih =>
    cases p with
    | nil => cases h
    | cons c p =>
      rw [List.length_cons] at hl
      rw [hasSegment, Bool.or_eq_true] at h
      rcases h with hhere | hlater
      · simp only [Bool.and_eq_true, decide_eq_true_eq] at hhere
        obtain ⟨⟨rfl, rfl⟩, htake⟩ := hhere
        obtain ⟨more, rfl⟩ : ∃ more, p = '*' :: '/' :: more :=
          ⟨p.drop 2, by rw [← List.take_append_drop 2 p, htake]; rfl⟩
        refine ⟨literals more, .segment (globMatches_of_starMatches (starMatches_literals more) _), ?_⟩
        rw [literals_star, literals_star, literals_cons (by decide), List.length_cons]
        omega
      · by_cases hc : c = '*'
        · subst hc
          cases p with
          | nil => cases hlater
          | cons d p =>
            by_cases hd : d = '*'
            · subst hd
              have hrest : hasSegment false p = true := by simpa [hasSegment] using hlater
              obtain ⟨v, hv, hshort⟩ := ih p.length (by rw [List.length_cons] at hl; omega) hrest rfl
              exact ⟨v, .globstar (x := []) hv, hshort⟩
            · obtain ⟨v, hv, hshort⟩ := ih (d :: p).length (by omega) hlater rfl
              exact ⟨v, .star (x := []) (by simpa using hd) List.not_mem_nil hv, hshort⟩
        · obtain ⟨v, hv, hshort⟩ := ih p.length (by omega) hlater rfl
          refine ⟨c :: v, .literal hc hv, ?_⟩
          rw [literals_cons hc, List.length_cons, List.length_cons]
          omega

def solids (pattern : List Char) : List Char := (literals pattern).filter (fun c => c ≠ '/')

lemma solids_cons {c : Char} (hc : c ≠ '*') (p : List Char) :
    solids (c :: p) = if c = '/' then solids p else c :: solids p := by
  rw [solids, literals_cons hc, List.filter_cons]
  by_cases hslash : c = '/' <;> simp [solids, hslash]

lemma length_solids_le (h : GlobMatches start p v) :
    (solids p).length ≤ (v.filter (fun c => c ≠ '/')).length := by
  induction h with
  | nil => exact le_rfl
  | @literal _ c p v hc _ ih =>
    rw [solids_cons hc, List.filter_cons]
    by_cases hslash : c = '/' <;> simp [hslash] <;> simpa using ih
  | @star _ x p v _ _ _ ih =>
    rw [List.filter_append, List.length_append]
    exact ih.trans (Nat.le_add_left _ _)
  | @globstar _ x p v _ ih =>
    rw [List.filter_append, List.length_append]
    exact ih.trans (Nat.le_add_left _ _)
  | segment _ ih => exact ih

end Segments

end Meaning

section Normalize

variable {before bytes : List UInt8} {byte : UInt8} {v : List Char}

def latin1 (bytes : List UInt8) : List Char := bytes.map (fun byte => Char.ofNat byte.toNat)

lemma latin1_cons (byte : UInt8) (bytes : List UInt8) :
    latin1 (byte :: bytes) = Char.ofNat byte.toNat :: latin1 bytes := rfl

lemma latin1_star (bytes : List UInt8) : latin1 (starByte :: bytes) = '*' :: latin1 bytes := rfl

lemma toNat_ofByte (byte : UInt8) : (Char.ofNat byte.toNat).toNat = byte.toNat := by
  have hvalid : byte.toNat.isValidChar := .inl (by have := byte.toNat_lt; omega)
  rw [Char.ofNat, dif_pos hvalid]
  rfl

lemma ofByte_ne_star (h : byte ≠ starByte) : Char.ofNat byte.toNat ≠ '*' := by
  intro heq
  have hnat := congrArg Char.toNat heq
  rw [toNat_ofByte] at hnat
  exact h (UInt8.toNat_inj.mp hnat)

lemma normalizeFrom_other (h : byte ≠ starByte) (before bytes : List UInt8) :
    normalizeFrom before (byte :: bytes) =
      Char.ofNat byte.toNat :: normalizeFrom (byte :: before) bytes := by
  rw [normalizeFrom, if_neg h]

lemma normalizeFrom_run (h : before.head? = some starByte ∨ bytes.head? = some starByte) :
    normalizeFrom before (starByte :: bytes) = '*' :: normalizeFrom (starByte :: before) bytes := by
  rw [normalizeFrom, if_pos rfl, if_pos h]

def NearGlobstar (before bytes : List UInt8) : Prop :=
  before.take 3 = [slashByte, starByte, starByte] ∨ bytes.take 3 = [slashByte, starByte, starByte]

lemma normalizeFrom_near (h : ¬(before.head? = some starByte ∨ bytes.head? = some starByte))
    (hnear : NearGlobstar before bytes) :
    normalizeFrom before (starByte :: bytes) = '*' :: normalizeFrom (starByte :: before) bytes := by
  rw [normalizeFrom, if_pos rfl, if_neg h]
  exact if_pos hnear

lemma normalizeFrom_lone (h : ¬(before.head? = some starByte ∨ bytes.head? = some starByte))
    (hnear : ¬NearGlobstar before bytes) :
    normalizeFrom before (starByte :: bytes) =
      '*' :: '*' :: normalizeFrom (starByte :: before) bytes := by
  rw [normalizeFrom, if_pos rfl, if_neg h]
  exact if_neg hnear

lemma head_normalizeFrom (before bytes : List UInt8) :
    (normalizeFrom before bytes).head? = (latin1 bytes).head? := by
  cases bytes with
  | nil => rfl
  | cons byte bytes =>
    by_cases hstar : byte = starByte
    · subst hstar
      by_cases hrun : before.head? = some starByte ∨ bytes.head? = some starByte
      · rw [normalizeFrom_run hrun]
        rfl
      · by_cases hnear : NearGlobstar before bytes
        · rw [normalizeFrom_near hrun hnear]
          rfl
        · rw [normalizeFrom_lone hrun hnear]
          rfl
    · rw [normalizeFrom_other hstar]
      rfl

lemma latin1_head : (latin1 bytes).head? = some '*' ↔ bytes.head? = some starByte := by
  cases bytes with
  | nil => simp [latin1]
  | cons byte bytes =>
    rw [latin1_cons, List.head?_cons, List.head?_cons, Option.some.injEq, Option.some.injEq]
    refine ⟨fun h => ?_, fun h => h ▸ rfl⟩
    by_contra hne
    exact ofByte_ne_star hne h

lemma normalizeFrom_head : (normalizeFrom before bytes).head? = some '*' ↔
    bytes.head? = some starByte := by
  rw [head_normalizeFrom, latin1_head]

/-- One or two stars stand, as a whole segment of a path, in front of a slash; a single star does
not count where a globstar is next to it. -/
def OpensSegment : List UInt8 → List UInt8 → Prop
  | _, [] => False
  | before, byte :: bytes =>
    ((before.head? = none ∨ before.head? = some slashByte) ∧ byte = starByte ∧
      (bytes.take 2 = [starByte, slashByte] ∨
        bytes.head? = some slashByte ∧ ¬NearGlobstar before bytes)) ∨
      OpensSegment (byte :: before) bytes

lemma latin1_head_slash : (latin1 bytes).head? = some '/' ↔ bytes.head? = some slashByte := by
  cases bytes with
  | nil => simp [latin1]
  | cons byte bytes =>
    rw [latin1_cons, List.head?_cons, List.head?_cons, Option.some.injEq, Option.some.injEq]
    refine ⟨fun h => ?_, fun h => h ▸ rfl⟩
    have hnat := congrArg Char.toNat h
    rw [toNat_ofByte] at hnat
    exact UInt8.toNat_inj.mp hnat

lemma normalizeFrom_take_two : (normalizeFrom (starByte :: before) bytes).take 2 = ['*', '/'] ↔
    bytes.take 2 = [starByte, slashByte] := by
  cases bytes with
  | nil => simp [normalizeFrom]
  | cons byte bytes =>
    by_cases hstar : byte = starByte
    · subst hstar
      rw [normalizeFrom_run (.inl rfl)]
      have hhead : ∀ l : List Char, ('*' :: l).take 2 = ['*', '/'] ↔ l.head? = some '/' := by
        intro l
        cases l <;> simp
      have hbytes : (starByte :: bytes).take 2 = [starByte, slashByte] ↔
          bytes.head? = some slashByte := by
        cases bytes <;> simp
      rw [hhead, hbytes, head_normalizeFrom, latin1_head_slash]
    · rw [normalizeFrom_other hstar]
      simp [ofByte_ne_star hstar, hstar]

def atSegment (before : List UInt8) : Bool :=
  before.head? = none ∨ before.head? = some slashByte

lemma hasSegment_normalizeFrom (before bytes : List UInt8) :
    hasSegment (atSegment before) (normalizeFrom before bytes) = true ↔
      OpensSegment before bytes := by
  induction bytes generalizing before with
  | nil => simp [normalizeFrom, hasSegment, OpensSegment]
  | cons byte bytes ih =>
    have hnext : atSegment (byte :: before) = decide (Char.ofNat byte.toNat = '/') := by
      have hhead := @latin1_head_slash (byte :: bytes)
      rw [latin1_cons, List.head?_cons, List.head?_cons, Option.some.injEq] at hhead
      simp [atSegment, hhead]
    have hstart : ((before.head? = none ∨ before.head? = some slashByte)) ↔
        atSegment before = true := by simp [atSegment]
    rw [OpensSegment, hstart]
    by_cases hstar : byte = starByte
    · subst hstar
      have hslash : decide ('*' = '/') = false := by decide
      have hrest : hasSegment false (normalizeFrom (starByte :: before) bytes) = true ↔
          OpensSegment (starByte :: before) bytes := by rw [← ih, hnext]; rfl
      by_cases hrun : before.head? = some starByte ∨ bytes.head? = some starByte
      · have hnot : atSegment before = true → bytes.head? ≠ some slashByte := by
          intro hat hhead
          rcases hrun with hbefore | hbytes
          · simp [atSegment, hbefore] at hat
            exact absurd hat (by decide)
          · rw [hbytes] at hhead
            exact absurd hhead (by decide)
        rw [normalizeFrom_run hrun, hasSegment, Bool.or_eq_true, hslash, hrest]
        simp only [Bool.and_eq_true, decide_eq_true_eq, and_true, true_and, normalizeFrom_take_two]
        refine or_congr (and_congr_right fun hat => ?_) Iff.rfl
        simp [hnot hat]
      · have htwo : bytes.take 2 ≠ [starByte, slashByte] := fun htake => by
          have hhead := congrArg List.head? htake
          rw [List.head?_take, if_neg (by decide)] at hhead
          exact hrun (.inr hhead)
        by_cases hnear : NearGlobstar before bytes
        · rw [normalizeFrom_near hrun hnear, hasSegment, Bool.or_eq_true, hslash, hrest]
          simp [normalizeFrom_take_two, htwo, hnear]
        · have hhead : ('*' :: normalizeFrom (starByte :: before) bytes).take 2 = ['*', '/'] ↔
              bytes.head? = some slashByte := by
            rw [← latin1_head_slash, ← head_normalizeFrom (starByte :: before) bytes]
            cases normalizeFrom (starByte :: before) bytes <;> simp
          rw [normalizeFrom_lone hrun hnear, hasSegment, hasSegment, Bool.or_eq_true, hslash,
            Bool.false_and, Bool.false_and, Bool.false_or, hrest]
          simp only [Bool.and_eq_true, decide_eq_true_eq, and_true, true_and, hhead]
          simp [htwo, hnear]
    · have hne := ofByte_ne_star hstar
      rw [normalizeFrom_other hstar, hasSegment, ← hnext, Bool.or_eq_true, ih]
      simp [hne, hstar]

lemma mem_normalizeFrom {c : Char} (hc : c ∈ normalizeFrom before bytes) : c ∈ latin1 bytes := by
  induction bytes generalizing before with
  | nil => exact hc
  | cons byte bytes ih =>
    by_cases hstar : byte = starByte
    · subst hstar
      rw [latin1_star]
      have hone : c ∈ '*' :: normalizeFrom (starByte :: before) bytes → c ∈ '*' :: latin1 bytes := by
        intro hc
        rcases List.mem_cons.mp hc with rfl | hc
        · exact List.mem_cons_self
        · exact List.mem_cons_of_mem _ (ih hc)
      by_cases hrun : before.head? = some starByte ∨ bytes.head? = some starByte
      · exact hone (normalizeFrom_run hrun ▸ hc)
      · by_cases hnear : NearGlobstar before bytes
        · exact hone (normalizeFrom_near hrun hnear ▸ hc)
        · rw [normalizeFrom_lone hrun hnear] at hc
          rcases List.mem_cons.mp hc with rfl | hc
          · exact List.mem_cons_self
          · exact hone hc
    · rw [normalizeFrom_other hstar] at hc
      rcases List.mem_cons.mp hc with rfl | hc
      · exact List.mem_cons_self
      · exact List.mem_cons_of_mem _ (ih hc)

lemma mergeStars_normalizeFrom (before bytes : List UInt8) :
    mergeStars (normalizeFrom before bytes) = mergeStars (latin1 bytes) := by
  induction bytes generalizing before with
  | nil => rfl
  | cons byte bytes ih =>
    by_cases hstar : byte = starByte
    · subst hstar
      have hone : mergeStars ('*' :: normalizeFrom (starByte :: before) bytes) =
          mergeStars (latin1 (starByte :: bytes)) := by
        simp only [latin1_star, mergeStars, normalizeFrom_head, latin1_head, ih]
      by_cases hrun : before.head? = some starByte ∨ bytes.head? = some starByte
      · rw [normalizeFrom_run hrun, hone]
      · by_cases hnear : NearGlobstar before bytes
        · rw [normalizeFrom_near hrun hnear, hone]
        · rw [normalizeFrom_lone hrun hnear, mergeStars, if_pos ⟨rfl, rfl⟩, hone]
    · have hne := ofByte_ne_star hstar
      rw [normalizeFrom_other hstar, latin1_cons, mergeStars, mergeStars, if_neg fun h => hne h.1,
        if_neg fun h => hne h.1, ih]

lemma splits_normalizeFrom (before bytes : List UInt8) (v : List Char) :
    Splits (wildTokens (normalizeFrom before bytes)) v ↔ Splits (wildTokens (latin1 bytes)) v := by
  induction bytes generalizing before v with
  | nil => rfl
  | cons byte bytes ih =>
    by_cases hstar : byte = starByte
    · subst hstar
      have hone : Splits (wildTokens ('*' :: normalizeFrom (starByte :: before) bytes)) v ↔
          Splits (wildTokens (latin1 (starByte :: bytes))) v := by
        rw [latin1_star, splits_star, splits_star]
        simp only [ih]
      by_cases hrun : before.head? = some starByte ∨ bytes.head? = some starByte
      · rw [normalizeFrom_run hrun, hone]
      · by_cases hnear : NearGlobstar before bytes
        · rw [normalizeFrom_near hrun hnear, hone]
        · rw [normalizeFrom_lone hrun hnear, splits_star_star, hone]
    · have hne := ofByte_ne_star hstar
      rw [normalizeFrom_other hstar, latin1_cons, splits_literal hne, splits_literal hne]
      simp only [ih]

def Absorbs (before : List UInt8) (v : List Char) : Prop :=
  v = [] ∨ (∃ more, before = starByte :: starByte :: more) ∨
    (∃ more, before = slashByte :: starByte :: starByte :: more) ∧ v.getLast? = some '/'

lemma Absorbs.nil : Absorbs before [] := .inl rfl

lemma Absorbs.eq_nil (h : Absorbs before v) (hstar : ∀ more, before ≠ starByte :: starByte :: more)
    (hslash : ∀ more, before ≠ slashByte :: starByte :: starByte :: more) : v = [] := by
  rcases h with h | ⟨more, hmore⟩ | ⟨⟨more, hmore⟩, -⟩
  · exact h
  · exact absurd hmore (hstar more)
  · exact absurd hmore (hslash more)

lemma Absorbs.after_lone (h : Absorbs (starByte :: before) v)
    (hprev : before.head? ≠ some starByte) : v = [] := by
  refine h.eq_nil (fun more hmore => ?_) (fun more hmore => ?_)
  · rw [(List.cons.inj hmore).2] at hprev
    exact hprev rfl
  · exact absurd (List.cons.inj hmore).1 (by decide)

lemma splits_slash_globstar {more : List UInt8} {w : List Char}
    (h : Splits (wildTokens (latin1 (slashByte :: starByte :: starByte :: more))) w)
    (rest : List Char) :
    Splits (wildTokens (latin1 (slashByte :: starByte :: starByte :: more)))
      ('/' :: rest ++ w) := by
  have hslash : latin1 (slashByte :: starByte :: starByte :: more) =
      '/' :: '*' :: '*' :: latin1 more := rfl
  rw [hslash, splits_literal (by decide)] at h ⊢
  obtain ⟨w', rfl, hw'⟩ := h
  obtain ⟨y, z, rfl, hz⟩ := splits_star.mp hw'
  refine ⟨_, rfl, splits_star.mpr ⟨rest ++ '/' :: y, z, ?_, hz⟩⟩
  simp

lemma take_three {bytes : List UInt8} {a b c : UInt8} (h : bytes.take 3 = [a, b, c]) :
    ∃ more, bytes = a :: b :: c :: more :=
  ⟨bytes.drop 3, by rw [← List.take_append_drop 3 bytes, h]; rfl⟩

lemma last_slash (x : List Char) :
    ∃ x₁ x₂, x = x₁ ++ x₂ ∧ '/' ∉ x₂ ∧ (x₁ = [] ∨ x₁.getLast? = some '/') := by
  refine ⟨x.rdropWhile (fun c => c ≠ '/'), x.rtakeWhile (fun c => c ≠ '/'),
    List.rdropWhile_append_rtakeWhile.symm, ?_, ?_⟩
  · intro hmem
    exact absurd (List.mem_rtakeWhile_imp hmem) (by decide)
  · by_cases hnil : x.rdropWhile (fun c => c ≠ '/') = []
    · exact .inl hnil
    · right
      have hlast := List.rdropWhile_last_not (fun c => decide (c ≠ '/')) x hnil
      rw [List.getLast?_eq_some_getLast hnil]
      simpa using hlast

lemma first_slash (x : List Char) : ∃ x₁ x₂, x = x₁ ++ x₂ ∧ '/' ∉ x₁ ∧
    (x₂ = [] ∨ ∃ rest, x₂ = '/' :: rest) := by
  refine ⟨x.takeWhile (fun c => c ≠ '/'), x.dropWhile (fun c => c ≠ '/'),
    List.takeWhile_append_dropWhile.symm, ?_, ?_⟩
  · intro hmem
    exact absurd (List.mem_takeWhile_imp hmem) (by decide)
  · cases h : x.dropWhile (fun c => c ≠ '/') with
    | nil => exact .inl rfl
    | cons c rest =>
      have hc := List.head?_dropWhile_not (fun c => decide (c ≠ '/')) x
      rw [h] at hc
      have hslash : c = '/' := by simpa using hc
      exact .inr ⟨rest, by rw [hslash]⟩

lemma starMatches_of_splits
    (hrun : before.head? = some starByte → bytes.head? = some starByte →
      ∃ more, before = starByte :: starByte :: more)
    (h : Splits (wildTokens (latin1 bytes)) v) :
    ∃ v₁ v₂, v = v₁ ++ v₂ ∧ Absorbs before v₁ ∧ StarMatches (normalizeFrom before bytes) v₂ := by
  induction hl : bytes.length using Nat.strong_induction_on generalizing before bytes v with
  | _ l ih =>
    cases bytes with
    | nil =>
      obtain rfl := splits_nil.mp h
      exact ⟨[], [], rfl, .nil, .nil⟩
    | cons byte bytes =>
      have hlt : bytes.length < l := by
        rw [← hl, List.length_cons]
        omega
      by_cases hstar : byte = starByte
      · subst hstar
        rw [latin1_star] at h
        by_cases hnext : bytes.head? = some starByte
        · -- a run of stars: the first two take everything
          obtain ⟨bytes', rfl⟩ := List.head?_eq_some_iff.mp hnext
          have hlt' : bytes'.length < l := by
            rw [List.length_cons] at hlt
            omega
          rw [latin1_star, splits_star_star] at h
          obtain ⟨x, w, rfl, hw⟩ := splits_star.mp h
          have hrun' : (starByte :: starByte :: before).head? = some starByte →
              bytes'.head? = some starByte →
              ∃ more, starByte :: starByte :: before = starByte :: starByte :: more :=
            fun _ _ => ⟨before, rfl⟩
          obtain ⟨v₁, v₂, rfl, -, hmatches⟩ := ih bytes'.length hlt' hrun' hw rfl
          refine ⟨[], x ++ (v₁ ++ v₂), rfl, .nil, ?_⟩
          rw [normalizeFrom_run (.inr rfl), normalizeFrom_run (.inl rfl), ← List.append_assoc]
          exact .globstar hmatches
        · obtain ⟨x, w, rfl, hw⟩ := splits_star.mp h
          have hrun' : (starByte :: before).head? = some starByte → bytes.head? = some starByte →
              ∃ more, starByte :: before = starByte :: starByte :: more :=
            fun _ hhead => absurd hhead hnext
          have hlone : ∀ before, (normalizeFrom before bytes).head? ≠ some '*' :=
            fun _ hhead => hnext (normalizeFrom_head.mp hhead)
          by_cases hprev : before.head? = some starByte
          · -- the last star of a run: the stars before it take everything
            obtain ⟨more, rfl⟩ := hrun hprev rfl
            obtain ⟨v₁, v₂, rfl, -, hmatches⟩ := ih bytes.length hlt hrun' hw rfl
            refine ⟨x ++ v₁, v₂, (List.append_assoc _ _ _).symm, .inr (.inl ⟨more, rfl⟩), ?_⟩
            rw [normalizeFrom_run (.inl rfl)]
            exact .star (x := []) (hlone _) List.not_mem_nil hmatches
          · have hsingle : ¬(before.head? = some starByte ∨ bytes.head? = some starByte) :=
              fun hor => hor.elim hprev hnext
            by_cases hnear : NearGlobstar before bytes
            · rw [normalizeFrom_near hsingle hnear]
              rcases hnear with hbehind | hahead
              · -- behind a globstar: what reaches over a slash goes to the globstar
                obtain ⟨more, rfl⟩ := take_three hbehind
                obtain ⟨v₁, v₂, rfl, habsorbs, hmatches⟩ := ih bytes.length hlt hrun' hw rfl
                obtain rfl := habsorbs.after_lone hprev
                obtain ⟨x₁, x₂, rfl, hx₂, hx₁⟩ := last_slash x
                refine ⟨x₁, x₂ ++ v₂, by simp, ?_, .star (hlone _) hx₂ hmatches⟩
                rcases hx₁ with rfl | hx₁
                · exact .nil
                · exact .inr (.inr ⟨⟨more, rfl⟩, hx₁⟩)
              · -- in front of a globstar: what reaches over a slash goes to the globstar
                obtain ⟨more, rfl⟩ := take_three hahead
                obtain ⟨x₁, x₂, rfl, hx₁, hx₂⟩ := first_slash x
                have hw' : Splits (wildTokens (latin1 (slashByte :: starByte :: starByte :: more)))
                    (x₂ ++ w) := by
                  rcases hx₂ with rfl | ⟨rest, rfl⟩
                  · exact hw
                  · exact splits_slash_globstar hw rest
                obtain ⟨v₁, v₂, heq, habsorbs, hmatches⟩ := ih _ hlt hrun' hw' rfl
                obtain rfl := habsorbs.after_lone hprev
                rw [List.nil_append] at heq
                refine ⟨[], x₁ ++ v₂, ?_, .nil, .star (hlone _) hx₁ hmatches⟩
                rw [List.append_assoc, heq, List.nil_append]
            · obtain ⟨v₁, v₂, rfl, habsorbs, hmatches⟩ := ih bytes.length hlt hrun' hw rfl
              obtain rfl := habsorbs.after_lone hprev
              rw [normalizeFrom_lone hsingle hnear]
              exact ⟨[], x ++ v₂, rfl, .nil, .globstar hmatches⟩
      · have hne := ofByte_ne_star hstar
        rw [latin1_cons, splits_literal hne] at h
        obtain ⟨rest, rfl, hrest⟩ := h
        have hrun' : (byte :: before).head? = some starByte → bytes.head? = some starByte →
            ∃ more, byte :: before = starByte :: starByte :: more :=
          fun hhead => absurd (Option.some.inj hhead) hstar
        obtain ⟨v₁, v₂, rfl, habsorbs, hmatches⟩ := ih bytes.length hlt hrun' hrest rfl
        rw [normalizeFrom_other hstar]
        rcases habsorbs with rfl | ⟨more, hmore⟩ | ⟨⟨more, hmore⟩, hlast⟩
        · exact ⟨[], _, rfl, .nil, .literal hne hmatches⟩
        · exact absurd (List.cons.inj hmore).1 hstar
        · obtain ⟨rfl, hbefore⟩ := List.cons.inj hmore
          obtain ⟨v₁, rfl⟩ := List.getLast?_eq_some_iff.mp hlast
          refine ⟨'/' :: v₁, '/' :: v₂, ?_, .inr (.inl ⟨more, hbefore⟩), .literal hne hmatches⟩
          change '/' :: (v₁ ++ ['/'] ++ v₂) = _
          simp

lemma starMatches_normalize : StarMatches (normalizeFrom [] bytes) v ↔
    Splits (wildTokens (latin1 bytes)) v := by
  constructor
  · intro h
    exact (splits_normalizeFrom [] bytes v).mp (splits_of_starMatches h)
  · intro h
    have hrun : ([] : List UInt8).head? = some starByte → bytes.head? = some starByte →
        ∃ more, [] = starByte :: starByte :: more := fun hhead => by cases hhead
    obtain ⟨v₁, v₂, rfl, habsorbs, hmatches⟩ := starMatches_of_splits hrun h
    obtain rfl := habsorbs.eq_nil (fun _ hmore => by cases hmore) (fun _ hmore => by cases hmore)
    exact hmatches

def IsAscii (text : List Char) : Prop := ∀ c ∈ text, c.toNat < 128

lemma latin1_utf8Bytes {text : List Char} (h : IsAscii text) : latin1 (utf8Bytes text) = text := by
  induction text with
  | nil => rfl
  | cons c text ih =>
    obtain ⟨hc, htext⟩ := List.forall_mem_cons.mp h
    obtain ⟨byte, hbyte, hchar⟩ := Lib.utf8_one_byte (Lib.utf8Size_of_ascii hc)
    rw [Lib.utf8Bytes_cons, hbyte, List.singleton_append, latin1_cons, hchar, ih htext]

lemma mem_of_latin1 {text : List Char} {c : Char} (hc : c ∈ latin1 (utf8Bytes text)) :
    128 ≤ c.toNat ∨ c ∈ text := by
  obtain ⟨byte, hbyte, rfl⟩ := List.mem_map.mp hc
  obtain ⟨d, hd, hmem⟩ := List.mem_flatMap.mp hbyte
  rw [toNat_ofByte]
  by_cases hascii : byte.toNat < 128
  · right
    rwa [← Lib.utf8_ascii_char hascii hmem]
  · exact .inl (Nat.not_lt.mp hascii)

lemma head_latin1 {text : List Char} {c : Char} (hc : (latin1 (utf8Bytes text)).head? = some c) :
    128 ≤ c.toNat ∨ text.head? = some c := by
  cases text with
  | nil => cases hc
  | cons d text =>
    obtain ⟨byte, more, hbytes⟩ := Lib.utf8EncodeChar_eq_cons d
    rw [Lib.utf8Bytes_cons, hbytes, List.cons_append, latin1_cons, List.head?_cons] at hc
    obtain rfl := Option.some.inj hc
    rw [toNat_ofByte]
    by_cases hascii : byte.toNat < 128
    · have hd : d = Char.ofNat byte.toNat :=
        Lib.utf8_ascii_char hascii (hbytes ▸ List.mem_cons_self)
      exact .inr (congrArg some hd)
    · exact .inl (Nat.not_lt.mp hascii)

lemma length_filter_latin1 {q : Char → Bool} (hq : ∀ c : Char, 128 ≤ c.toNat → q c = true)
    (text : List Char) :
    ((latin1 (utf8Bytes text)).filter q).length = utf8Len (text.filter q) := by
  induction text with
  | nil => rfl
  | cons c text ih =>
    have happend : (latin1 (utf8Bytes (c :: text))).filter q =
        (latin1 (String.utf8EncodeChar c)).filter q ++ (latin1 (utf8Bytes text)).filter q := by
      rw [Lib.utf8Bytes_cons, latin1, List.map_append, List.filter_append]
      rfl
    rw [happend, List.length_append, ih]
    by_cases hascii : c.toNat < 128
    · obtain ⟨byte, hbyte, hchar⟩ := Lib.utf8_one_byte (Lib.utf8Size_of_ascii hascii)
      have hself : latin1 (String.utf8EncodeChar c) = [c] := by
        rw [hbyte, latin1_cons, hchar]
        rfl
      rw [hself, List.filter_cons, List.filter_cons]
      by_cases hc : q c = true
      · rw [if_pos hc, if_pos hc, Lib.utf8Len_cons, Lib.utf8Size_of_ascii hascii]
        rfl
      · rw [if_neg hc, if_neg hc]
        exact Nat.zero_add _
    · have hall : (latin1 (String.utf8EncodeChar c)).filter q = latin1 (String.utf8EncodeChar c) := by
        refine List.filter_eq_self.mpr (fun d hd => hq d ?_)
        obtain ⟨byte, hbyte, rfl⟩ := List.mem_map.mp hd
        rw [toNat_ofByte]
        by_contra hlow
        have hchar := Lib.utf8_ascii_char (Nat.not_le.mp hlow) hbyte
        rw [hchar, toNat_ofByte] at hascii
        exact hascii (Nat.not_le.mp hlow)
      rw [hall, List.filter_cons, if_pos (hq c (Nat.not_lt.mp hascii)), Lib.utf8Len_cons, latin1,
        List.length_map, String.length_utf8EncodeChar]

lemma length_literals_latin1 (text : List Char) :
    (literals (latin1 (utf8Bytes text))).length = utf8Len (literals text) := by
  refine length_filter_latin1 (fun c hc => decide_eq_true ?_) text
  rintro rfl
  exact absurd hc (by decide)

lemma length_solids_latin1 (text : List Char) :
    (solids (latin1 (utf8Bytes text))).length = utf8Len (solids text) := by
  rw [solids, solids, literals, literals, List.filter_filter, List.filter_filter]
  refine length_filter_latin1 (fun c hc => ?_) text
  rw [Bool.and_eq_true, decide_eq_true_eq, decide_eq_true_eq]
  constructor <;> rintro rfl <;> exact absurd hc (by decide)

lemma length_le_utf8Len (text : List Char) : text.length ≤ utf8Len text := by
  induction text with
  | nil => exact le_rfl
  | cons c text ih =>
    have hpos := c.utf8Size_pos
    rw [Lib.utf8Len_cons, List.length_cons]
    omega

lemma isAscii_of_utf8Len {text : List Char} (h : utf8Len text = text.length) : IsAscii text := by
  induction text with
  | nil => exact List.forall_mem_nil _
  | cons c text ih =>
    have hpos := c.utf8Size_pos
    have hle := length_le_utf8Len text
    rw [Lib.utf8Len_cons, List.length_cons] at h
    exact List.forall_mem_cons.mpr ⟨Lib.ascii_of_utf8Size (by omega), ih (by omega)⟩

lemma isAscii_of_literals {text : List Char} (h : IsAscii (literals text)) : IsAscii text := by
  intro c hc
  by_cases hstar : c = '*'
  · subst hstar
    decide
  · exact h c (List.mem_filter.mpr ⟨hc, decide_eq_true hstar⟩)

lemma isAscii_of_solids {text : List Char} (h : IsAscii (solids text)) : IsAscii text := by
  refine isAscii_of_literals (fun c hc => ?_)
  by_cases hslash : c = '/'
  · subst hslash
    decide
  · exact h c (List.mem_filter.mpr ⟨hc, decide_eq_true hslash⟩)

lemma length_literals_le {p : List Char} (h : Splits (wildTokens p) v) :
    (literals p).length ≤ v.length := by
  induction p generalizing v with
  | nil => exact Nat.zero_le _
  | cons c p ih =>
    by_cases hc : c = '*'
    · subst hc
      obtain ⟨x, y, rfl, hy⟩ := splits_star.mp h
      have hle := ih hy
      rw [literals_star, List.length_append]
      omega
    · obtain ⟨rest, rfl, hrest⟩ := (splits_literal hc).mp h
      rw [literals_cons hc]
      exact Nat.succ_le_succ (ih hrest)

lemma splits_literals (p : List Char) : Splits (wildTokens p) (literals p) := by
  induction p with
  | nil => exact splits_nil.mpr rfl
  | cons c p ih =>
    by_cases hc : c = '*'
    · subst hc
      exact splits_star.mpr ⟨[], literals p, rfl, ih⟩
    · rw [literals_cons hc]
      exact (splits_literal hc).mpr ⟨_, rfl, ih⟩

end Normalize

section Match

variable {R N : Type} {lib : MatchLib R N} {pattern : List Char}

/-- What is taken from the documentation of the glob library. -/
def FollowsGlob (lib : MatchLib R N) : Prop :=
  ∀ p v, GlobLiteral p → (lib.globMatch p v = true ↔ GlobMatches true p v)

lemma GlobLiteral.normalize (h : GlobLiteral pattern) : GlobLiteral (normalizeWildcards pattern) := by
  refine ⟨fun c hc => ?_, fun hhead => ?_⟩
  · rcases mem_of_latin1 (mem_normalizeFrom hc) with hwide | hmem
    · rw [Bool.eq_false_iff]
      intro hsign
      simp only [isGlobSign, Bool.or_eq_true, decide_eq_true_eq] at hsign
      rcases hsign with ((rfl | rfl) | rfl) | rfl <;> exact absurd hwide (by decide)
    · exact h.noSign c hmem
  · rw [normalizeWildcards, head_normalizeFrom] at hhead
    rcases head_latin1 hhead with hwide | hhead
    · exact absurd hwide (by decide)
    · exact h.noBang hhead

lemma wildcardMatch_iff (hlib : FollowsGlob lib) (h : GlobLiteral pattern) (value : List Char) :
    wildcardMatch lib pattern value = true ↔ GlobMatches true (normalizeWildcards pattern) value :=
  hlib _ _ h.normalize

lemma hasSegment_normalizeWildcards (pattern : List Char) :
    hasSegment true (normalizeWildcards pattern) = true ↔ OpensSegment [] (utf8Bytes pattern) :=
  hasSegment_normalizeFrom [] (utf8Bytes pattern)

lemma literals_normalizeWildcards (pattern : List Char) :
    literals (normalizeWildcards pattern) = literals (latin1 (utf8Bytes pattern)) := by
  rw [← literals_mergeStars, normalizeWildcards, mergeStars_normalizeFrom, literals_mergeStars]

/-- The normalised pattern differs from the pattern in the length of its runs of stars only. -/
def OnlyStarsChange (pattern : List Char) : Prop :=
  mergeStars (normalizeWildcards pattern) = mergeStars pattern

/-- A star stands for any text, any other character for itself. -/
def MeansWildcards (lib : MatchLib R N) (pattern : List Char) : Prop :=
  ∀ value, wildcardMatch lib pattern value = true ↔ Splits (wildTokens pattern) value

lemma isAscii_of_meansWildcards (hlib : FollowsGlob lib) (hliteral : GlobLiteral pattern)
    (h : MeansWildcards lib pattern) : IsAscii pattern := by
  -- the pattern without its stars has a character for each byte only if these are as many
  have hmatch := (h (literals pattern)).mpr (splits_literals pattern)
  rw [wildcardMatch_iff hlib hliteral] at hmatch
  have hle := length_solids_le hmatch
  rw [solids, literals_normalizeWildcards] at hle
  change (solids (latin1 (utf8Bytes pattern))).length ≤ (solids pattern).length at hle
  rw [length_solids_latin1] at hle
  have hge := length_le_utf8Len (solids pattern)
  exact isAscii_of_solids (isAscii_of_utf8Len (by omega))

/-- For which patterns only the runs of stars change, and for which the stars alone are wild. -/
theorem wildcards_keep_meaning (hlib : FollowsGlob lib) (pattern : List Char) :
    (OnlyStarsChange pattern ↔ IsAscii pattern) ∧
      (GlobLiteral pattern → (MeansWildcards lib pattern ↔
        IsAscii pattern ∧ ¬OpensSegment [] (utf8Bytes pattern))) := by
  refine ⟨⟨fun h => ?_, fun hascii => ?_⟩, fun hliteral => ⟨fun h => ?_, fun h value => ?_⟩⟩
  · have hliterals := congrArg literals h
    rw [literals_mergeStars, literals_mergeStars, literals_normalizeWildcards] at hliterals
    have hbytes := length_literals_latin1 pattern
    rw [hliterals] at hbytes
    exact isAscii_of_literals (isAscii_of_utf8Len hbytes.symm)
  · rw [OnlyStarsChange, normalizeWildcards, mergeStars_normalizeFrom, latin1_utf8Bytes hascii]
  · have hascii := isAscii_of_meansWildcards hlib hliteral h
    refine ⟨hascii, fun hopens => ?_⟩
    obtain ⟨v, hv, hshort⟩ := exists_shorter ((hasSegment_normalizeWildcards pattern).mpr hopens)
    have hlong := length_literals_le ((h v).mp ((wildcardMatch_iff hlib hliteral v).mpr hv))
    rw [literals_normalizeWildcards, latin1_utf8Bytes hascii] at hshort
    omega
  · have hnone : hasSegment true (normalizeWildcards pattern) = false := by
      rw [← Bool.not_eq_true, hasSegment_normalizeWildcards]
      exact h.2
    rw [wildcardMatch_iff hlib hliteral, globMatches_iff hnone, normalizeWildcards,
      starMatches_normalize, latin1_utf8Bytes h.1]

def starEnds : List Char → List (List Char)
  | [] => [[]]
  | c :: v => (c :: v) :: (if c = '/' then [] else starEnds v)

def plainGlob : Bool → List Char → List Char → Bool
  | _, [], v => v.isEmpty
  | start, c :: p, v =>
    if c = '*' then
      match p with
      | [] => (starEnds v).any List.isEmpty
      | d :: p =>
        if d = '*' then
          v.tails.any (plainGlob false p) ||
            match p with
            | [] => false
            | e :: p => start && e = '/' && plainGlob true p v
        else (starEnds v).any (plainGlob false (d :: p))
    else
      match v with
      | [] => false
      | d :: v => (c = d || c = '?') && plainGlob (c = '/') p v

lemma mem_starEnds {v w : List Char} : w ∈ starEnds v ↔ ∃ x, v = x ++ w ∧ '/' ∉ x := by
  induction v with
  | nil =>
    rw [starEnds, List.mem_singleton]
    constructor
    · rintro rfl
      exact ⟨[], rfl, List.not_mem_nil⟩
    · rintro ⟨x, hx, -⟩
      exact (List.append_eq_nil_iff.mp hx.symm).2
  | cons c v ih =>
    rw [starEnds, List.mem_cons]
    constructor
    · rintro (rfl | hmem)
      · exact ⟨[], rfl, List.not_mem_nil⟩
      · by_cases hc : c = '/'
        · rw [if_pos hc] at hmem
          cases hmem
        · rw [if_neg hc] at hmem
          obtain ⟨x, rfl, hx⟩ := ih.mp hmem
          refine ⟨c :: x, rfl, fun hmem => ?_⟩
          exact (List.mem_cons.mp hmem).elim (fun h => hc h.symm) hx
    · rintro ⟨x, hsplit, hx⟩
      cases x with
      | nil => exact .inl hsplit.symm
      | cons d x =>
        obtain ⟨rfl, rfl⟩ := List.cons.inj hsplit
        have hd : c ≠ '/' := fun hc => hx (hc ▸ List.mem_cons_self)
        rw [if_neg hd]
        exact .inr (ih.mpr ⟨x, rfl, fun hmem => hx (List.mem_cons_of_mem _ hmem)⟩)

lemma plainGlob_star {start : Bool} {p v : List Char} (hp : p.head? ≠ some '*') :
    plainGlob start ('*' :: p) v = (starEnds v).any (plainGlob false p) := by
  rw [plainGlob.eq_def]
  dsimp only
  rw [if_pos rfl]
  cases p with
  | nil =>
    have hempty : plainGlob false [] = List.isEmpty := by
      funext w
      rw [plainGlob]
    rw [hempty]
  | cons d p =>
    dsimp only
    have hd : d ≠ '*' := by
      rintro rfl
      exact hp rfl
    rw [if_neg hd]

lemma plainGlob_globstar {start : Bool} (p v : List Char) :
    plainGlob start ('*' :: '*' :: p) v = true ↔ (∃ w, w <:+ v ∧ plainGlob false p w = true) ∨
      start = true ∧ ∃ more, p = '/' :: more ∧ plainGlob true more v = true := by
  rw [plainGlob.eq_def]
  dsimp only
  rw [if_pos rfl, if_pos rfl, Bool.or_eq_true, List.any_eq_true]
  simp only [List.mem_tails]
  refine or_congr Iff.rfl ?_
  cases p with
  | nil => simp
  | cons e p => simp [and_assoc]

lemma plainGlob_iff {start : Bool} {p v : List Char} (h : ∀ c ∈ p, isGlobSign c = false) :
    plainGlob start p v = true ↔ GlobMatches start p v := by
  induction hl : p.length using Nat.strong_induction_on generalizing start p v with
  | _ l ih =>
    cases p with
    | nil =>
      rw [plainGlob, List.isEmpty_iff]
      constructor
      · rintro rfl
        exact .nil
      · intro h
        cases h
        rfl
    | cons c p =>
      obtain ⟨hc, hp⟩ := List.forall_mem_cons.mp h
      have hlt : p.length < l := by
        rw [← hl, List.length_cons]
        omega
      by_cases hstar : c = '*'
      · subst hstar
        by_cases hnext : p.head? = some '*'
        · obtain ⟨p', rfl⟩ := List.head?_eq_some_iff.mp hnext
          have hlt' : p'.length < l := by
            rw [List.length_cons] at hlt
            omega
          have hsigns := (List.forall_mem_cons.mp hp).2
          have hp' := fun v => @ih p'.length hlt' false p' v hsigns rfl
          rw [plainGlob_globstar]
          simp only [hp']
          constructor
          · rintro (⟨w, ⟨x, rfl⟩, hw⟩ | ⟨rfl, more, rfl, hmore⟩)
            · exact .globstar hw
            · rw [List.length_cons] at hlt'
              exact .segment ((ih more.length (by omega) (List.forall_mem_cons.mp hsigns).2 rfl).mp
                hmore)
          · intro h
            cases h with
            | literal hne => exact absurd rfl hne
            | star hhead => exact absurd rfl hhead
            | globstar h => exact .inl ⟨_, ⟨_, rfl⟩, h⟩
            | segment h =>
              rw [List.length_cons] at hlt'
              exact .inr ⟨rfl, _, rfl, (ih _ (by omega) (List.forall_mem_cons.mp hsigns).2 rfl).mpr h⟩
        · rw [plainGlob_star hnext, List.any_eq_true]
          simp only [mem_starEnds, ih p.length hlt hp rfl]
          constructor
          · rintro ⟨w, ⟨x, rfl, hx⟩, hw⟩
            exact .star hnext hx hw
          · intro h
            cases h with
            | literal hne => exact absurd rfl hne
            | star _ hx h => exact ⟨_, ⟨_, rfl, hx⟩, h⟩
            | globstar h => exact absurd rfl hnext
            | segment h => exact absurd rfl hnext
      · have hquestion : c ≠ '?' := by
          rintro rfl
          exact absurd hc (by decide)
        rw [plainGlob.eq_def]
        dsimp only
        rw [if_neg hstar]
        rw [globMatches_literal hstar]
        cases v with
        | nil =>
          refine iff_of_false Bool.false_ne_true ?_
          rintro ⟨rest, hrest, -⟩
          cases hrest
        | cons d v =>
          dsimp only
          rw [Bool.and_eq_true, ih p.length hlt hp rfl]
          simp only [hquestion, decide_false, Bool.or_false, decide_eq_true_eq]
          constructor
          · rintro ⟨rfl, h⟩
            exact ⟨v, rfl, h⟩
          · rintro ⟨rest, hrest, h⟩
            obtain ⟨rfl, rfl⟩ := List.cons.inj hrest
            exact ⟨rfl, h⟩

def plainLib : MatchLib (List Char) Nat where
  regex := anyRegex
  isMatch _ _ := false
  globMatch := plainGlob true
  numberText _ := []
  jsonText _ := []

lemma followsGlob_plainLib : FollowsGlob plainLib := fun _ _ h => plainGlob_iff h.noSign

def rustSources : List Char := ['s', '/', '*', '*', '/', '*', '.', 'r', 's']

theorem wildcards_keep_meaning_star :
    MeansWildcards plainLib ['r', 'm', ' ', '*'] ∧ ¬MeansWildcards plainLib rustSources := by
  have hliteral : GlobLiteral ['r', 'm', ' ', '*'] ∧ GlobLiteral rustSources :=
    ⟨⟨by simp [isGlobSign], by decide⟩, ⟨by simp [rustSources, isGlobSign], by decide⟩⟩
  have hascii : IsAscii ['r', 'm', ' ', '*'] := by simp [IsAscii]
  have hnone : ¬OpensSegment [] (utf8Bytes ['r', 'm', ' ', '*']) := by
    rw [← hasSegment_normalizeWildcards]
    decide
  have hopens : OpensSegment [] (utf8Bytes rustSources) := by
    rw [← hasSegment_normalizeWildcards]
    decide
  exact ⟨((wildcards_keep_meaning followsGlob_plainLib _).2 hliteral.1).mpr ⟨hascii, hnone⟩,
    fun h => (((wildcards_keep_meaning followsGlob_plainLib _).2 hliteral.2).mp h).2 hopens⟩

theorem accent_matches_nothing :
    ¬OnlyStarsChange ['é'] ∧ wildcardMatch plainLib ['é'] ['é'] = false ∧
      Splits (wildTokens ['é']) ['é'] :=
  ⟨by unfold OnlyStarsChange; decide, by decide,
    (splits_literal (by decide)).mpr ⟨[], rfl, splits_nil.mpr rfl⟩⟩

end Match

end Awaken.ToolPattern
