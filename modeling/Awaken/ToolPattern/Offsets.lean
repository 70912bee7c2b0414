import Awaken.ToolPattern.Bytes
import Awaken.ToolPattern.Image

namespace Awaken.ToolPattern

open Awaken.Lib Awaken.Lib.Text

section Follows

variable {α β : Type} {s : List Char} {c c' : Cursor} {b : Bytes.Cursor}

structure Stands (s : List Char) (b : Bytes.Cursor) (c : Cursor) : Prop where
  input : b.input = s
  pos : b.pos = c.pos
  rest : sliceFrom s c.pos = some c.rest
  touched : ∀ offset ∈ b.touched, IsCharBoundary s offset

def Agrees (s : List Char) (x : Except Bytes.Fault α × Bytes.Cursor) :
    Outcome PatternParseError (α × Cursor) → Prop
  | .ok (a, c) => x.1 = .ok a ∧ Stands s x.2 c
  | .err e => x.1 = .error (.error e) ∧ ∀ offset ∈ x.2.touched, IsCharBoundary s offset
  | .panic => x.1 = .error .panic

def Follows (s : List Char) (c : Cursor) (p : Bytes.Parser α)
    (r : Outcome PatternParseError (α × Cursor)) : Prop :=
  ∀ b, Stands s b c → Agrees s (p.run b) r

lemma run_bind (p : Bytes.Parser α) (f : α → Bytes.Parser β) (b : Bytes.Cursor) :
    (p >>= f).run b = match (p.run b : Except Bytes.Fault α × Bytes.Cursor) with
      | (.ok a, b') => (f a).run b'
      | (.error e, b') => (.error e, b') := by
  unfold ExceptT.run
  simp only [bind, ExceptT.bind, ExceptT.mk, StateT.bind, ExceptT.bindCont]
  rcases p b with ⟨_ | _, b'⟩ <;> rfl

lemma Follows.step {p : Bytes.Parser α} {f : α → Bytes.Parser β} {a : α}
    {r : Outcome PatternParseError (β × Cursor)} (hp : Follows s c p (.ok (a, c')))
    (hf : Follows s c' (f a) r) : Follows s c (p >>= f) r := by
  intro b hb
  obtain ⟨hrun, hb'⟩ := hp b hb
  rw [run_bind]
  rcases hx : (p.run b : Except Bytes.Fault α × Bytes.Cursor) with ⟨x, b'⟩
  rw [hx] at hrun hb'
  obtain rfl : x = .ok a := hrun
  exact hf b' hb'

lemma Follows.err {p : Bytes.Parser α} {f : α → Bytes.Parser β} {e : PatternParseError}
    (hp : Follows s c p (.err e)) : Follows s c (p >>= f) (.err e) := by
  intro b hb
  obtain ⟨hrun, hb'⟩ := hp b hb
  rw [run_bind]
  rcases hx : (p.run b : Except Bytes.Fault α × Bytes.Cursor) with ⟨x, b'⟩
  rw [hx] at hrun hb'
  obtain rfl : x = .error (.error e) := hrun
  exact ⟨rfl, hb'⟩

lemma Follows.panic {p : Bytes.Parser α} {f : α → Bytes.Parser β}
    (hp : Follows s c p .panic) : Follows s c (p >>= f) .panic := by
  intro b hb
  have hrun := hp b hb
  rw [run_bind]
  rcases hx : (p.run b : Except Bytes.Fault α × Bytes.Cursor) with ⟨x, b'⟩
  rw [hx] at hrun
  obtain rfl : x = .error .panic := hrun
  rfl

lemma Follows.bind {p : Bytes.Parser α} {f : α → Bytes.Parser β}
    {x : Except PatternParseError (α × Cursor)}
    {g : α × Cursor → Except PatternParseError (β × Cursor)} (hp : Follows s c p (.ofExcept x))
    (hf : ∀ a c', x = .ok (a, c') → Follows s c' (f a) (.ofExcept (g (a, c')))) :
    Follows s c (p >>= f) (.ofExcept (x >>= g)) := by
  rcases x with e | ⟨a, c'⟩
  · exact hp.err
  · exact hp.step (hf a c' rfl)

lemma Follows.bind_unit {p : Bytes.Parser Unit} {f : Unit → Bytes.Parser β}
    {x : Except PatternParseError Cursor} {g : Cursor → Except PatternParseError (β × Cursor)}
    (hp : Follows s c p (.ofExcept (x.map ((), ·))))
    (hf : ∀ c', x = .ok c' → Follows s c' (f ()) (.ofExcept (g c'))) :
    Follows s c (p >>= f) (.ofExcept (x >>= g)) := by
  rcases x with e | c'
  · exact hp.err
  · exact hp.step (hf c' rfl)

lemma Follows.of_rest {p : Bytes.Parser α} {r : Outcome PatternParseError (α × Cursor)}
    (h : sliceFrom s c.pos = some c.rest → Follows s c p r) : Follows s c p r :=
  fun b hb => h hb.rest b hb

lemma follows_pure (a : α) : Follows s c (pure a) (.ok (a, c)) := fun _ hb => ⟨rfl, hb⟩

lemma follows_getPos : Follows s c Bytes.getPos (.ok (c.pos, c)) :=
  fun _ hb => ⟨congrArg Except.ok hb.pos, hb⟩

lemma follows_rounds : Follows s c Bytes.rounds (.ok (s.length + 1, c)) := by
  intro b hb
  refine ⟨?_, hb⟩
  rw [← hb.input]
  rfl

lemma follows_fail (message : String) :
    Follows s c (Bytes.fail (α := α) message) (.err (c.error message)) := by
  intro b hb
  refine ⟨?_, hb.touched⟩
  rw [Cursor.error, ← hb.pos]
  rfl

lemma follows_touch {offset : Nat} (h : IsCharBoundary s offset) :
    Follows s c (Bytes.touch offset) (.ok ((), c)) :=
  fun _ hb => ⟨rfl, hb.input, hb.pos, hb.rest, List.forall_mem_cons.mpr ⟨h, hb.touched⟩⟩

lemma follows_get {f : Bytes.Cursor → Bytes.Parser α} {r : Outcome PatternParseError (α × Cursor)}
    (h : ∀ b, Stands s b c → Follows s c (f b) r) : Follows s c (get >>= f) r := by
  intro b hb
  rw [run_bind]
  exact h b hb b hb

lemma follows_remaining : Follows s c Bytes.remaining (.ok (c.rest, c)) := by
  refine follows_get (fun b hb => ?_)
  rw [hb.pos, hb.input, hb.rest]
  exact (follows_touch (.of_slice hb.rest)).step (follows_pure c.rest)

lemma follows_peek : Follows s c Bytes.peek (.ok (c.peek, c)) :=
  follows_remaining.step (follows_pure c.rest.head?)

lemma follows_isEmpty : Follows s c Bytes.isEmpty (.ok (c.isEmpty, c)) := by
  refine follows_get (fun b hb => ?_)
  have hempty : decide (utf8Len b.input ≤ b.pos) = c.isEmpty := by
    obtain ⟨front, hfront, hpos⟩ := sliceFrom_eq_some.mp hb.rest
    rw [hb.input, hb.pos, hfront, utf8Len_append, hpos, Cursor.isEmpty]
    cases c.rest with
    | nil => simp
    | cons d rest =>
      have hd := d.utf8Size_pos
      simp only [utf8Len_cons, List.isEmpty_cons, decide_eq_false_iff_not]
      omega
  rw [hempty]
  exact follows_pure _

lemma advance_pos (c : Cursor) (n : Nat) :
    (c.advance n).pos = c.pos + utf8Len (c.rest.take n) := by
  have hfold : ∀ (s : List Char) (pos : Nat),
      s.foldl (fun pos d => pos + d.utf8Size) pos = pos + utf8Len s := by
    intro s
    induction s with
    | nil => exact fun pos => rfl
    | cons d s ih =>
      intro pos
      rw [List.foldl_cons, ih, utf8Len_cons, Nat.add_assoc]
  exact hfold _ _

lemma advance_advance (c : Cursor) (m n : Nat) :
    (c.advance m).advance n = c.advance (m + n) := by
  have hpos : ((c.advance m).advance n).pos = (c.advance (m + n)).pos := by
    rw [advance_pos, advance_pos, advance_pos, Cursor.advance_rest, Nat.add_assoc,
      ← utf8Len_append, ← List.take_add]
  have hrest : ((c.advance m).advance n).rest = (c.advance (m + n)).rest := List.drop_drop
  cases h : (c.advance m).advance n
  cases h' : c.advance (m + n)
  rw [h, h'] at hpos hrest
  rw [Cursor.mk.injEq]
  exact ⟨hpos, hrest⟩

lemma follows_advance {front back : List Char} {n : Nat} (hrest : c.rest = front ++ back)
    (hn : utf8Len front = n) :
    Follows s c (Bytes.advance n) (.ok ((), c.advance front.length)) := by
  intro b hb
  have hpos : (c.advance front.length).pos = b.pos + n := by
    rw [advance_pos, hrest, List.take_left, hn, hb.pos]
  have hback : sliceFrom s (b.pos + n) = some back := by
    rw [hb.pos, ← hn]
    exact sliceFrom_add (by rw [hb.rest, hrest])
  refine ⟨rfl, hb.input, hpos.symm, ?_, List.forall_mem_cons.mpr ⟨.of_slice hback, hb.touched⟩⟩
  rw [hpos, hback, Cursor.advance_rest, hrest, List.drop_left]

lemma follows_advance_peek {d : Char} (hpeek : c.peek = some d) :
    Follows s c (Bytes.advance d.utf8Size) (.ok ((), c.advance 1)) := by
  have hrest := Cursor.rest_of_peek hpeek
  have hlen : utf8Len [d] = d.utf8Size := by simp
  exact follows_advance (List.singleton_append ▸ hrest) hlen

lemma follows_advance_one {d : Char} (hpeek : c.peek = some d) (hd : d.utf8Size = 1) :
    Follows s c (Bytes.advance 1) (.ok ((), c.advance 1)) := by
  have h := follows_advance_peek (s := s) hpeek
  rwa [hd] at h

lemma follows_advance_inside {d : Char} {p : Unit → Bytes.Parser α} (hpeek : c.peek = some d)
    (hd : d.utf8Size ≠ 1) (hp : ∀ b : Bytes.Cursor, sliceFrom b.input b.pos = none →
      ((p ()).run b : Except Bytes.Fault α × Bytes.Cursor).1 = .error .panic) :
    Follows s c (Bytes.advance 1 >>= p) .panic := by
  intro b hb
  rw [run_bind]
  refine hp _ ?_
  have hpos := d.utf8Size_pos
  have hslice : sliceFrom b.input b.pos = some (d :: (c.advance 1).rest) := by
    rw [hb.input, hb.pos, hb.rest, Cursor.rest_of_peek hpeek]
  exact sliceFrom_inside hslice Nat.one_pos (by omega)

lemma follows_sliceSince {n : Nat} (hstart : sliceFrom s c.pos = some c.rest) :
    Follows s (c.advance n) (Bytes.sliceSince c.pos) (.ok (c.rest.take n, c.advance n)) := by
  refine follows_get (fun b hb => ?_)
  have hslice : slice b.input c.pos b.pos = some (c.rest.take n) := by
    rw [hb.input, hb.pos, advance_pos]
    refine slice_append (c.rest.drop n) ?_
    rw [hstart, List.take_append_drop]
  refine (follows_touch (.of_slice hstart)).step ?_
  refine (follows_touch (hb.pos ▸ .of_slice hb.rest)).step ?_
  rw [hslice]
  exact follows_pure _

lemma length_rest_lt (hrest : sliceFrom s c.pos = some c.rest) :
    c.rest.length < s.length + 1 := by
  obtain ⟨front, hfront, -⟩ := sliceFrom_eq_some.mp hrest
  rw [hfront, List.length_append]
  omega

lemma peek_eq_none : c.peek = none ↔ c.rest = [] := List.head?_eq_none_iff

lemma follows_advanceWhile {p : Char → Bool} {width : Char → Nat} {fuel : Nat}
    (hwidth : ∀ d, p d = true → width d = d.utf8Size) (hfuel : c.rest.length < fuel) :
    Follows s c (Bytes.advanceWhile p width fuel) (.ok ((), (c.takeWhile p).2)) := by
  induction fuel generalizing c with
  | zero => cases hfuel
  | succ fuel ih =>
    refine follows_peek.step ?_
    cases hpeek : c.peek with
    | none =>
      rw [Cursor.takeWhile, (peek_eq_none).mp hpeek]
      exact follows_pure ()
    | some d =>
      have hrest := Cursor.rest_of_peek hpeek
      dsimp only
      by_cases hp : p d = true
      · rw [if_pos hp, hwidth d hp]
        refine (follows_advance_peek hpeek).step ?_
        have hlength := congrArg List.length hrest
        rw [List.length_cons] at hlength
        have hnext := ih (c := c.advance 1) (by omega)
        rw [Cursor.takeWhile, advance_advance] at hnext
        rw [Cursor.takeWhile, hrest, List.takeWhile_cons_of_pos hp, List.length_cons, Nat.add_comm]
        exact hnext
      · rw [if_neg hp, Cursor.takeWhile, hrest, List.takeWhile_cons_of_neg hp]
        exact follows_pure ()

lemma follows_takeWhile {p : Char → Bool} {width : Char → Nat}
    (hwidth : ∀ d, p d = true → width d = d.utf8Size) :
    Follows s c (do Bytes.advanceWhile p width (← Bytes.rounds))
      (.ok ((), (c.takeWhile p).2)) :=
  .of_rest fun hrest => follows_rounds.step (follows_advanceWhile hwidth (length_rest_lt hrest))

lemma follows_skipWhitespace : Follows s c Bytes.skipWhitespace (.ok ((), c.skipWhitespace)) :=
  follows_takeWhile (fun _ _ => rfl)

lemma follows_expect (ch : Char) :
    Follows s c (Bytes.expect ch) (.ofExcept ((c.expect ch).map ((), ·))) := by
  refine follows_skipWhitespace.step (follows_peek.step ?_)
  rw [Cursor.expect]
  cases hpeek : c.skipWhitespace.peek with
  | none => exact follows_fail _
  | some d =>
    dsimp only
    by_cases hd : d = ch
    · rw [if_pos hd, if_pos hd]
      exact follows_advance_peek hpeek
    · rw [if_neg hd, if_neg hd]
      exact follows_fail _

lemma follows_sliced {p : Char → Bool} {width : Char → Nat} {f : List Char → Bytes.Parser α}
    {r : Outcome PatternParseError (α × Cursor)} (hwidth : ∀ d, p d = true → width d = d.utf8Size)
    (hf : Follows s (c.takeWhile p).2 (f (c.takeWhile p).1) r) :
    Follows s c (do
      let start ← Bytes.getPos
      Bytes.advanceWhile p width (← Bytes.rounds)
      f (← Bytes.sliceSince start)) r := by
  refine .of_rest (fun hrest => follows_getPos.step (follows_rounds.step ?_))
  refine (follows_advanceWhile hwidth (length_rest_lt hrest)).step ?_
  have hslice := follows_sliceSince (n := (c.rest.takeWhile p).length) hrest
  rw [List.prefix_iff_eq_take.mp (List.takeWhile_prefix p) |>.symm] at hslice
  exact hslice.step hf

end Follows

section Tool

variable {R : Type} {lib : RegexLib R} {s : List Char} {c : Cursor}

lemma follows_parseNamedTool :
    Follows s c (Bytes.parseNamedTool (R := R)) (parseNamedTool c) := by
  refine follows_sliced (fun _ _ => rfl) ?_
  rw [parseNamedTool]
  dsimp only
  split
  · exact follows_fail _
  · split
    · exact follows_pure _
    · exact follows_pure _

def regexEnd (c : Cursor) : Option (List Char × List Char) → Outcome PatternParseError (Unit × Cursor)
  | none => .panic
  | some (body, _) => .ok ((), c.advance body.length)

lemma regexEnd_map (c : Cursor) (front : List Char) (x : Option (List Char × List Char)) :
    regexEnd c (x.map (Prod.map (front ++ ·) id)) = regexEnd (c.advance front.length) x := by
  rcases x with _ | ⟨body, rest⟩
  · rfl
  · simp [regexEnd, advance_advance]

lemma peek_stuck {f : Option Char → Bytes.Parser α} (b : Bytes.Cursor)
    (h : sliceFrom b.input b.pos = none) :
    ((Bytes.peek >>= f).run b : Except Bytes.Fault α × Bytes.Cursor).1 = .error .panic := by
  have hremaining : (Bytes.remaining.run b : Except Bytes.Fault (List Char) × Bytes.Cursor) =
      (.error .panic, { b with touched := b.pos :: b.touched }) := by
    rw [Bytes.remaining, run_bind]
    change ((Bytes.touch b.pos >>= _).run b) = _
    rw [run_bind, h]
    rfl
  rw [Bytes.peek, run_bind, run_bind, hremaining]

lemma regexBody_stuck (fuel depth : Nat) (b : Bytes.Cursor) (h : sliceFrom b.input b.pos = none) :
    ((Bytes.regexBody fuel depth).run b : Except Bytes.Fault Unit × Bytes.Cursor).1 =
      .error .panic := by
  cases fuel with
  | zero => rfl
  | succ fuel => exact peek_stuck b h

lemma scanRegex_nil (depth : Nat) : scanRegex depth [] = some ([], []) := by
  rw [scanRegex.eq_def]

lemma scanRegex_last (depth : Nat) : scanRegex depth ['\\'] = some (['\\'], []) := by
  rw [scanRegex.eq_def]
  rfl

lemma follows_regexBody {fuel : Nat} (depth : Nat) (hfuel : c.rest.length < fuel) :
    Follows s c (Bytes.regexBody fuel depth) (regexEnd c (scanRegex depth c.rest)) := by
  induction fuel generalizing c depth with
  | zero => cases hfuel
  | succ fuel ih =>
    refine follows_peek.step ?_
    cases hpeek : c.peek with
    | none =>
      rw [(peek_eq_none).mp hpeek, scanRegex_nil]
      exact follows_pure ()
    | some d =>
      have hrest := Cursor.rest_of_peek hpeek
      have hlength := congrArg List.length hrest
      rw [List.length_cons] at hlength
      dsimp only
      by_cases hb : d = '\\'
      · subst hb
        rw [if_pos rfl]
        refine (follows_advance_one hpeek rfl).step ?_
        rw [Bytes.skipEscaped, bind_assoc]
        refine follows_peek.step ?_
        cases hpeek' : (c.advance 1).peek with
        | none =>
          rw [hrest, (peek_eq_none).mp hpeek', scanRegex_last]
          have hnext := ih (c := c.advance 1) depth (by omega)
          rw [(peek_eq_none).mp hpeek', scanRegex_nil] at hnext
          exact (follows_pure ()).step hnext
        | some e =>
          have hrest' := Cursor.rest_of_peek hpeek'
          have hlength' := congrArg List.length hrest'
          rw [List.length_cons] at hlength'
          rw [hrest, hrest', scanRegex_escape]
          dsimp only
          by_cases he : e.utf8Size = 1
          · rw [if_pos he, regexEnd_map c ['\\', e]]
            have hnext := ih (c := (c.advance 1).advance 1) depth (by omega)
            refine (follows_advance_one hpeek' he).step ?_
            rwa [advance_advance] at hnext ⊢
          · rw [if_neg he]
            exact follows_advance_inside hpeek' he (regexBody_stuck fuel depth)
      · by_cases hs : d = '/' ∧ depth = 0
        · obtain ⟨rfl, rfl⟩ := hs
          rw [hrest, scanRegex_slash]
          exact follows_pure ()
        · have hnext := ih (c := c.advance 1) (behind depth d) (by omega)
          rw [← List.length_singleton (a := d), ← regexEnd_map c [d]] at hnext
          rw [hrest, scanRegex_char hb hs, if_neg hb, if_neg hs]
          by_cases ho : d = '('
          · subst ho
            exact (follows_advance_one hpeek rfl).step hnext
          · by_cases hc : d = ')'
            · subst hc
              exact (follows_advance_one hpeek rfl).step hnext
            · have hsame : behind depth d = depth := by rw [behind, if_neg ho, if_neg hc]
              rw [if_neg ho, if_neg hc]
              rw [hsame] at hnext ⊢
              exact (follows_advance_peek hpeek).step hnext

lemma follows_parseRegexTool : Follows s c (Bytes.parseRegexTool lib) (parseRegexTool lib c) := by
  refine .of_rest (fun hrest => follows_getPos.step (follows_rounds.step ?_))
  have hbody := follows_regexBody (s := s) 0 (length_rest_lt hrest)
  rw [parseRegexTool]
  cases hscan : scanRegex 0 c.rest with
  | none =>
    rw [hscan] at hbody
    exact hbody.panic
  | some scanned =>
    obtain ⟨body, rest⟩ := scanned
    rw [hscan] at hbody
    have hslice := follows_sliceSince (n := body.length) hrest
    rw [(scanRegex_ok hscan).1, List.take_left] at hslice
    refine hbody.step (hslice.step ?_)
    dsimp only
    split
    · exact follows_fail _
    · have hexpect := follows_expect (s := s) (c := c.advance body.length) '/'
      cases hslash : (c.advance body.length).expect '/' with
      | error e =>
        rw [hslash] at hexpect
        exact hexpect.err
      | ok c' =>
        rw [hslash] at hexpect
        refine hexpect.step ?_
        cases lib.new body with
        | error e => exact follows_fail _
        | ok re => exact follows_pure _

lemma follows_parseToolPart : Follows s c (Bytes.parseToolPart lib) (parseToolPart lib c) := by
  refine follows_skipWhitespace.step (follows_peek.step ?_)
  rw [parseToolPart]
  by_cases hslash : c.skipWhitespace.peek = some '/'
  · rw [if_pos hslash, if_pos hslash]
    exact (follows_advance_one hslash rfl).step follows_parseRegexTool
  · rw [if_neg hslash, if_neg hslash]
    exact follows_parseNamedTool

end Tool

section Paths

variable {s : List Char} {c : Cursor}

lemma utf8Size_of_identifierChar {d : Char} (h : isIdentifierChar d = true) : d.utf8Size = 1 :=
  utf8Size_of_ascii (by have := toNat_of_identifierChar h; omega)

lemma follows_parseIdentifier :
    Follows s c Bytes.parseIdentifier (.ofExcept (parseIdentifier c)) := by
  refine follows_sliced (fun _ hd => (utf8Size_of_identifierChar hd).symm) ?_
  rw [parseIdentifier]
  dsimp only
  split
  · exact follows_fail _
  · exact follows_pure _

lemma utf8Size_of_digit {d : Char} (h : d.isDigit = true) : d.utf8Size = 1 := by
  refine utf8Size_of_identifierChar ?_
  rw [isIdentifierChar, Char.isAlphanum, h, Bool.or_true, Bool.true_or, Bool.true_or]

lemma follows_parseUsize : Follows s c Bytes.parseUsize (.ofExcept (parseUsize c)) := by
  refine follows_sliced (fun _ hd => (utf8Size_of_digit hd).symm) ?_
  rw [parseUsize]
  dsimp only
  split
  · exact follows_fail _
  · exact follows_pure _

lemma follows_parseIndex : Follows s c Bytes.parseIndex (.ofExcept (parseIndex c)) := by
  refine follows_skipWhitespace.step (follows_peek.step ?_)
  rw [parseIndex]
  dsimp only
  by_cases hstar : c.skipWhitespace.peek = some '*'
  · rw [if_pos hstar, if_pos hstar]
    refine (follows_advance_one hstar rfl).step ?_
    exact (follows_expect ']').bind_unit (fun _ _ => follows_pure _)
  · rw [if_neg hstar, if_neg hstar]
    refine follows_parseUsize.bind (fun i c' _ => ?_)
    exact (follows_expect ']').bind_unit (fun _ _ => follows_pure _)

lemma parseIndex_shorter {c c' : Cursor} {segment : PathSegment}
    (h : parseIndex c = .ok (segment, c')) : c'.rest.length < c.rest.length := by
  obtain ⟨-, -, inner, -, hrest⟩ := parseIndex_ok h
  rw [hrest, List.length_append, List.length_cons]
  omega

lemma follows_parseIndices {fuel fuel' : Nat} (hfuel : c.rest.length < fuel)
    (hfuel' : c.rest.length ≤ fuel') :
    Follows s c (Bytes.parseIndices fuel) (.ofExcept (parseIndices fuel' c)) := by
  induction fuel generalizing c fuel' with
  | zero => cases hfuel
  | succ fuel ih =>
    refine follows_peek.step ?_
    by_cases hopen : c.peek = some '['
    · have hlength := congrArg List.length (Cursor.rest_of_peek hopen)
      rw [List.length_cons] at hlength
      obtain ⟨fuel', rfl⟩ := Nat.exists_eq_succ_of_ne_zero (n := fuel') (by omega)
      rw [if_pos hopen, parseIndices, if_pos hopen]
      refine (follows_advance_one hopen rfl).step ?_
      refine follows_parseIndex.bind (fun segment c' hindex => ?_)
      have hshort := parseIndex_shorter hindex
      refine (ih (by omega) (by omega)).bind (fun segments c'' _ => ?_)
      exact follows_pure _
    · rw [if_neg hopen, parseIndices_none hopen]
      exact follows_pure _

lemma follows_parseName : Follows s c Bytes.parseName (.ofExcept (parseName c)) := by
  refine follows_skipWhitespace.step (follows_peek.step ?_)
  rw [parseName]
  dsimp only
  by_cases hstar : c.skipWhitespace.peek = some '*'
  · rw [if_pos hstar, if_pos hstar]
    exact (follows_advance_one hstar rfl).step (follows_pure _)
  · rw [if_neg hstar, if_neg hstar]
    exact follows_parseIdentifier.bind (fun _ _ _ => follows_pure _)

lemma length_skipWhitespace_le (c : Cursor) : c.skipWhitespace.rest.length ≤ c.rest.length :=
  (Cursor.skipWhitespace_suffix c).length_le

lemma parseName_shorter {c c' : Cursor} {segment : PathSegment}
    (h : parseName c = .ok (segment, c')) : c'.rest.length < c.rest.length := by
  obtain ⟨hnamed, hshaped, hrest⟩ := parseName_ok h
  have hle := length_skipWhitespace_le c
  have hdisplay : 0 < segment.display.length := by
    cases segment with
    | index i => cases hnamed
    | anyIndex => cases hnamed
    | wildcard => exact Nat.one_pos
    | field name => exact List.length_pos_of_ne_nil hshaped.1
  rw [hrest, List.length_append] at hle
  omega

lemma parseIndices_shorter {c c' : Cursor} {fuel : Nat} {path : List PathSegment}
    (h : parseIndices fuel c = .ok (path, c')) : c'.rest.length ≤ c.rest.length := by
  induction fuel generalizing c path with
  | zero =>
    obtain ⟨-, rfl⟩ := Prod.mk.inj (Except.ok.inj h)
    exact le_rfl
  | succ fuel ih =>
    by_cases hopen : c.peek = some '['
    · have hlength := congrArg List.length (Cursor.rest_of_peek hopen)
      rw [List.length_cons] at hlength
      rw [parseIndices, if_pos hopen] at h
      obtain ⟨⟨segment, c₁⟩, hindex, h⟩ := bind_ok h
      obtain ⟨⟨segments, c₂⟩, hloop, h⟩ := bind_ok h
      obtain ⟨-, rfl⟩ := Prod.mk.inj (Except.ok.inj h)
      have hshort := parseIndex_shorter hindex
      have hnext := ih hloop
      omega
    · rw [parseIndices_none hopen] at h
      obtain ⟨-, rfl⟩ := Prod.mk.inj (Except.ok.inj h)
      exact le_rfl

lemma follows_parseFieldPathLoop {fuel fuel' : Nat} (hfuel : c.rest.length < fuel)
    (hfuel' : c.rest.length < fuel') :
    Follows s c (Bytes.parseFieldPathLoop fuel) (.ofExcept (parseFieldPathLoop fuel' c)) := by
  induction fuel generalizing c fuel' with
  | zero => cases hfuel
  | succ fuel ih =>
    obtain ⟨fuel', rfl⟩ := Nat.exists_eq_succ_of_ne_zero (Nat.ne_zero_of_lt hfuel')
    rw [Bytes.parseFieldPathLoop, parseFieldPathLoop]
    refine follows_parseName.bind (fun segment c₁ hname => ?_)
    have hshort₁ := parseName_shorter hname
    refine follows_rounds.step (.of_rest fun hrest => ?_)
    refine (follows_parseIndices (length_rest_lt hrest) le_rfl).bind (fun indices c₂ hindices => ?_)
    have hshort₂ := parseIndices_shorter hindices
    refine follows_peek.step ?_
    dsimp only
    by_cases hdot : c₂.peek = some '.'
    · have hlength := congrArg List.length (Cursor.rest_of_peek hdot)
      rw [List.length_cons] at hlength
      rw [if_pos hdot, if_pos hdot]
      refine (follows_advance_one hdot rfl).step ?_
      exact (ih (by omega) (by omega)).bind (fun _ _ _ => follows_pure _)
    · rw [if_neg hdot, if_neg hdot]
      exact follows_pure _

lemma follows_parseFieldPath : Follows s c Bytes.parseFieldPath (.ofExcept (parseFieldPath c)) :=
  .of_rest fun hrest => follows_rounds.step
    (follows_parseFieldPathLoop (length_rest_lt hrest) (Nat.lt_succ_self _))

end Paths

section Conditions

variable {s : List Char} {c : Cursor}

lemma parseMatchOp_eq (c : Cursor) : parseMatchOp c =
    if ['!', '=', '~'].isPrefixOf c.rest then .ok (.notRegex, c.advance 3)
    else if ['!', '='].isPrefixOf c.rest then .ok (.notExact, c.advance 2)
    else if ['!', '~'].isPrefixOf c.rest then .ok (.notGlob, c.advance 2)
    else if ['=', '~'].isPrefixOf c.rest then .ok (.regex, c.advance 2)
    else if ['~'].isPrefixOf c.rest then .ok (.glob, c.advance 1)
    else if ['='].isPrefixOf c.rest then .ok (.exact, c.advance 1)
    else .error (c.error "expected operator: ~, =, =~, !~, !=, or !=~") := by
  have hstop : ∀ op : List Char, (∀ t, c.rest ≠ op ++ t) → ¬(op.isPrefixOf c.rest = true) := by
    intro op hop hp
    obtain ⟨t, ht⟩ := List.isPrefixOf_iff_prefix.mp hp
    exact hop t ht.symm
  rw [parseMatchOp]
  split
  · rename_i hrest
    simp [hrest]
  · rename_i tail hnot hrest
    have hthird : ∀ t, c.rest ≠ ['!', '=', '~'] ++ t := by
      intro t ht
      refine hnot t ?_
      simpa [hrest] using ht
    rw [if_neg (hstop _ hthird)]
    simp [hrest]
  · rename_i hrest
    simp [hrest]
  · rename_i hrest
    simp [hrest]
  · rename_i hrest
    simp [hrest]
  · rename_i tail hnot hrest
    have hsecond : ∀ t, c.rest ≠ ['=', '~'] ++ t := by
      intro t ht
      refine hnot t ?_
      simpa [hrest] using ht
    rw [if_neg (hstop ['=', '~'] hsecond)]
    simp [hrest]
  · rename_i h₁ h₂ h₃ h₄ h₅ h₆
    rw [if_neg (hstop _ h₁), if_neg (hstop _ h₂), if_neg (hstop _ h₃), if_neg (hstop _ h₄),
      if_neg (hstop _ h₅), if_neg (hstop _ h₆)]

lemma follows_advance_text {front : List Char} {n : Nat} (hfront : front.isPrefixOf c.rest = true)
    (hn : utf8Len front = n) : Follows s c (Bytes.advance n) (.ok ((), c.advance front.length)) := by
  obtain ⟨back, hback⟩ := List.isPrefixOf_iff_prefix.mp hfront
  exact follows_advance hback.symm hn

lemma follows_parseMatchOp : Follows s c Bytes.parseMatchOp (.ofExcept (parseMatchOp c)) := by
  refine follows_remaining.step ?_
  rw [parseMatchOp_eq]
  split
  · rename_i h
    exact (follows_advance_text h rfl).step (follows_pure _)
  · split
    · rename_i h
      exact (follows_advance_text h rfl).step (follows_pure _)
    · split
      · rename_i h
        exact (follows_advance_text h rfl).step (follows_pure _)
      · split
        · rename_i h
          exact (follows_advance_text h rfl).step (follows_pure _)
        · split
          · rename_i h
            exact (follows_advance_text h rfl).step (follows_pure _)
          · split
            · rename_i h
              exact (follows_advance_text h rfl).step (follows_pure _)
            · exact follows_fail _

def quotedEnd (c : Cursor) (value : List Char) :
    Except Unterminated (List Char × Nat) → Outcome PatternParseError (List Char × Cursor)
  | .error e => .err ((c.advance c.rest.length).error e.message)
  | .ok (more, n) => .ok (value ++ more, c.advance n)

lemma quotedEnd_map {k : Nat} (hk : k ≤ c.rest.length) (value got : List Char)
    (x : Except Unterminated (List Char × Nat)) :
    quotedEnd c value (x.map (Prod.map (got ++ ·) (· + k))) =
      quotedEnd (c.advance k) (value ++ got) x := by
  rcases x with e | ⟨more, n⟩
  · have hend : (c.advance k).advance (c.advance k).rest.length = c.advance c.rest.length := by
      rw [advance_advance, Cursor.advance_rest, List.length_drop, Nat.add_sub_cancel' hk]
    change Outcome.err _ = Outcome.err _
    rw [hend]
  · change Outcome.ok (value ++ (got ++ more), c.advance (n + k)) =
      Outcome.ok (value ++ got ++ more, (c.advance k).advance n)
    rw [advance_advance, List.append_assoc, Nat.add_comm]

lemma follows_quotedValue {fuel : Nat} (value : List Char) (hfuel : c.rest.length < fuel) :
    Follows s c (Bytes.quotedValue fuel value) (quotedEnd c value (scanQuoted c.rest)) := by
  induction fuel generalizing c value with
  | zero => cases hfuel
  | succ fuel ih =>
    refine follows_peek.step ?_
    cases hpeek : c.peek with
    | none =>
      have hrest := peek_eq_none.mp hpeek
      have hend : quotedEnd c value (scanQuoted c.rest) =
          .err (c.error "unterminated string literal") := by
        rw [hrest, scanQuoted, quotedEnd, hrest]
        rfl
      rw [hend]
      exact follows_fail _
    | some d =>
      have hrest := Cursor.rest_of_peek hpeek
      have hlength := congrArg List.length hrest
      rw [List.length_cons] at hlength
      dsimp only
      by_cases hq : d = '"'
      · subst hq
        rw [if_pos rfl, hrest, scanQuoted_quote, quotedEnd, List.append_nil]
        exact (follows_advance_one hpeek rfl).step (follows_pure value)
      rw [if_neg hq]
      by_cases hb : d = '\\'
      · subst hb
        rw [if_pos rfl]
        refine (follows_advance_one hpeek rfl).step (follows_peek.step ?_)
        cases hpeek' : (c.advance 1).peek with
        | none =>
          have hend : quotedEnd c value (scanQuoted c.rest) =
              .err ((c.advance 1).error "unterminated escape sequence") := by
            rw [hrest, peek_eq_none.mp hpeek', scanQuoted, if_neg (by decide), if_pos rfl,
              quotedEnd, hrest, peek_eq_none.mp hpeek']
            rfl
          rw [hend]
          exact follows_fail _
        | some e =>
          have hrest' := Cursor.rest_of_peek hpeek'
          have hlength' := congrArg List.length hrest'
          rw [List.length_cons] at hlength'
          have hnext : ∀ got : List Char, Follows s ((c.advance 1).advance 1)
              (Bytes.quotedValue fuel (value ++ got)) (quotedEnd c value
                ((scanQuoted ((c.advance 1).advance 1).rest).map
                  (Prod.map (got ++ ·) (· + 2)))) := by
            intro got
            rw [quotedEnd_map (by omega), ← advance_advance c 1 1]
            exact ih _ (by omega)
          dsimp only
          rw [hrest, hrest', scanQuoted_escape]
          by_cases he : e = '"' ∨ e = '\\'
          · rw [if_pos he, if_pos he]
            have hone : e.utf8Size = 1 := by rcases he with rfl | rfl <;> rfl
            exact (follows_advance_one hpeek' hone).step (hnext [e])
          · rw [if_neg he, if_neg he]
            exact (follows_advance_peek hpeek').step (hnext ['\\', e])
      · have hnext : Follows s (c.advance 1) (Bytes.quotedValue fuel (value ++ [d]))
            (quotedEnd c value
              ((scanQuoted (c.advance 1).rest).map (Prod.map ([d] ++ ·) (· + 1)))) := by
          rw [quotedEnd_map (by omega)]
          exact ih _ (by omega)
        rw [if_neg hb, hrest, scanQuoted_char hq hb]
        exact (follows_advance_peek hpeek).step hnext

lemma follows_parseQuotedValue :
    Follows s c Bytes.parseQuotedValue (.ofExcept (parseQuotedValue c)) := by
  refine follows_skipWhitespace.step (follows_peek.step ?_)
  rw [parseQuotedValue]
  dsimp only
  by_cases hquote : c.skipWhitespace.peek = some '"'
  · rw [if_neg (not_not.mpr hquote), if_neg (not_not.mpr hquote)]
    refine (follows_advance_one hquote rfl).step (.of_rest fun hrest => follows_rounds.step ?_)
    have hvalue := follows_quotedValue (s := s) [] (length_rest_lt hrest)
    cases hscan : scanQuoted (c.skipWhitespace.advance 1).rest with
    | error e =>
      rw [hscan] at hvalue
      exact hvalue
    | ok scanned =>
      rw [hscan] at hvalue
      exact hvalue
  · rw [if_pos hquote, if_pos hquote]
    exact follows_fail _

lemma follows_parseSingleFieldCondition :
    Follows s c Bytes.parseSingleFieldCondition (.ofExcept (parseSingleFieldCondition c)) := by
  refine follows_skipWhitespace.step (follows_parseFieldPath.bind fun path c₁ _ => ?_)
  refine follows_skipWhitespace.step (follows_parseMatchOp.bind fun op c₂ _ => ?_)
  refine follows_skipWhitespace.step (follows_parseQuotedValue.bind fun value c₃ _ => ?_)
  exact follows_pure _

lemma length_advance_le (c : Cursor) (n : Nat) : (c.advance n).rest.length ≤ c.rest.length := by
  rw [Cursor.advance_rest, List.length_drop]
  exact Nat.sub_le _ _

lemma parseFieldPathLoop_shorter {c c' : Cursor} {fuel : Nat} {path : List PathSegment}
    (h : parseFieldPathLoop fuel c = .ok (path, c')) :
    c'.rest.length ≤ c.rest.length ∧ (fuel ≠ 0 → c'.rest.length < c.rest.length) := by
  induction fuel generalizing c c' path with
  | zero =>
    obtain ⟨-, rfl⟩ := Prod.mk.inj (Except.ok.inj h)
    exact ⟨le_rfl, fun hne => absurd rfl hne⟩
  | succ fuel ih =>
    rw [parseFieldPathLoop] at h
    obtain ⟨⟨segment, c₁⟩, hname, h⟩ := bind_ok h
    obtain ⟨⟨indices, c₂⟩, hindices, h⟩ := bind_ok h
    have hshort₁ := parseName_shorter hname
    have hshort₂ := parseIndices_shorter hindices
    have hlt : c'.rest.length < c.rest.length := by
      dsimp only at h
      split at h
      · obtain ⟨⟨segments, c₃⟩, hloop, h⟩ := bind_ok h
        obtain ⟨-, rfl⟩ := Prod.mk.inj (Except.ok.inj h)
        have hle := length_advance_le c₂ 1
        have hshort₃ := (ih hloop).1
        exact lt_of_le_of_lt ((hshort₃.trans hle).trans hshort₂) hshort₁
      · obtain ⟨-, rfl⟩ := Prod.mk.inj (Except.ok.inj h)
        omega
    exact ⟨hlt.le, fun _ => hlt⟩

lemma parseMatchOp_shorter {c c' : Cursor} {op : MatchOp} (h : parseMatchOp c = .ok (op, c')) :
    c'.rest.length ≤ c.rest.length := by
  rw [parseMatchOp_eq] at h
  repeat'
    split at h
  all_goals
    cases h
  all_goals exact length_advance_le c _

lemma parseQuotedValue_shorter {c c' : Cursor} {value : List Char}
    (h : parseQuotedValue c = .ok (value, c')) : c'.rest.length ≤ c.rest.length := by
  have hskip := length_skipWhitespace_le c
  rw [parseQuotedValue] at h
  dsimp only at h
  split at h
  · cases h
  · split at h
    · cases h
    · obtain ⟨-, rfl⟩ := Prod.mk.inj (Except.ok.inj h)
      exact ((length_advance_le _ _).trans (length_advance_le _ _)).trans hskip

lemma parseSingleFieldCondition_shorter {c c' : Cursor} {condition : FieldCondition}
    (h : parseSingleFieldCondition c = .ok (condition, c')) : c'.rest.length < c.rest.length := by
  rw [parseSingleFieldCondition] at h
  obtain ⟨⟨path, c₁⟩, hpath, h⟩ := bind_ok h
  obtain ⟨⟨op, c₂⟩, hop, h⟩ := bind_ok h
  obtain ⟨⟨value, c₃⟩, hvalue, h⟩ := bind_ok h
  obtain ⟨-, rfl⟩ := Prod.mk.inj (Except.ok.inj h)
  have hskip := length_skipWhitespace_le c
  have hskip₁ := length_skipWhitespace_le c₁
  have hskip₂ := length_skipWhitespace_le c₂
  have hshort₁ := (parseFieldPathLoop_shorter hpath).2 (Nat.succ_ne_zero _)
  have hshort₂ := parseMatchOp_shorter hop
  have hshort₃ := parseQuotedValue_shorter hvalue
  omega

lemma follows_parseFieldConditionsLoop {fuel fuel' : Nat} (hfuel : c.rest.length < fuel)
    (hfuel' : c.rest.length < fuel') :
    Follows s c (Bytes.parseFieldConditionsLoop fuel)
      (.ofExcept (parseFieldConditionsLoop fuel' c)) := by
  induction fuel generalizing c fuel' with
  | zero => cases hfuel
  | succ fuel ih =>
    obtain ⟨fuel', rfl⟩ := Nat.exists_eq_succ_of_ne_zero (Nat.ne_zero_of_lt hfuel')
    rw [Bytes.parseFieldConditionsLoop, parseFieldConditionsLoop]
    refine follows_skipWhitespace.step ?_
    refine follows_parseSingleFieldCondition.bind (fun condition c₁ hcondition => ?_)
    have hskip := length_skipWhitespace_le c
    have hshort := parseSingleFieldCondition_shorter hcondition
    have hskip₁ := length_skipWhitespace_le c₁
    refine follows_skipWhitespace.step (follows_peek.step ?_)
    dsimp only
    by_cases hcomma : c₁.skipWhitespace.peek = some ','
    · have hle := length_advance_le c₁.skipWhitespace 1
      rw [if_pos hcomma, if_pos hcomma]
      refine (follows_advance_one hcomma rfl).step ?_
      exact (ih (by omega) (by omega)).bind (fun _ _ _ => follows_pure _)
    · rw [if_neg hcomma, if_neg hcomma]
      exact follows_pure _

lemma follows_parseFieldConditions :
    Follows s c Bytes.parseFieldConditions (.ofExcept (parseFieldConditions c)) := by
  refine .of_rest (fun hrest => follows_rounds.step ?_)
  have hloop := follows_parseFieldConditionsLoop (s := s) (length_rest_lt hrest) (Nat.lt_succ_self _)
  exact hloop.bind (fun _ _ _ => follows_pure _)

end Conditions

section Primary

variable {s : List Char} {c : Cursor}

lemma follows_primaryBody {fuel : Nat} (depth : Nat) (hfuel : c.rest.length < fuel) :
    Follows s c (Bytes.primaryBody fuel depth)
      (.ok ((), c.advance (scanPrimary depth c.rest).length)) := by
  induction fuel generalizing c depth with
  | zero => cases hfuel
  | succ fuel ih =>
    refine follows_peek.step ?_
    cases hpeek : c.peek with
    | none =>
      rw [peek_eq_none.mp hpeek]
      exact follows_pure ()
    | some d =>
      have hrest := Cursor.rest_of_peek hpeek
      have hlength := congrArg List.length hrest
      rw [List.length_cons] at hlength
      have hnext : ∀ depth', Follows s (c.advance 1) (Bytes.primaryBody fuel depth')
          (.ok ((), c.advance (d :: scanPrimary depth' (c.advance 1).rest).length)) := by
        intro depth'
        rw [List.length_cons, Nat.add_comm, ← advance_advance]
        exact ih depth' (by omega)
      dsimp only
      rw [hrest, scanPrimary]
      by_cases ho : d = '('
      · rw [if_pos ho, if_pos ho]
        exact (follows_advance_one hpeek (ho ▸ rfl)).step (hnext _)
      · rw [if_neg ho, if_neg ho]
        by_cases hc : d = ')'
        · rw [if_pos hc, if_pos hc]
          by_cases hdepth : depth > 0
          · rw [if_pos hdepth, if_pos hdepth]
            exact (follows_advance_one hpeek (hc ▸ rfl)).step (hnext _)
          · rw [if_neg hdepth, if_neg hdepth]
            exact follows_pure ()
        · rw [if_neg hc, if_neg hc]
          exact (follows_advance_peek hpeek).step (hnext _)

lemma scanPrimary_isPrefix (depth : Nat) (t : List Char) : scanPrimary depth t <+: t := by
  induction t generalizing depth with
  | nil => exact List.prefix_rfl
  | cons d t ih =>
    rw [scanPrimary]
    split
    · exact List.cons_prefix_cons.mpr ⟨rfl, ih _⟩
    · split
      · split
        · exact List.cons_prefix_cons.mpr ⟨rfl, ih _⟩
        · exact List.nil_prefix
      · exact List.cons_prefix_cons.mpr ⟨rfl, ih _⟩

lemma follows_parsePrimaryValue :
    Follows s c Bytes.parsePrimaryValue (.ofExcept (parsePrimaryValue c)) := by
  refine follows_skipWhitespace.step (.of_rest fun hrest => ?_)
  refine follows_getPos.step (follows_rounds.step ?_)
  refine (follows_primaryBody 0 (length_rest_lt hrest)).step ?_
  have hslice := follows_sliceSince
    (n := (scanPrimary 0 c.skipWhitespace.rest).length) hrest
  rw [← List.prefix_iff_eq_take.mp (scanPrimary_isPrefix 0 _)] at hslice
  refine hslice.step ?_
  rw [parsePrimaryValue]
  dsimp only
  split
  · exact follows_fail _
  · exact follows_pure _

end Primary

section Lookahead

open Bytes (asChar)

variable {s : List Char} {c : Cursor} {d : Char} {byte : UInt8}

lemma asChar_wide (h : 128 ≤ byte.toNat) : 128 ≤ (asChar byte).toNat := by
  have hvalid : byte.toNat.isValidChar := .inl (by have := byte.toNat_lt; omega)
  rw [asChar, Char.ofNat, dif_pos hvalid]
  exact h

lemma not_pathChar_of_wide (h : 128 ≤ d.toNat) : isPathChar d = false := by
  rw [Bool.eq_false_iff]
  intro hd
  by_cases hdot : d = '.'
  · subst hdot
    exact absurd h (by decide)
  · have hident : isIdentifierChar d = true := by
      simp only [isPathChar, hdot, decide_false, Bool.or_false] at hd
      rw [isIdentifierChar, hd, Bool.true_or]
    have hle := toNat_of_identifierChar hident
    omega

lemma ne_of_wide {e : Char} (h : 128 ≤ d.toNat) (he : e.toNat < 128) : d ≠ e := by
  rintro rfl
  omega

lemma wide_toNat (h : d.utf8Size ≠ 1) : 128 ≤ d.toNat := by
  by_contra hlt
  exact h (utf8Size_of_ascii (Nat.lt_of_not_le hlt))

lemma skipPath_bytes_wide {bytes : List UInt8} (h : ∀ byte ∈ bytes, 128 ≤ byte.toNat)
    (more : List UInt8) :
    Bytes.skipPath true (bytes ++ more) = bytes.length + Bytes.skipPath true more := by
  induction bytes with
  | nil => simp
  | cons byte bytes ih =>
    obtain ⟨hbyte, hbytes⟩ := List.forall_mem_cons.mp h
    have hne : decide (asChar byte ≠ ']') = true :=
      decide_eq_true (ne_of_wide (asChar_wide hbyte) (by decide))
    rw [List.cons_append, Bytes.skipPath, if_pos rfl, hne, ih hbytes, List.length_cons]
    omega

lemma head_utf8Bytes {e : Char} (he : e.toNat < 128) (t : List Char) :
    (utf8Bytes t).head?.map asChar = some e ↔ t.head? = some e := by
  cases t with
  | nil => simp
  | cons d t =>
    by_cases hd : d.utf8Size = 1
    · obtain ⟨byte, hbyte, hchar⟩ := utf8_one_byte hd
      rw [utf8Bytes_cons, hbyte, List.singleton_append, List.head?_cons, Option.map_some, asChar,
        hchar, List.head?_cons]
    · obtain ⟨byte, bytes, hbytes⟩ := utf8EncodeChar_eq_cons d
      have hwide := utf8_wide_byte hd (hbytes ▸ List.mem_cons_self)
      rw [utf8Bytes_cons, hbytes, List.cons_append, List.head?_cons, Option.map_some,
        List.head?_cons, Option.some.injEq, Option.some.injEq]
      exact iff_of_false (ne_of_wide (asChar_wide hwide) he) (ne_of_wide (wide_toNat hd) he)

lemma skipPath_bytes (b : Bool) (t : List Char) :
    Bytes.skipPath b (utf8Bytes t) + utf8Len (skipPath b t) = utf8Len t := by
  induction t generalizing b with
  | nil => rfl
  | cons d t ih =>
    by_cases hd : d.utf8Size = 1
    · obtain ⟨byte, hbyte, hchar⟩ := utf8_one_byte hd
      have hchar : asChar byte = d := hchar
      have hdot := head_utf8Bytes (e := '.') (by decide) t
      have hopen := head_utf8Bytes (e := '[') (by decide) t
      rw [utf8Bytes_cons, hbyte, List.singleton_append, Bytes.skipPath, skipPath, hchar,
        utf8Len_cons, hd]
      simp only [hdot, hopen]
      split
      · have := ih (d ≠ ']')
        omega
      · split
        · have := ih false
          omega
        · split
          · have := ih true
            omega
          · split
            · split
              · have := ih false
                omega
              · omega
            · rw [utf8Len_cons, hd]
              omega
    · have hwide : ∀ byte ∈ String.utf8EncodeChar d, 128 ≤ byte.toNat :=
        fun byte hmem => utf8_wide_byte hd hmem
      have hchar := wide_toNat hd
      cases b with
      | true =>
        have hne : decide (d ≠ ']') = true := decide_eq_true (ne_of_wide hchar (by decide))
        have hnext := ih true
        rw [utf8Bytes_cons, skipPath_bytes_wide hwide, skipPath_open, hne,
          String.length_utf8EncodeChar, utf8Len_cons]
        omega
      | false =>
        obtain ⟨byte, bytes, hbytes⟩ := utf8EncodeChar_eq_cons d
        have hbyte := asChar_wide (hwide byte (hbytes ▸ List.mem_cons_self))
        have hpath := not_pathChar_of_wide hbyte
        simp only [isPathChar, Bool.or_eq_false_iff, decide_eq_false_iff_not, and_assoc] at hpath
        rw [skipPath_stop (not_pathChar_of_wide hchar) (ne_of_wide hchar (by decide))
          (ne_of_wide hchar (by decide)), utf8Bytes_cons, hbytes, List.cons_append,
          Bytes.skipPath, if_neg Bool.false_ne_true, if_neg (by simp [hpath]),
          if_neg (ne_of_wide hbyte (by decide)), if_neg (ne_of_wide hbyte (by decide)), Nat.zero_add]

lemma takeWhile_bytes (t : List Char) :
    ((utf8Bytes t).takeWhile (fun byte => isAsciiWhitespace (asChar byte))).length =
      utf8Len (t.takeWhile isAsciiWhitespace) := by
  induction t with
  | nil => rfl
  | cons d t ih =>
    by_cases hd : d.utf8Size = 1
    · obtain ⟨byte, hbyte, hchar⟩ := utf8_one_byte hd
      have hchar : asChar byte = d := hchar
      rw [utf8Bytes_cons, hbyte, List.singleton_append]
      by_cases hw : isAsciiWhitespace d = true
      · rw [List.takeWhile_cons_of_pos (by rw [hchar, hw]), List.takeWhile_cons_of_pos hw,
          List.length_cons, ih, utf8Len_cons, hd, Nat.add_comm]
      · rw [List.takeWhile_cons_of_neg (by rw [hchar]; exact hw), List.takeWhile_cons_of_neg hw]
        rfl
    · have hnot : ∀ e : Char, 128 ≤ e.toNat → ¬isAsciiWhitespace e = true := by
        intro e he hw
        simp only [isAsciiWhitespace, Bool.or_eq_true, decide_eq_true_eq] at hw
        rcases hw with (((rfl | rfl) | rfl) | rfl) | rfl <;> exact absurd he (by decide)
      obtain ⟨byte, bytes, hbytes⟩ := utf8EncodeChar_eq_cons d
      have hbyte := asChar_wide (utf8_wide_byte hd (hbytes ▸ List.mem_cons_self))
      rw [utf8Bytes_cons, hbytes, List.cons_append,
        List.takeWhile_cons_of_neg (by exact hnot _ hbyte),
        List.takeWhile_cons_of_neg (hnot d (wide_toNat hd))]
      rfl

lemma looksLikeFieldConditions_bytes (t : List Char) :
    Bytes.looksLikeFieldConditions t = some (looksLikeFieldConditions t) := by
  obtain ⟨front, hfront⟩ := skipPath_suffix false (trim t)
  have hcount : Bytes.skipPath false (utf8Bytes (trim t)) = utf8Len front := by
    have hskip := skipPath_bytes false (trim t)
    have hlen := congrArg utf8Len hfront
    rw [utf8Len_append] at hlen
    omega
  have hdrop := drop_utf8Bytes front (skipPath false (trim t))
  rw [hfront] at hdrop
  have hslice : sliceFrom (trim t) (utf8Len front +
      utf8Len ((skipPath false (trim t)).takeWhile isAsciiWhitespace)) =
      some ((skipPath false (trim t)).dropWhile isAsciiWhitespace) := by
    refine sliceFrom_add ?_
    rw [List.takeWhile_append_dropWhile]
    exact sliceFrom_eq_some.mpr ⟨front, hfront.symm, rfl⟩
  rw [Bytes.looksLikeFieldConditions, hcount, hdrop, takeWhile_bytes, hslice]
  rfl

lemma follows_parseConditionsOrPrimary :
    Follows s c Bytes.parseConditionsOrPrimary
      (.ofExcept (if looksLikeFieldConditions c.rest then parseFieldConditions c
        else parsePrimaryValue c)) := by
  refine follows_remaining.step ?_
  rw [looksLikeFieldConditions_bytes]
  cases looksLikeFieldConditions c.rest with
  | true => exact follows_parseFieldConditions
  | false => exact follows_parsePrimaryValue

lemma starStandsAlone_eq (t : List Char) :
    Bytes.starStandsAlone ('*' :: t) = standsAlone t := by
  have hsecond : slice ('*' :: t) 1 2 = sliceTo t 1 := by
    rw [slice, if_pos (by decide)]
    change ((sliceFrom ('*' :: t) ('*'.utf8Size + 0)).bind _) = _
    rw [sliceFrom_cons, sliceFrom_zero]
    rfl
  rw [Bytes.starStandsAlone, hsecond]
  cases t with
  | nil => rfl
  | cons d t =>
    by_cases hd : d.utf8Size = 1
    · have hone := sliceTo_cons d t 0
      rw [hd, Nat.add_zero, sliceTo_zero] at hone
      have hwide : decide (d.utf8Size ≠ 1) = false := decide_eq_false (not_not.mpr hd)
      rw [hone, standsAlone, hwide, Bool.or_false]
      rfl
    · have hwide := d.utf8Size_pos
      rw [sliceTo, if_neg (by omega)]
      simp [standsAlone, hd]

lemma follows_parseArgPart : Follows s c Bytes.parseArgPart (.ofExcept (parseArgPart c)) := by
  refine follows_skipWhitespace.step (follows_peek.step ?_)
  rw [parseArgPart]
  by_cases hstar : c.skipWhitespace.peek = some '*'
  · have hrest := Cursor.rest_of_peek hstar
    rw [if_pos hstar]
    refine follows_remaining.step ?_
    have hstands : Bytes.starStandsAlone c.skipWhitespace.rest =
        standsAlone c.skipWhitespace.rest.tail := by
      rw [hrest, starStandsAlone_eq, List.tail_cons]
    rw [hstands]
    by_cases halone : standsAlone c.skipWhitespace.rest.tail = true
    · rw [if_pos halone, if_pos ⟨hstar, halone⟩]
      exact (follows_advance_one hstar rfl).step (follows_skipWhitespace.step (follows_pure _))
    · rw [if_neg halone, if_neg fun h => halone h.2]
      exact follows_parseConditionsOrPrimary
  · rw [if_neg hstar, if_neg fun h => hstar h.1]
    exact follows_parseConditionsOrPrimary

lemma follows_parseArgs : Follows s c Bytes.parseArgs (.ofExcept (parseArgs c)) := by
  refine follows_peek.step ?_
  rw [parseArgs]
  by_cases hopen : c.peek = some '('
  · rw [if_pos hopen, if_pos hopen]
    refine (follows_advance_one hopen rfl).step (follows_parseArgPart.bind fun args c₁ _ => ?_)
    exact (follows_expect ')').bind_unit (fun _ _ => follows_pure _)
  · rw [if_neg hopen, if_neg hopen]
    exact follows_pure _

end Lookahead

section Whole

variable {R : Type} (lib : RegexLib R) (s : List Char)

lemma follows_parseWhole : ∃ r, r.map Prod.fst = parsePattern lib s ∧
    Follows (trim s) (.new (trim s)) (Bytes.parseWhole lib) r := by
  have htool : Follows (trim s) (.new (trim s)) (Bytes.parseToolPart lib) _ :=
    follows_parseToolPart
  rw [parsePattern]
  cases hparse : parseToolPart lib (.new (trim s)) with
  | panic =>
    rw [hparse] at htool
    exact ⟨.panic, rfl, htool.panic⟩
  | err e =>
    rw [hparse] at htool
    exact ⟨.err e, rfl, htool.err⟩
  | ok read =>
    obtain ⟨tool, c₁⟩ := read
    rw [hparse] at htool
    have hargs := follows_parseArgs (s := trim s) (c := c₁.skipWhitespace)
    dsimp only
    cases hread : parseArgs c₁.skipWhitespace with
    | error e =>
      rw [hread] at hargs
      exact ⟨.err e, rfl, htool.step (follows_skipWhitespace.step hargs.err)⟩
    | ok read =>
      obtain ⟨args, c₂⟩ := read
      rw [hread] at hargs
      dsimp only
      by_cases hempty : c₂.skipWhitespace.isEmpty = true
      · rw [if_pos hempty]
        refine ⟨.ok (⟨tool, args⟩, c₂.skipWhitespace), rfl, ?_⟩
        refine htool.step (follows_skipWhitespace.step (hargs.step ?_))
        refine follows_skipWhitespace.step (follows_isEmpty.step ?_)
        rw [if_pos hempty]
        exact follows_pure _
      · rw [if_neg hempty]
        refine ⟨.err _, rfl, ?_⟩
        refine htool.step (follows_skipWhitespace.step (hargs.step ?_))
        refine follows_skipWhitespace.step (follows_isEmpty.step ?_)
        rw [if_neg hempty]
        exact follows_remaining.step (follows_fail _)

end Whole

end Awaken.ToolPattern
