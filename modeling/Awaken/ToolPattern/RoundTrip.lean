import Awaken.ToolPattern.Image

namespace Awaken.ToolPattern

open Awaken.Lib Awaken.Lib.Text

def ToolMatcher.tight {R : Type} : ToolMatcher R → Bool
  | .exact name | .glob name => !name.getLast?.any isWhiteSpace
  | .regex _ => true

def ArgMatcher.readsBack : ArgMatcher → Bool
  | .any => true
  | .primary _ value => !(value.head? == some '*' && standsAlone value.tail)
  | .fields conditions =>
    conditions.head?.all (fun condition => condition.path ≠ [.wildcard]) &&
      conditions.all (fun condition => plainValue condition.value)

def ToolCallPattern.readsBack {R : Type} (self : ToolCallPattern R) : Bool :=
  match self.args with
  | .any => self.tool.tight
  | args => args.readsBack

section Args

variable {cursor cursor' : Cursor} {args : ArgMatcher} {rest : List Char}

lemma parseArgPart_eq (hr : cursor.skipWhitespace.rest = rest) :
    ∃ cursor₁ : Cursor, cursor₁.rest = rest ∧ parseArgPart cursor =
      if rest.head? = some '*' ∧ standsAlone rest.tail = true then
        .ok (.any, (cursor₁.advance 1).skipWhitespace)
      else if looksLikeFieldConditions rest then parseFieldConditions cursor₁
      else parsePrimaryValue cursor₁ := by
  subst hr
  exact ⟨cursor.skipWhitespace, rfl, rfl⟩

lemma skipWhitespace_of_head (hr : cursor.rest = rest)
    (hhead : ∀ c, rest.head? = some c → isWhiteSpace c = false) :
    cursor.skipWhitespace.rest = rest := by
  cases rest with
  | nil =>
    rw [Cursor.skipWhitespace_rest, hr]
    rfl
  | cons c rest =>
    refine Cursor.skipWhitespace_of_rest hr ?_
    rw [Bool.eq_false_iff]
    intro hc
    have hwhite := whiteSpace_of_ascii hc
    rw [hhead c rfl] at hwhite
    cases hwhite

section Primary

variable {value : List Char}

lemma PrimaryShaped.head (h : PrimaryShaped value) :
    ∃ c text, value = c :: text ∧ isWhiteSpace c = false := by
  obtain ⟨c, text, htext⟩ := List.exists_cons_of_ne_nil h.nonempty
  refine ⟨c, text, htext, trim_head (s := value) ?_⟩
  rw [h.trimmed, htext]
  rfl

lemma standsAlone_append (text : List Char) : standsAlone (text ++ [')']) = standsAlone text := by
  cases text <;> rfl

lemma parsePrimary_display (h : PrimaryShaped value) (hr : cursor.rest = value ++ [')']) :
    if value.head? = some '*' ∧ standsAlone value.tail = true then
      ∃ cursor', parseArgPart cursor = .ok (.any, cursor')
    else ∃ cursor', parseArgPart cursor = .ok (.primary .glob value, cursor') ∧
      cursor'.rest = [')'] := by
  obtain ⟨c, text, rfl, hc⟩ := h.head
  have hhead : ∀ d, (c :: text ++ [')']).head? = some d → isWhiteSpace d = false := by
    intro d hd
    obtain rfl := Option.some.inj hd
    exact hc
  obtain ⟨cursor₁, hr₁, heq⟩ := parseArgPart_eq (skipWhitespace_of_head hr hhead)
  rw [heq, List.cons_append, List.head?_cons, List.head?_cons, List.tail_cons, List.tail_cons,
    standsAlone_append, ← List.cons_append, h.unlike]
  split
  · exact ⟨_, rfl⟩
  · have hskip := skipWhitespace_of_head hr₁ hhead
    refine ⟨cursor₁.skipWhitespace.advance (c :: text).length, ?_, ?_⟩
    · simp only [Bool.false_eq_true, if_false, parsePrimaryValue, hskip, h.scanned, h.trimmed]
      rfl
    · rw [Cursor.advance_rest, hskip, List.drop_left]

end Primary

section Conditions

variable {conditions : List FieldCondition} {condition : FieldCondition}

lemma display_star (hp : PathShaped condition.path) (s : List Char) :
    ((condition.display ++ s).head? = some '*' ∧
      standsAlone (condition.display ++ s).tail = true) ↔ condition.path = [.wildcard] := by
  obtain ⟨segment, path, hpath, hn⟩ := hp.named
  obtain ⟨c, text, htail, hc⟩ := displayTail_head path
    (condition.op.display ++ ' ' :: '"' :: (condition.value ++ '"' :: s))
  have hdisplay : condition.display ++ s = segment.display ++ c :: text := by
    rw [FieldCondition.display, hpath, displayPath, ← htail]
    simp
  rw [hdisplay, hpath]
  cases segment with
  | index i => cases hn
  | anyIndex => cases hn
  | field name =>
    have hshaped := hp.shaped _ (hpath ▸ List.mem_cons_self)
    obtain ⟨d, name, rfl⟩ := List.exists_cons_of_ne_nil hshaped.1
    have hd : d ≠ '*' := by
      rintro rfl
      exact absurd (hshaped.2 _ List.mem_cons_self) (by decide)
    simp [PathSegment.display, hd]
  | wildcard =>
    cases path with
    | nil =>
      obtain ⟨rfl, -⟩ := List.cons.inj htail
      simp [PathSegment.display, standsAlone, isAsciiWhitespace]
    | cons next path =>
      have hnext : c = '.' ∨ c = '[' := by
        cases hn : next.isNamed with
        | true =>
          rw [displayTail_named hn] at htail
          exact .inl (List.cons.inj htail).1.symm
        | false =>
          obtain ⟨text', htext⟩ := display_index hn
          rw [displayTail_index hn, htext] at htail
          exact .inr (List.cons.inj htail).1.symm
      rcases hnext with rfl | rfl <;>
        simp [PathSegment.display, standsAlone, isAsciiWhitespace] <;> decide

lemma displayConditions_first (condition : FieldCondition) (others : List FieldCondition)
    (rest : List Char) : ∃ s, displayConditions (condition :: others) ++ rest =
      condition.display ++ (s ++ rest) := by
  cases others with
  | nil => exact ⟨[], rfl⟩
  | cons next others =>
    refine ⟨',' :: ' ' :: displayConditions (next :: others), ?_⟩
    rw [displayConditions_cons condition (List.cons_ne_nil _ _)]
    simp

lemma parseConditions_display (h : ConditionsShaped conditions)
    (hr : cursor.rest = displayConditions conditions ++ [')']) :
    if conditions.head?.map FieldCondition.path = some [.wildcard] then
      ∃ cursor', parseArgPart cursor = .ok (.any, cursor')
    else ∃ cursor₁ : Cursor, cursor₁.rest = displayConditions conditions ++ [')'] ∧
      parseArgPart cursor = parseFieldConditions cursor₁ := by
  obtain ⟨condition, others, rfl⟩ := List.exists_cons_of_ne_nil h.nonempty
  have hp := h.paths _ List.mem_cons_self
  obtain ⟨s, hs⟩ := displayConditions_first condition others [')']
  have hskip : cursor.skipWhitespace.rest = displayConditions (condition :: others) ++ [')'] := by
    rw [Cursor.skipWhitespace_rest, hr, displayConditions_head h.nonempty h.paths]
  have hlook : looksLikeFieldConditions (displayConditions (condition :: others) ++ [')']) = true := by
    rw [hs]
    refine looksLike_condition hp (h.first condition rfl) ?_
    rw [← List.append_assoc, List.getLast?_concat]
    intro c hc
    obtain rfl := Option.some.inj hc
    decide
  obtain ⟨cursor₁, hr₁, heq⟩ := parseArgPart_eq hskip
  rw [heq, hlook]
  have hstar := display_star hp (s ++ [')'])
  rw [← hs] at hstar
  have hfirst : (condition :: others).head?.map FieldCondition.path = some [.wildcard] ↔
      condition.path = [.wildcard] := by
    rw [List.head?_cons, Option.map_some, Option.some.injEq]
  by_cases hpath : condition.path = [.wildcard]
  · rw [if_pos (hfirst.mpr hpath), if_pos (hstar.mpr hpath)]
    exact ⟨_, rfl⟩
  · rw [if_neg (fun h => hpath (hfirst.mp h)), if_neg (fun hhead => hpath (hstar.mp hhead)),
      if_pos rfl]
    exact ⟨cursor₁, hr₁, rfl⟩

lemma length_le_displayConditions (conditions : List FieldCondition) :
    conditions.length ≤ (displayConditions conditions).length + 1 := by
  induction conditions with
  | nil => exact Nat.zero_le _
  | cons condition conditions ih =>
    by_cases hnil : conditions = []
    · subst hnil
      simp
    · rw [displayConditions_cons condition hnil]
      simp only [List.length_cons, List.length_append]
      omega

lemma parseFieldConditions_display (h : ConditionsShaped conditions)
    (hr : cursor.rest = displayConditions conditions ++ [')'])
    (hv : ∀ condition ∈ conditions, plainValue condition.value = true) :
    ∃ cursor', parseFieldConditions cursor = .ok (.fields conditions, cursor') ∧
      cursor'.rest = [')'] := by
  have hstart : cursor.rest.dropWhile isAsciiWhitespace = displayConditions conditions ++ [')'] := by
    rw [hr, displayConditions_head h.nonempty h.paths]
  have hfuel : conditions.length ≤ cursor.rest.length + 1 := by
    have hlen := length_le_displayConditions conditions
    rw [hr, List.length_append]
    omega
  obtain ⟨cursor', hloop, hrest⟩ :=
    parseFieldConditionsLoop_display hfuel h.nonempty h.paths hstart hv
  refine ⟨cursor', ?_, hrest⟩
  rw [parseFieldConditions, hloop]
  rfl

lemma plain_of_parseFieldConditions (h : ConditionsShaped conditions)
    (hr : cursor.rest = displayConditions conditions ++ [')'])
    (hparse : parseFieldConditions cursor = .ok (.fields conditions, cursor')) :
    ∀ condition ∈ conditions, plainValue condition.value = true := by
  have hstart : cursor.rest.dropWhile isAsciiWhitespace = displayConditions conditions ++ [')'] := by
    rw [hr, displayConditions_head h.nonempty h.paths]
  simp only [parseFieldConditions] at hparse
  obtain ⟨⟨read, cursor₁⟩, hloop, hparse⟩ := bind_ok hparse
  obtain ⟨heq, -⟩ := Prod.mk.inj (Except.ok.inj hparse)
  obtain rfl := ArgMatcher.fields.inj heq
  exact plain_of_parseFieldConditionsLoop h.nonempty h.paths hstart hloop

end Conditions

lemma parseArgPart_display (hs : args.Shaped) (hany : args ≠ .any)
    (hr : cursor.rest = args.display ++ [')']) :
    (args.readsBack = true → ∃ cursor', parseArgPart cursor = .ok (args, cursor') ∧
      cursor'.rest = [')']) ∧
    ∀ cursor', parseArgPart cursor = .ok (args, cursor') → args.readsBack = true := by
  cases args with
  | any => exact absurd rfl hany
  | primary op value =>
    obtain ⟨rfl, hs⟩ := hs
    have hread := parsePrimary_display hs hr
    split at hread
    · rename_i hstar
      obtain ⟨cursor₁, hread⟩ := hread
      refine ⟨fun h => ?_, fun cursor' h => ?_⟩
      · simp [ArgMatcher.readsBack, hstar.1, hstar.2] at h
      · rw [hread] at h
        cases h
    · rename_i hstar
      refine ⟨fun _ => hread, fun _ _ => ?_⟩
      by_cases hhead : value.head? = some '*'
      · simp [ArgMatcher.readsBack, Bool.eq_false_iff.mpr (fun h => hstar ⟨hhead, h⟩)]
      · simp [ArgMatcher.readsBack, hhead]
  | fields conditions =>
    have hread := parseConditions_display hs hr
    have hplain : (ArgMatcher.fields conditions).readsBack = true ↔
        conditions.head?.map FieldCondition.path ≠ some [.wildcard] ∧
          ∀ condition ∈ conditions, plainValue condition.value = true := by
      obtain ⟨condition, others, rfl⟩ := List.exists_cons_of_ne_nil hs.nonempty
      simp [ArgMatcher.readsBack]
    rw [hplain]
    split at hread
    · rename_i hstar
      obtain ⟨cursor₁, hread⟩ := hread
      refine ⟨fun h => absurd hstar h.1, fun cursor' h => ?_⟩
      rw [hread] at h
      cases h
    · rename_i hstar
      obtain ⟨cursor₁, hr₁, hread⟩ := hread
      rw [hread]
      exact ⟨fun h => parseFieldConditions_display hs hr₁ h.2,
        fun cursor' h => ⟨hstar, plain_of_parseFieldConditions hs hr₁ h⟩⟩

end Args

section Pattern

variable {R : Type} {lib : RegexLib R} {pattern : ToolCallPattern R} {tool : ToolMatcher R}

lemma ToolMatcher.Shaped.head (hs : tool.Shaped lib) (rest : List Char) :
    ∀ c, (tool.display lib ++ rest).head? = some c → isWhiteSpace c = false := by
  have hnamed : ∀ name : List Char, NameShaped name →
      ∀ c, (name ++ rest).head? = some c → isWhiteSpace c = false := by
    intro name hname c hc
    obtain ⟨d, text, rfl⟩ := List.exists_cons_of_ne_nil hname.nonempty
    exact (hname.head c hc).2
  cases tool with
  | exact name => exact hnamed name hs.1
  | glob name => exact hnamed name hs.1
  | regex re =>
    intro c hc
    obtain rfl := Option.some.inj hc
    decide

lemma ToolMatcher.tight_iff : tool.tight = true ↔
    ∀ c, (tool.display lib).getLast? = some c → isWhiteSpace c = false := by
  have hnamed : ∀ name : List Char, (!name.getLast?.any isWhiteSpace) = true ↔
      ∀ c, name.getLast? = some c → isWhiteSpace c = false := by
    intro name
    cases name.getLast? with
    | none => simp
    | some c => simp
  cases tool with
  | exact name => exact hnamed name
  | glob name => exact hnamed name
  | regex re =>
    refine iff_of_true rfl ?_
    intro c hc
    rw [ToolMatcher.display, ← List.cons_append, List.getLast?_concat] at hc
    obtain rfl := Option.some.inj hc
    decide

lemma parseArgs_none {cursor : Cursor} (hr : cursor.rest = []) :
    parseArgs cursor = .ok (.any, cursor) := by
  have hpeek : cursor.peek ≠ some '(' := by
    intro h
    rw [Cursor.peek, hr] at h
    cases h
  rw [parseArgs, if_neg hpeek]
  rfl

lemma parsePattern_display_any (hs : pattern.Shaped lib) (hany : pattern.args = .any) :
    parsePattern lib (pattern.display lib) = .ok pattern ↔ pattern.tool.tight = true := by
  have hdisplay : pattern.display lib = pattern.tool.display lib := by
    rw [ToolCallPattern.display, hany]
  have hhead := hs.tool.head []
  rw [List.append_nil] at hhead
  have htight : pattern.tool.tight = true ↔
      ∀ c, (pattern.tool.display lib).getLast? = some c → isWhiteSpace c = false :=
    ToolMatcher.tight_iff
  rw [htight, hdisplay]
  refine ⟨fun h c hc => ?_, fun h => ?_⟩
  · obtain ⟨rest, hrest⟩ := (parsePattern_shaped h).2
    obtain ⟨w, hw, -⟩ := trim_append hhead
    rw [hrest, List.append_assoc] at hw
    have hnil : rest ++ w = [] := List.self_eq_append_right.mp hw
    rw [(List.append_eq_nil_iff.mp hnil).1, List.append_nil] at hrest
    rw [← hrest] at hc
    exact trim_last hc
  · have hstart : (Cursor.new (pattern.tool.display lib)).rest = pattern.tool.display lib ++ [] :=
      (List.append_nil _).symm
    obtain ⟨cursor, hparse, hr⟩ := parseToolPart_display hs.tool hstart (.inl rfl)
    have hskip : ∀ cursor : Cursor, cursor.rest = [] → cursor.skipWhitespace.rest = [] := by
      intro cursor hr
      rw [Cursor.skipWhitespace_rest, hr]
      rfl
    have hend : cursor.skipWhitespace.skipWhitespace.isEmpty = true :=
      List.isEmpty_iff.mpr (hskip _ (hskip _ hr))
    simp only [parsePattern, trim_eq_self hhead h, hparse, parseArgs_none (hskip _ hr), hend, if_true,
      ← hany]

lemma parsePattern_display_args (hs : pattern.Shaped lib) (hany : pattern.args ≠ .any) :
    parsePattern lib (pattern.display lib) = .ok pattern ↔ pattern.args.readsBack = true := by
  have hdisplay : pattern.display lib =
      pattern.tool.display lib ++ '(' :: (pattern.args.display ++ [')']) := by
    rw [ToolCallPattern.display]
    split
    · rename_i h
      exact absurd h hany
    · rfl
  have htrim : trim (pattern.display lib) = pattern.display lib := by
    rw [hdisplay]
    refine trim_eq_self (hs.tool.head _) ?_
    rw [← List.cons_append, ← List.append_assoc, List.getLast?_concat]
    intro c hc
    obtain rfl := Option.some.inj hc
    decide
  have hstart : (Cursor.new (pattern.display lib)).rest =
      pattern.tool.display lib ++ '(' :: (pattern.args.display ++ [')']) := hdisplay
  obtain ⟨cursor, hparse, hr⟩ := parseToolPart_display hs.tool hstart (.inr ⟨_, rfl⟩)
  have hskip := Cursor.skipWhitespace_of_rest hr (by decide)
  have hargs : (cursor.skipWhitespace.advance 1).rest = pattern.args.display ++ [')'] := by
    rw [Cursor.advance_rest, hskip]
    rfl
  obtain ⟨hback, honly⟩ := parseArgPart_display hs.args hany hargs
  have hread : parseArgs cursor.skipWhitespace =
      parseArgPart (cursor.skipWhitespace.advance 1) >>= fun read =>
        read.2.expect ')' >>= fun cursor => .ok (read.1, cursor) := by
    rw [parseArgs, if_pos (Cursor.peek_of_rest hskip)]
    rfl
  simp only [parsePattern, htrim, hparse]
  constructor
  · intro h
    cases hall : parseArgs cursor.skipWhitespace with
    | error e =>
      rw [hall] at h
      cases h
    | ok read =>
      obtain ⟨args, cursor'⟩ := read
      rw [hall] at h
      rw [hread] at hall
      obtain ⟨⟨args', cursor₁⟩, hpart, hclose⟩ := bind_ok hall
      obtain ⟨cursor₂, -, hclose⟩ := bind_ok hclose
      obtain ⟨rfl, rfl⟩ := Prod.mk.inj (Except.ok.inj hclose)
      dsimp only at h
      split at h
      · have hpat := Outcome.ok.inj h
        refine honly cursor₁ ?_
        rw [hpart, ← hpat]
      · cases h
  · intro h
    obtain ⟨cursor₁, hpart, hr₁⟩ := hback h
    obtain ⟨cursor₂, hclose, hr₂⟩ := Cursor.expect_of_rest hr₁ (by decide)
    have hend : cursor₂.skipWhitespace.isEmpty = true := by
      refine List.isEmpty_iff.mpr ?_
      rw [Cursor.skipWhitespace_rest, hr₂]
      rfl
    have hall : parseArgs cursor.skipWhitespace = .ok (pattern.args, cursor₂) := by
      rw [hread, hpart]
      change cursor₁.expect ')' >>= _ = _
      rw [hclose]
      rfl
    rw [hall]
    simp only [hend, if_true]

theorem parsePattern_display (hs : pattern.Shaped lib) :
    parsePattern lib (pattern.display lib) = .ok pattern ↔ pattern.readsBack = true := by
  by_cases hany : pattern.args = .any
  · rw [parsePattern_display_any hs hany, ToolCallPattern.readsBack, hany]
  · rw [parsePattern_display_args hs hany, ToolCallPattern.readsBack]
    split
    · rename_i h
      exact absurd h hany
    · rfl

end Pattern

end Awaken.ToolPattern
