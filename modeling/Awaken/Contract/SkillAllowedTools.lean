import Mathlib.Data.List.Forall2
import Awaken.Lib.Joined
import Awaken.Lib.Nesting
import Awaken.Lib.Outcome

namespace Awaken.Contract

open Lib Lib.Text

structure AllowedTool where
  raw : String
  toolId : String
  scope : Option String
deriving DecidableEq

inductive AllowedToolParseError where
  | invalid (message : String)
deriving DecidableEq

namespace SkillAllowedTools

structure TokenScan where
  tokens : List String
  current : List Char
  nesting : Nesting

namespace TokenScan

def start : TokenScan := ⟨[], [], Nesting.outside⟩

def pushed (self : TokenScan) : List String :=
  let t := trim (String.ofList self.current)
  if t = "" then self.tokens else self.tokens ++ [t]

def step (self : TokenScan) (ch : Char) : Except AllowedToolParseError TokenScan :=
  if self.nesting = Nesting.outside ∧ isWhiteSpace ch = true then
    .ok { self with tokens := self.pushed, current := [] }
  else
    match self.nesting.step ch with
    | some nesting => .ok { self with current := self.current ++ [ch], nesting := nesting }
    | none => .error (.invalid "allowed-tools contains unmatched ')'")

def finish (self : TokenScan) : Except AllowedToolParseError (List String) :=
  if self.nesting.inQuote.isSome then
    .error (.invalid "allowed-tools contains unterminated quote")
  else if self.nesting.depth ≠ 0 then
    .error (.invalid "allowed-tools contains unbalanced parentheses")
  else .ok self.pushed

def run (self : TokenScan) : List Char → Except AllowedToolParseError (List String)
  | [] => self.finish
  | ch :: text => do
    let next ← self.step ch
    next.run text

end TokenScan

def splitScope (raw : String) : Except AllowedToolParseError (String × Option String) :=
  match raw.toList.dropWhile (· ≠ '(') with
  | [] => .ok (raw, none)
  | _ :: inner =>
    if raw.toList.getLast? = some ')' then
      .ok (trim (String.ofList (raw.toList.takeWhile (· ≠ '('))),
        some (String.ofList inner.dropLast))
    else .error (.invalid s!"invalid allowed-tools token '{raw}'")

def parseSkillAllowedToolToken (token : String) : Except AllowedToolParseError AllowedTool :=
  let raw := trim token
  if raw = "" then .error (.invalid "allowed-tools contains an empty token")
  else do
    let (toolId, scope) ← splitScope raw
    if toolId = "" then .error (.invalid s!"invalid allowed-tools token '{raw}'")
    else if toolId.toList.any (fun c => isWhiteSpace c || c = '(' || c = ')') then
      .error (.invalid s!"invalid tool id in allowed-tools token '{raw}'")
    else .ok ⟨raw, toolId, scope⟩

def parseSkillAllowedTools (value : String) : Except AllowedToolParseError (List AllowedTool) := do
  let tokens ← TokenScan.start.run value.toList
  tokens.mapM parseSkillAllowedToolToken

section Grammar

def NoGap (id : List Char) : Prop :=
  ∀ ch ∈ id, isWhiteSpace ch = false ∧ ch ≠ '(' ∧ ch ≠ ')'

inductive Spells : List Char → AllowedTool → Prop
  | bare {id : List Char} : id ≠ [] → NoGap id → Balanced id →
      Spells id ⟨String.ofList id, String.ofList id, none⟩
  | withScope {id scope : List Char} : id ≠ [] → NoGap id → Balanced id → Balanced scope →
      Spells (id ++ '(' :: (scope ++ [')']))
        ⟨String.ofList (id ++ '(' :: (scope ++ [')'])), String.ofList id, some (String.ofList scope)⟩

def AllowedTools (text : List Char) (tools : List AllowedTool) : Prop :=
  ∃ words, Separated text words ∧ List.Forall₂ Spells words tools

/-- A token that looks like one of the grammar by its first and its last parenthesis. -/
inductive LooksLike : List Char → AllowedTool → Prop
  | bare {id : List Char} : id ≠ [] → NoGap id →
      LooksLike id ⟨String.ofList id, String.ofList id, none⟩
  | withScope {id space inner : List Char} : id ≠ [] → NoGap id →
      (∀ ch ∈ space, isWhiteSpace ch = true) →
      LooksLike (id ++ (space ++ '(' :: (inner ++ [')'])))
        ⟨String.ofList (id ++ (space ++ '(' :: (inner ++ [')']))), String.ofList id,
          some (String.ofList inner)⟩

/-- The first parenthesis of the token is closed, or stands in a closed quote, before the end. -/
def EarlyClosed (word : List Char) : Prop :=
  ∃ front back, word = front ++ back ∧ back ≠ [] ∧ '(' ∈ front ∧ Balanced front

/-- The parser accepts what the grammar spells, with the tools that it spells, and the raw tokens
give the same tools again. -/
structure FollowsGrammar (value : String) : Prop where
  reads : ∀ tools, parseSkillAllowedTools value = .ok tools ↔ AllowedTools value.toList tools
  reparses : ∀ tools, parseSkillAllowedTools value = .ok tools →
    parseSkillAllowedTools (joined ' ' (tools.map (·.raw))) = .ok tools

end Grammar

section Tokens

namespace TokenScan

structure Started (scan : TokenScan) : Prop where
  scanned : Nesting.outside.scan scan.current = some scan.nesting
  gapless : ∀ front ch back, scan.current = front ++ ch :: back → Balanced front →
    isWhiteSpace ch = false

lemma started_start : start.Started where
  scanned := rfl
  gapless := by
    intro front ch back h
    cases front with
    | nil => cases h
    | cons a front => cases h

variable {self next : TokenScan} {ch : Char}

lemma Started.isWord (h : self.Started) (houtside : self.nesting = Nesting.outside)
    (hcurrent : self.current ≠ []) : IsWord self.current where
  nonempty := hcurrent
  balanced := balanced_iff.mpr (houtside ▸ h.scanned)
  gapless := h.gapless

lemma ofList_ne_empty {text : List Char} (h : text ≠ []) : String.ofList text ≠ "" := by
  intro heq
  exact h (by simpa using congrArg String.toList heq)

lemma pushed_word (h : IsWord self.current) :
    self.pushed = self.tokens ++ [String.ofList self.current] := by
  simp only [pushed, h.trim, if_neg (ofList_ne_empty h.nonempty)]

lemma pushed_empty (h : self.current = []) : self.pushed = self.tokens := by
  rw [pushed, h]
  rfl

lemma step_gap (houtside : self.nesting = Nesting.outside) (hch : isWhiteSpace ch = true) :
    self.step ch = .ok { self with tokens := self.pushed, current := [] } := by
  rw [step, if_pos ⟨houtside, hch⟩]

lemma step_char (hgap : ¬(self.nesting = Nesting.outside ∧ isWhiteSpace ch = true))
    {nesting : Nesting} (h : self.nesting.step ch = some nesting) :
    self.step ch = .ok { self with current := self.current ++ [ch], nesting := nesting } := by
  rw [step, if_neg hgap, h]

lemma step_cases (h : self.step ch = .ok next) :
    (self.nesting = Nesting.outside ∧ isWhiteSpace ch = true ∧
      next = { self with tokens := self.pushed, current := [] }) ∨
    (¬(self.nesting = Nesting.outside ∧ isWhiteSpace ch = true) ∧ ∃ nesting,
      self.nesting.step ch = some nesting ∧
        next = { self with current := self.current ++ [ch], nesting := nesting }) := by
  unfold step at h
  split at h
  next hgap => exact Or.inl ⟨hgap.1, hgap.2, (Except.ok.inj h).symm⟩
  next hgap =>
    cases hstep : self.nesting.step ch with
    | none =>
      rw [hstep] at h
      cases h
    | some nesting =>
      rw [hstep] at h
      exact Or.inr ⟨hgap, nesting, rfl, (Except.ok.inj h).symm⟩

lemma Started.char (h : self.Started)
    (hgap : ¬(self.nesting = Nesting.outside ∧ isWhiteSpace ch = true)) {nesting : Nesting}
    (hstep : self.nesting.step ch = some nesting) :
    Started { self with current := self.current ++ [ch], nesting := nesting } where
  scanned := Nesting.scan_append_eq_some.mpr
    ⟨self.nesting, h.scanned, Nesting.scan_cons_eq_some.mpr ⟨nesting, hstep, rfl⟩⟩
  gapless := by
    intro front c back hsplit hfront
    obtain rfl | ⟨rest, last, rfl⟩ := List.eq_nil_or_concat' back
    · obtain ⟨rfl, hlast⟩ := List.append_inj' hsplit rfl
      obtain rfl := List.singleton_inj.mp hlast
      have houtside : some self.nesting = some Nesting.outside :=
        h.scanned.symm.trans (balanced_iff.mp hfront)
      exact Bool.eq_false_iff.mpr (fun hch => hgap ⟨Option.some.inj houtside, hch⟩)
    · rw [← List.cons_append, ← List.append_assoc] at hsplit
      obtain ⟨hcurrent, -⟩ := List.append_inj' hsplit rfl
      exact h.gapless front c rest hcurrent hfront

lemma started_gap (houtside : self.nesting = Nesting.outside) (tokens : List String) :
    Started { self with tokens := tokens, current := [] } where
  scanned := congrArg some houtside.symm
  gapless := started_start.gapless

lemma finish_outside (houtside : self.nesting = Nesting.outside) :
    self.finish = .ok self.pushed := by
  rw [finish, houtside]
  rfl

lemma Started.outside_of_finish (h : self.Started) {tokens : List String}
    (hfinish : self.finish = .ok tokens) :
    self.nesting = Nesting.outside ∧ tokens = self.pushed := by
  have hproper := Nesting.proper_scan Nesting.proper_outside h.scanned
  unfold finish at hfinish
  split at hfinish
  · cases hfinish
  next hquote =>
    split at hfinish
    · cases hfinish
    next hdepth =>
      refine ⟨?_, (Except.ok.inj hfinish).symm⟩
      obtain ⟨tokens, current, depth, inQuote, escaped⟩ := self
      have hescaped : escaped ≠ true := fun heq => hquote (hproper.quoted heq)
      obtain rfl : escaped = false := Bool.eq_false_iff.mpr hescaped
      obtain rfl : inQuote = none := by simpa using hquote
      obtain rfl : depth = 0 := not_not.mp hdepth
      rfl

lemma Started.separated (h : self.Started) {text : List Char} {tokens : List String}
    (hrun : self.run text = .ok tokens) : ∃ words,
      tokens = self.tokens ++ words.map String.ofList ∧ Separated (self.current ++ text) words ∧
        ∀ word ∈ words, IsWord word := by
  induction text generalizing self with
  | nil =>
    obtain ⟨houtside, htokens⟩ := h.outside_of_finish hrun
    by_cases hcurrent : self.current = []
    · refine ⟨[], ?_, ?_, ?_⟩
      · rw [htokens, pushed_empty hcurrent, List.map_nil, List.append_nil]
      · rw [hcurrent]
        exact .blank (fun _ hmem => absurd hmem List.not_mem_nil)
      · exact fun _ hmem => absurd hmem List.not_mem_nil
    · refine ⟨[self.current], ?_, ?_, ?_⟩
      · rw [htokens, pushed_word (h.isWord houtside hcurrent)]
        rfl
      · exact .word (fun _ hmem => absurd hmem List.not_mem_nil) (fun _ hhead => (by cases hhead))
          (.blank (fun _ hmem => absurd hmem List.not_mem_nil))
      · exact List.forall_mem_singleton.mpr (h.isWord houtside hcurrent)
  | cons ch text ih =>
    obtain ⟨next, hnext, htext⟩ := bind_eq_ok hrun
    obtain ⟨houtside, hch, rfl⟩ | ⟨hgap, nesting, hstep, rfl⟩ := step_cases hnext
    · obtain ⟨words, htokens, hwords, hall⟩ := ih (started_gap houtside _) htext
      have hblank : Separated (ch :: text) words := separated_blank_cons hch hwords
      by_cases hcurrent : self.current = []
      · refine ⟨words, ?_, ?_, hall⟩
        · rw [htokens, pushed_empty hcurrent]
        · rw [hcurrent]
          exact hblank
      · refine ⟨self.current :: words, ?_, ?_, ?_⟩
        · rw [htokens, pushed_word (h.isWord houtside hcurrent), List.append_assoc]
          rfl
        · refine .word (fun _ hmem => absurd hmem List.not_mem_nil) ?_ hblank
          intro c hhead
          obtain rfl := Option.some.inj hhead
          exact hch
        · exact List.forall_mem_cons.mpr ⟨h.isWord houtside hcurrent, hall⟩
    · obtain ⟨words, rfl, hwords, hall⟩ := ih (h.char hgap hstep) htext
      rw [List.append_assoc] at hwords
      exact ⟨words, rfl, hwords, hall⟩

lemma run_word (h : self.Started) {rest text : List Char} (hword : IsWord (self.current ++ rest)) :
    self.run (rest ++ text) =
      run { self with current := self.current ++ rest, nesting := Nesting.outside } text := by
  induction rest generalizing self with
  | nil =>
    have hscan := scan_balanced hword.balanced
    rw [List.append_nil, h.scanned] at hscan
    obtain ⟨tokens, current, nesting⟩ := self
    obtain rfl := Option.some.inj hscan
    rw [List.append_nil, List.nil_append]
  | cons ch rest ih =>
    have hsplit : self.current ++ ch :: rest = self.current ++ [ch] ++ rest := by simp
    have hgap : ¬(self.nesting = Nesting.outside ∧ isWhiteSpace ch = true) := by
      rintro ⟨houtside, hch⟩
      have hfront : Balanced self.current := balanced_iff.mpr (houtside ▸ h.scanned)
      rw [hword.gapless self.current ch rest rfl hfront] at hch
      cases hch
    obtain ⟨nesting, hfront, hscan⟩ :=
      Nesting.scan_append_eq_some.mp (scan_balanced hword.balanced)
    obtain rfl := Option.some.inj (h.scanned.symm.trans hfront)
    obtain ⟨nesting, hstep, -⟩ := Nesting.scan_cons_eq_some.mp hscan
    rw [hsplit] at hword ⊢
    rw [List.cons_append, run, step_char hgap hstep]
    exact ih (h.char hgap hstep) hword

lemma run_blank (hcurrent : self.current = []) (houtside : self.nesting = Nesting.outside)
    {space text : List Char} (hspace : ∀ ch ∈ space, isWhiteSpace ch = true) :
    self.run (space ++ text) = self.run text := by
  induction space with
  | nil => rfl
  | cons ch space ih =>
    rw [List.forall_mem_cons] at hspace
    rw [List.cons_append, run, step_gap houtside hspace.1, pushed_empty hcurrent]
    obtain ⟨tokens, current, nesting⟩ := self
    obtain rfl := hcurrent
    exact ih hspace.2

lemma run_separated {text : List Char} {words : List (List Char)} (h : Separated text words)
    (hwords : ∀ word ∈ words, IsWord word) (tokens : List String) :
    run ⟨tokens, [], Nesting.outside⟩ text = .ok (tokens ++ words.map String.ofList) := by
  induction h generalizing tokens with
  | @blank space hspace =>
    rw [← List.append_nil space, run_blank rfl rfl hspace, run, finish_outside rfl,
      pushed_empty rfl, List.map_nil, List.append_nil]
  | @word space word text words hspace hblank htext ih =>
    rw [List.forall_mem_cons] at hwords
    have hstart : Started ⟨tokens, [], Nesting.outside⟩ := @started_gap start rfl tokens
    have hpushed : pushed ⟨tokens, word, Nesting.outside⟩ = tokens ++ [String.ofList word] :=
      @pushed_word ⟨tokens, word, Nesting.outside⟩ hwords.1
    have hrest := ih hwords.2 (tokens ++ [String.ofList word])
    rw [run_blank rfl rfl hspace, run_word hstart hwords.1, List.map_cons, List.append_cons]
    cases text with
    | nil =>
      rw [run, finish_outside rfl, pushed_empty rfl] at hrest
      rw [run, finish_outside rfl, ← hrest]
      exact congrArg _ hpushed
    | cons ch text =>
      have hch := hblank ch rfl
      rw [run, step_gap rfl hch, pushed_empty rfl] at hrest
      rw [run, step_gap rfl hch, ← hrest]
      exact congrArg (fun tokens => (Except.ok (TokenScan.mk tokens [] Nesting.outside) >>= _))
        hpushed

end TokenScan

theorem start_run_iff {text : List Char} {words : List (List Char)} :
    TokenScan.start.run text = .ok (words.map String.ofList) ↔
      Separated text words ∧ ∀ word ∈ words, IsWord word := by
  constructor
  · intro h
    obtain ⟨found, htokens, hseparated, hfound⟩ := TokenScan.started_start.separated h
    obtain rfl : words = found :=
      List.map_injective_iff.mpr (fun _ _ heq => String.ofList_injective heq) htokens
    exact ⟨hseparated, hfound⟩
  · rintro ⟨hseparated, hwords⟩
    exact TokenScan.run_separated hseparated hwords []

end Tokens

section Reading

lemma dropWhile_append_of_neg {p : Char → Bool} {front : List Char} (hfront : front ≠ [])
    (h : ∀ ch ∈ front, p ch = false) (back : List Char) :
    (front ++ back).dropWhile p = front ++ back := by
  cases front with
  | nil => exact absurd rfl hfront
  | cons ch front =>
    have hch := h ch List.mem_cons_self
    rw [List.cons_append, List.dropWhile_cons_of_neg (by simp [hch])]

lemma trim_append_blank {id space : List Char} (hid : id ≠ [])
    (hgap : ∀ ch ∈ id, isWhiteSpace ch = false) (hspace : ∀ ch ∈ space, isWhiteSpace ch = true) :
    trim (String.ofList (id ++ space)) = String.ofList id := by
  have hreverse : ∀ ch ∈ id.reverse, isWhiteSpace ch = false :=
    fun ch hmem => hgap ch (List.mem_reverse.mp hmem)
  have hblank : ∀ ch ∈ space.reverse, isWhiteSpace ch = true :=
    fun ch hmem => hspace ch (List.mem_reverse.mp hmem)
  have hlast : id.reverse.dropWhile isWhiteSpace = id.reverse := by
    simpa using dropWhile_append_of_neg (by simpa using hid) hreverse []
  rw [trim, String.toList_ofList, dropWhile_append_of_neg hid hgap, List.reverse_append,
    List.dropWhile_append_of_pos hblank, hlast, List.reverse_reverse]

lemma exists_trim {base : List Char} (h : base.dropWhile isWhiteSpace = base) :
    ∃ id space, base = id ++ space ∧ (∀ ch ∈ space, isWhiteSpace ch = true) ∧
      trim (String.ofList base) = String.ofList id := by
  refine ⟨base.rdropWhile isWhiteSpace, base.rtakeWhile isWhiteSpace, ?_, ?_, ?_⟩
  · rw [List.rdropWhile, List.rtakeWhile, ← List.reverse_append, List.takeWhile_append_dropWhile,
      List.reverse_reverse]
  · exact fun ch hmem => List.mem_rtakeWhile_imp hmem
  · rw [trim, String.toList_ofList, h, List.rdropWhile]

lemma splitScope_bare {raw : String} (h : '(' ∉ raw.toList) : splitScope raw = .ok (raw, none) := by
  have hdrop : raw.toList.dropWhile (· ≠ '(') = [] := by
    rw [List.dropWhile_eq_nil_iff]
    intro ch hmem
    exact decide_eq_true (fun heq => h (heq ▸ hmem))
  rw [splitScope, hdrop]

lemma splitScope_scoped {base inner : List Char} (hbase : '(' ∉ base) :
    splitScope (String.ofList (base ++ '(' :: (inner ++ [')']))) =
      .ok (trim (String.ofList base), some (String.ofList inner)) := by
  have hne : ∀ ch ∈ base, decide (ch ≠ '(') = true :=
    fun ch hmem => decide_eq_true (fun heq => hbase (heq ▸ hmem))
  have hdrop : (base ++ '(' :: (inner ++ [')'])).dropWhile (· ≠ '(') = '(' :: (inner ++ [')']) := by
    rw [List.dropWhile_append_of_pos hne, List.dropWhile_cons_of_neg (by simp)]
  have htake : (base ++ '(' :: (inner ++ [')'])).takeWhile (· ≠ '(') = base := by
    rw [List.takeWhile_append_of_pos hne, List.takeWhile_cons_of_neg (by simp), List.append_nil]
  have hlast : (base ++ '(' :: (inner ++ [')'])).getLast? = some ')' := by
    rw [← List.cons_append, ← List.append_assoc, List.getLast?_concat]
  rw [splitScope, String.toList_ofList, hdrop, htake, hlast]
  simp only [if_true, List.dropLast_concat]

lemma splitScope_cases {raw toolId : String} {scope : Option String}
    (h : splitScope raw = .ok (toolId, scope)) :
    ('(' ∉ raw.toList ∧ toolId = raw ∧ scope = none) ∨
    ∃ base inner, '(' ∉ base ∧ raw.toList = base ++ '(' :: (inner ++ [')']) ∧
      toolId = trim (String.ofList base) ∧ scope = some (String.ofList inner) := by
  have hsplit := List.takeWhile_append_dropWhile (p := fun ch => decide (ch ≠ '(')) (l := raw.toList)
  unfold splitScope at h
  cases hdrop : raw.toList.dropWhile (· ≠ '(') with
  | nil =>
    rw [hdrop] at h
    obtain ⟨rfl, rfl⟩ := Prod.mk.inj (Except.ok.inj h)
    rw [List.dropWhile_eq_nil_iff] at hdrop
    exact Or.inl ⟨fun hmem => by simpa using hdrop _ hmem, rfl, rfl⟩
  | cons ch rest =>
    rw [hdrop] at h hsplit
    have hch : ch = '(' := by
      have hhead := List.head?_dropWhile_not (fun ch => decide (ch ≠ '(')) raw.toList
      rw [hdrop] at hhead
      simpa using hhead
    subst hch
    dsimp only at h
    split at h
    next hlast =>
      obtain ⟨rfl, rfl⟩ := Prod.mk.inj (Except.ok.inj h)
      rw [← hsplit] at hlast
      obtain ⟨inner, rfl⟩ : ∃ inner, rest = inner ++ [')'] := by
        obtain rfl | ⟨inner, last, rfl⟩ := List.eq_nil_or_concat' rest
        · simp at hlast
        · rw [← List.cons_append, ← List.append_assoc, List.getLast?_concat] at hlast
          exact ⟨inner, by rw [Option.some.inj hlast]⟩
      refine Or.inr ⟨_, inner, ?_, hsplit.symm, rfl, ?_⟩
      · intro hmem
        simpa using List.mem_takeWhile_imp hmem
      · rw [List.dropLast_concat]
    next => cases h

lemma parseToken_iff {word : List Char} {tool : AllowedTool} (hword : IsWord word) :
    parseSkillAllowedToolToken (String.ofList word) = .ok tool ↔
      ∃ toolId scope, splitScope (String.ofList word) = .ok (toolId, scope) ∧ toolId ≠ "" ∧
        NoGap toolId.toList ∧ tool = ⟨String.ofList word, toolId, scope⟩ := by
  rw [parseSkillAllowedToolToken, hword.trim]
  dsimp only
  rw [if_neg (TokenScan.ofList_ne_empty hword.nonempty)]
  have hgap : ∀ toolId : String,
      toolId.toList.any (fun c => isWhiteSpace c || c = '(' || c = ')') = false ↔
        NoGap toolId.toList := by
    intro toolId
    simp [NoGap, and_assoc]
  constructor
  · intro h
    obtain ⟨⟨toolId, scope⟩, hsplit, h⟩ := bind_eq_ok h
    dsimp only at h
    split at h
    · cases h
    next hne =>
      split at h
      · cases h
      next hany =>
        cases h
        exact ⟨toolId, scope, hsplit, hne, (hgap toolId).mp (Bool.eq_false_iff.mpr hany), rfl⟩
  · rintro ⟨toolId, scope, hsplit, hne, hid, rfl⟩
    have hany := (hgap toolId).mpr hid
    rw [hsplit]
    simp [bind, Except.bind, hne, hany]

lemma open_not_mem {id space : List Char} (hid : NoGap id)
    (hspace : ∀ ch ∈ space, isWhiteSpace ch = true) : '(' ∉ id ++ space := by
  rw [List.mem_append]
  rintro (hmem | hmem)
  · exact (hid _ hmem).2.1 rfl
  · exact absurd (hspace _ hmem) (by decide)

theorem parseToken_looksLike {word : List Char} {tool : AllowedTool} (hword : IsWord word) :
    parseSkillAllowedToolToken (String.ofList word) = .ok tool ↔ LooksLike word tool := by
  rw [parseToken_iff hword]
  constructor
  · rintro ⟨toolId, scope, hsplit, hne, hid, rfl⟩
    obtain ⟨-, rfl, rfl⟩ | ⟨base, inner, -, hraw, rfl, rfl⟩ := splitScope_cases hsplit
    · rw [String.toList_ofList] at hid
      exact .bare hword.nonempty hid
    · rw [String.toList_ofList] at hraw
      have hfirst : base.dropWhile isWhiteSpace = base := by
        cases hbase : base with
        | nil => rfl
        | cons ch front =>
          have hch := hword.gapless [] ch (front ++ '(' :: (inner ++ [')'])) (by simp [hraw, hbase]) .nil
          rw [List.dropWhile_cons_of_neg (by simp [hch])]
      obtain ⟨id, space, rfl, hspace, htrim⟩ := exists_trim hfirst
      rw [htrim] at hne hid ⊢
      rw [String.toList_ofList] at hid
      rw [hraw, List.append_assoc]
      exact .withScope (fun heq => hne (by rw [heq])) hid hspace
  · intro h
    cases h with
    | bare hne hid =>
      refine ⟨_, _, splitScope_bare ?_, TokenScan.ofList_ne_empty hne, ?_, rfl⟩
      · rw [String.toList_ofList]
        exact fun hmem => (hid _ hmem).2.1 rfl
      · rwa [String.toList_ofList]
    | @withScope id space inner hne hid hspace =>
      have hbase : '(' ∉ id ++ space := open_not_mem hid hspace
      have hsplit := @splitScope_scoped _ inner hbase
      rw [trim_append_blank hne (fun ch hmem => (hid ch hmem).1) hspace, List.append_assoc] at hsplit
      refine ⟨_, _, hsplit, TokenScan.ofList_ne_empty hne, ?_, rfl⟩
      rwa [String.toList_ofList]

lemma forall₂_congr_left {α β : Type} {R S : α → β → Prop} {l : List α}
    (h : ∀ a ∈ l, ∀ b, R a b ↔ S a b) {m : List β} : List.Forall₂ R l m ↔ List.Forall₂ S l m := by
  induction l generalizing m with
  | nil => rw [List.forall₂_nil_left_iff, List.forall₂_nil_left_iff]
  | cons a l ih =>
    rw [List.forall_mem_cons] at h
    simp only [List.forall₂_cons_left_iff, h.1, ih h.2]

theorem parse_iff {value : String} {tools : List AllowedTool} :
    parseSkillAllowedTools value = .ok tools ↔ ∃ words, Separated value.toList words ∧
      (∀ word ∈ words, IsWord word) ∧ List.Forall₂ LooksLike words tools := by
  have hread : ∀ {words : List (List Char)}, (∀ word ∈ words, IsWord word) →
      ((words.map String.ofList).mapM parseSkillAllowedToolToken = .ok tools ↔
        List.Forall₂ LooksLike words tools) := by
    intro words hwords
    rw [mapM_eq_ok_iff, List.forall₂_map_left_iff]
    exact forall₂_congr_left (fun word hmem _ => parseToken_looksLike (hwords word hmem))
  constructor
  · intro h
    obtain ⟨tokens, htokens, htools⟩ := bind_eq_ok h
    obtain ⟨words, rfl, hseparated, hwords⟩ := TokenScan.started_start.separated htokens
    exact ⟨words, hseparated, hwords, (hread hwords).mp htools⟩
  · rintro ⟨words, hseparated, hwords, htools⟩
    rw [parseSkillAllowedTools, (start_run_iff).mpr ⟨hseparated, hwords⟩]
    exact (hread hwords).mpr htools

end Reading

section Agreement

lemma prefix_of_concat {text front back : List Char} {last ch : Char}
    (h : text ++ [last] = front ++ ch :: back) : ∃ rest, text = front ++ rest := by
  obtain rfl | ⟨rest, _, rfl⟩ := List.eq_nil_or_concat' back
  · obtain ⟨rfl, -⟩ := List.append_inj' h rfl
    exact ⟨[], by simp⟩
  · rw [← List.cons_append, ← List.append_assoc] at h
    obtain ⟨rfl, -⟩ := List.append_inj' h rfl
    exact ⟨ch :: rest, rfl⟩

lemma front_of_balanced {id scope front back : List Char} {ch : Char} (hid : Balanced id)
    (hscope : Balanced scope) (hfront : Balanced front)
    (h : id ++ '(' :: (scope ++ [')']) = front ++ ch :: back) : ∃ rest, id = front ++ rest := by
  obtain ⟨rest, rfl, hrest⟩ | ⟨rest, rfl, hrest⟩ := List.append_eq_append_iff.mp h
  · cases rest with
    | nil => exact ⟨[], by simp⟩
    | cons a rest =>
      obtain ⟨rfl, hinside⟩ := List.cons.inj hrest
      obtain ⟨inside, rfl⟩ := prefix_of_concat hinside
      exact absurd hfront (not_balanced_of_open hid hscope)
  · exact ⟨rest, rfl⟩

lemma spells_isWord {word : List Char} {tool : AllowedTool} (h : Spells word tool) : IsWord word := by
  cases h with
  | bare hne hid hbalanced =>
    refine ⟨hne, hbalanced, ?_⟩
    rintro front ch back rfl -
    exact (hid ch (by simp)).1
  | @withScope id scope hne hid hbalanced hscope =>
    refine ⟨by simp, balanced_append hbalanced (.group hscope .nil), ?_⟩
    intro front ch back hsplit hfront
    obtain ⟨rest, rfl⟩ := front_of_balanced hbalanced hscope hfront hsplit
    rw [List.append_assoc, List.append_cancel_left_eq] at hsplit
    cases rest with
    | nil =>
      obtain ⟨rfl, -⟩ := List.cons.inj hsplit
      decide
    | cons a rest =>
      obtain ⟨rfl, -⟩ := List.cons.inj hsplit
      exact (hid a (by simp)).1

lemma not_earlyClosed_of_spells {word : List Char} {tool : AllowedTool} (h : Spells word tool) :
    ¬ EarlyClosed word := by
  rintro ⟨front, back, hsplit, hback, hopen, hfront⟩
  cases h with
  | bare hne hid =>
    refine (hid '(' ?_).2.1 rfl
    rw [hsplit]
    exact List.mem_append_left _ hopen
  | withScope hne hid hbalanced hscope =>
    obtain ⟨ch, rest, rfl⟩ := List.exists_cons_of_ne_nil hback
    obtain ⟨rest, rfl⟩ := front_of_balanced hbalanced hscope hfront hsplit
    exact (hid '(' (List.mem_append_left _ hopen)).2.1 rfl

lemma looksLike_of_spells {word : List Char} {tool : AllowedTool} (h : Spells word tool) :
    LooksLike word tool := by
  cases h with
  | bare hne hid => exact .bare hne hid
  | withScope hne hid =>
    exact @LooksLike.withScope _ [] _ hne hid (fun _ hmem => absurd hmem List.not_mem_nil)

lemma base_balanced {base inner : List Char} (hbase : '(' ∉ base)
    (hword : Balanced (base ++ '(' :: (inner ++ [')'])))
    (hclosed : ¬ EarlyClosed (base ++ '(' :: (inner ++ [')']))) : Balanced base := by
  obtain ⟨self, hfront, hrest⟩ := Nesting.scan_append_eq_some.mp (scan_balanced hword)
  have hproper := Nesting.proper_scan Nesting.proper_outside hfront
  have hdepth := depth_of_scan rfl hbase hfront
  cases hquote : self.inQuote with
  | none =>
    have hescaped : self.escaped = false := by
      refine Bool.eq_false_iff.mpr (fun heq => ?_)
      have hsome := hproper.quoted heq
      rw [hquote] at hsome
      cases hsome
    obtain ⟨depth, inQuote, escaped⟩ := self
    obtain rfl : depth = 0 := hdepth
    obtain rfl : inQuote = none := hquote
    obtain rfl : escaped = false := hescaped
    exact balanced_iff.mpr hfront
  | some q =>
    obtain ⟨front, back, hsplit, hscan⟩ := quote_closes hproper hquote hrest
    rw [hdepth] at hscan
    have hq := hproper.quote q hquote
    refine absurd ⟨base ++ (front ++ [q]), back, ?_, ?_, ?_, ?_⟩ hclosed
    · rw [hsplit]
      simp
    · rintro rfl
      rw [← List.cons_append] at hsplit
      obtain ⟨-, hlast⟩ := List.append_inj' hsplit rfl
      obtain rfl := List.singleton_inj.mp hlast
      exact absurd hq (by decide)
    · cases front with
      | nil =>
        obtain ⟨rfl, -⟩ := List.cons.inj hsplit
        exact absurd hq (by decide)
      | cons ch front =>
        obtain ⟨rfl, -⟩ := List.cons.inj hsplit
        simp
    · exact balanced_iff.mpr (Nesting.scan_append_eq_some.mpr ⟨self, hfront, hscan⟩)

lemma inner_balanced {base inner : List Char} (hbase : Balanced base)
    (hword : Balanced (base ++ '(' :: (inner ++ [')'])))
    (hclosed : ¬ EarlyClosed (base ++ '(' :: (inner ++ [')']))) : Balanced inner := by
  obtain ⟨self, hfront, hrest⟩ := Nesting.scan_append_eq_some.mp (scan_balanced hword)
  obtain rfl := Option.some.inj ((scan_balanced hbase).symm.trans hfront)
  obtain ⟨next, hstep, hscan⟩ := Nesting.scan_cons_eq_some.mp hrest
  obtain rfl := Option.some.inj hstep
  have hclosing : Closing 1 (inner ++ [')']) := closing_of_scan hscan
  generalize hinner : inner ++ [')'] = rest at hclosing
  cases hclosing with
  | @close _ front back hbalanced hback =>
    by_cases hend : back = []
    · subst hend
      obtain ⟨rfl, -⟩ := List.append_inj' hinner rfl
      exact hbalanced
    · refine absurd ⟨base ++ '(' :: (front ++ [')']), back, ?_, hend, by simp, ?_⟩ hclosed
      · rw [hinner]
        simp
      · exact balanced_append hbase (.group hbalanced .nil)

lemma spells_of_looksLike {word : List Char} {tool : AllowedTool} (hword : IsWord word)
    (h : LooksLike word tool) (hclosed : ¬ EarlyClosed word) : Spells word tool := by
  cases h with
  | bare hne hid => exact .bare hne hid hword.balanced
  | @withScope id space inner hne hid hspace =>
    have hopen : '(' ∉ id ++ space := open_not_mem hid hspace
    rw [← List.append_assoc] at hword hclosed ⊢
    have hbase : Balanced (id ++ space) := base_balanced hopen hword.balanced hclosed
    have hinner : Balanced inner := inner_balanced hbase hword.balanced hclosed
    have hbaseWord : IsWord (id ++ space) := by
      refine ⟨by simp [hne], hbase, ?_⟩
      intro front ch back hsplit hfront
      refine hword.gapless front ch (back ++ '(' :: (inner ++ [')'])) ?_ hfront
      rw [hsplit, List.append_assoc, List.cons_append]
    have htrim := trim_append_blank hne (fun ch hmem => (hid ch hmem).1) hspace
    rw [hbaseWord.trim] at htrim
    have hid' : id ++ space = id := String.ofList_injective htrim
    rw [hid'] at hbase ⊢
    exact .withScope hne hid hbase hinner

lemma separated_unique {text : List Char} {words others : List (List Char)}
    (h : Separated text words) (hwords : ∀ word ∈ words, IsWord word) (hothers : Separated text others)
    (hall : ∀ word ∈ others, IsWord word) : words = others := by
  have hrun := TokenScan.run_separated h hwords []
  rw [TokenScan.run_separated hothers hall []] at hrun
  exact (List.map_injective_iff.mpr (fun _ _ heq => String.ofList_injective heq)
    (Except.ok.inj hrun)).symm

lemma separated_joined {words : List (List Char)} :
    Separated (joined ' ' (words.map String.ofList)).toList words := by
  have hnone : ∀ ch ∈ ([] : List Char), isWhiteSpace ch = true :=
    fun _ hmem => absurd hmem List.not_mem_nil
  induction words with
  | nil => exact .blank hnone
  | cons word words ih =>
    cases words with
    | nil =>
      have hword : (joined ' ' (List.map String.ofList [word])).toList = [] ++ (word ++ []) := by
        simp [joined, List.intercalate_singleton]
      rw [hword]
      exact .word hnone (fun _ hhead => (by cases hhead)) (.blank hnone)
    | cons other words =>
      rw [List.map_cons, toList_joined_cons (by simp), String.toList_ofList]
      refine @Separated.word [] word _ _ hnone ?_ (separated_blank_cons (by decide) ih)
      intro ch hhead
      obtain rfl := Option.some.inj hhead
      decide

lemma raws_of_looksLike {words : List (List Char)} {tools : List AllowedTool}
    (h : List.Forall₂ LooksLike words tools) :
    tools.map (·.raw) = words.map String.ofList := by
  induction h with
  | nil => rfl
  | cons hfirst hrest ih =>
    rw [List.map_cons, List.map_cons, ih]
    cases hfirst with
    | bare => rfl
    | withScope => rfl

lemma spells_words {words : List (List Char)} {tools : List AllowedTool}
    (h : List.Forall₂ Spells words tools) : ∀ word ∈ words, ∃ tool, Spells word tool := by
  induction h with
  | nil => exact fun _ hmem => absurd hmem List.not_mem_nil
  | cons hfirst hrest ih => exact List.forall_mem_cons.mpr ⟨⟨_, hfirst⟩, ih⟩

/-- The parser follows the grammar on a text exactly if in none of the texts of words that look like
tokens a parenthesis after an id is closed early. -/
theorem followsGrammar_iff (value : String) :
    FollowsGrammar value ↔ ∀ words tools, Separated value.toList words →
      (∀ word ∈ words, IsWord word) → List.Forall₂ LooksLike words tools →
        ∀ word ∈ words, ¬ EarlyClosed word := by
  constructor
  · intro h words tools hseparated hwords htools word hmem
    have hparse := (parse_iff).mpr ⟨words, hseparated, hwords, htools⟩
    obtain ⟨others, hothers, hspells⟩ := (h.reads tools).mp hparse
    have hall := spells_words hspells
    obtain rfl := separated_unique hseparated hwords hothers
      (fun word hmem => spells_isWord (hall word hmem).choose_spec)
    obtain ⟨tool, htool⟩ := hall word hmem
    exact not_earlyClosed_of_spells htool
  · intro h
    constructor
    · intro tools
      constructor
      · intro hparse
        obtain ⟨words, hseparated, hwords, htools⟩ := (parse_iff).mp hparse
        have hclosed := h words tools hseparated hwords htools
        refine ⟨words, hseparated, (forall₂_congr_left ?_).mp htools⟩
        exact fun word hmem _ => ⟨fun hlooks => spells_of_looksLike (hwords word hmem) hlooks
          (hclosed word hmem), looksLike_of_spells⟩
      · rintro ⟨words, hseparated, hspells⟩
        have hall := spells_words hspells
        exact (parse_iff).mpr ⟨words, hseparated,
          fun word hmem => spells_isWord (hall word hmem).choose_spec,
          hspells.imp (fun _ _ => looksLike_of_spells)⟩
    · intro tools hparse
      obtain ⟨words, -, hwords, htools⟩ := (parse_iff).mp hparse
      rw [raws_of_looksLike htools]
      exact (parse_iff).mpr ⟨words, separated_joined, hwords, htools⟩

lemma spells_scope {word : List Char} {tool : AllowedTool} {scope : String} (h : Spells word tool)
    (hscope : tool.scope = some scope) : Balanced scope.toList := by
  cases h with
  | bare => cases hscope
  | withScope hne hid hbalanced hinner =>
    obtain rfl := Option.some.inj hscope
    rwa [String.toList_ofList]

theorem bash_scope_misread : ¬ FollowsGrammar "Bash(a)(b)" := by
  intro h
  have hparse : parseSkillAllowedTools "Bash(a)(b)" =
      .ok [⟨"Bash(a)(b)", "Bash", some "a)(b"⟩] := by decide
  obtain ⟨words, -, hspells⟩ := (h.reads _).mp hparse
  obtain ⟨word, _, hword, -, -⟩ := List.forall₂_cons_right_iff.mp hspells
  have hscope := balanced_iff.mp (spells_scope hword rfl)
  revert hscope
  decide

end Agreement

end SkillAllowedTools

end Awaken.Contract
