import Awaken.Lib.MaxBy
import Awaken.Lib.Table
import Awaken.Permission.Rules
import Awaken.ToolPattern.Matcher

namespace Awaken.Permission

open Awaken.Lib Awaken.ToolPattern

variable {R N : Type} (lib : MatchLib R N)

namespace PermissionSubject

def matchesToolCall (self : PermissionSubject R) (toolId : String) (toolArgs : Json N) :
    Option Specificity :=
  match self with
  | .tool id => if id = toolId then some ⟨3, false, 0, 0⟩ else none
  | .pattern p => patternMatches lib p toolId.toList toolArgs

def matchesTool (self : PermissionSubject R) (toolId : String) : Bool :=
  match self with
  | .tool id => id = toolId
  | .pattern p => (patternMatches lib p toolId.toList .null).isSome

def deniedTool : PermissionSubject R → Option String
  | .tool toolId => some toolId
  | .pattern ⟨.exact name, .any⟩ => some (String.ofList name)
  | _ => none

def expands : PermissionSubject R → Bool
  | .tool _ => false
  | .pattern ⟨.exact _, _⟩ => false
  | .pattern ⟨_, args⟩ => args = .any

end PermissionSubject

structure PermissionRuleset (R : Type) where
  defaultBehavior : ToolPermissionBehavior
  rules : Table String (PermissionRule R)

structure PermissionEvaluation (R : Type) where
  subject : PermissionSubject R
  behavior : ToolPermissionBehavior
  matchedRule : Option (PermissionRule R)

def behaviorPriority : ToolPermissionBehavior → Nat
  | .deny => 2
  | .allow => 1
  | .ask => 0

def matchRank (found : PermissionRule R × Specificity) : ℕ ×ₗ ℕ ×ₗ Bool ×ₗ ℕ ×ₗ ℕ :=
  toLex (behaviorPriority found.1.behavior, found.2.rank)

namespace PermissionRuleset

variable (self : PermissionRuleset R)

def matchesOf (toolId : String) (toolArgs : Json N) : List (PermissionRule R × Specificity) :=
  self.rules.values.filterMap (fun rule =>
    (rule.subject.matchesToolCall lib toolId toolArgs).map (fun specificity => (rule, specificity)))

def ruleForToolCall (toolId : String) (toolArgs : Json N) : Option (PermissionRule R) :=
  (maxBy matchRank (self.matchesOf lib toolId toolArgs)).map Prod.fst

def unconditionallyDeniedTools : List String :=
  (self.rules.values.filter (fun rule => rule.behavior = .deny)).filterMap (·.subject.deniedTool)

def deniedByPattern (toolIds : List String) : List String :=
  self.rules.values.flatMap (fun rule =>
    if rule.behavior = .deny && rule.subject.expands then
      toolIds.filter (fun toolId => rule.subject.matchesTool lib toolId)
    else [])

def unconditionallyDeniedAgainst (toolIds : List String) : List String :=
  self.unconditionallyDeniedTools ++ self.deniedByPattern lib toolIds

end PermissionRuleset

def evaluateToolPermission (ruleset : PermissionRuleset R) (toolId : String) (toolArgs : Json N) :
    PermissionEvaluation R :=
  let matchedRule := ruleset.ruleForToolCall lib toolId toolArgs
  { subject := .tool toolId
    behavior := (matchedRule.map (·.behavior)).getD ruleset.defaultBehavior
    matchedRule := matchedRule }

section Evaluation

variable {lib} {ruleset ruleset' : PermissionRuleset R} {toolId : String} {toolArgs : Json N}

/-- Some rule of that behavior matches the call. -/
def Matches (lib : MatchLib R N) (ruleset : PermissionRuleset R) (toolId : String)
    (toolArgs : Json N) (behavior : ToolPermissionBehavior) : Prop :=
  ∃ key rule, ruleset.rules.get key = some rule ∧ rule.behavior = behavior ∧
    (rule.subject.matchesToolCall lib toolId toolArgs).isSome

lemma mem_matchesOf {found : PermissionRule R × Specificity} :
    found ∈ ruleset.matchesOf lib toolId toolArgs ↔ found.1 ∈ ruleset.rules.values ∧
      found.1.subject.matchesToolCall lib toolId toolArgs = some found.2 := by
  obtain ⟨rule, specificity⟩ := found
  rw [PermissionRuleset.matchesOf, List.mem_filterMap]
  constructor
  · rintro ⟨rule', hmem, hmatch⟩
    obtain ⟨specificity', hspec, hpair⟩ := Option.map_eq_some_iff.mp hmatch
    obtain ⟨rfl, rfl⟩ := Prod.mk.inj hpair
    exact ⟨hmem, hspec⟩
  · rintro ⟨hmem, hspec⟩
    exact ⟨rule, hmem, by rw [hspec]; rfl⟩

lemma matches_iff {behavior : ToolPermissionBehavior} :
    Matches lib ruleset toolId toolArgs behavior ↔
      ∃ found ∈ ruleset.matchesOf lib toolId toolArgs, found.1.behavior = behavior := by
  constructor
  · rintro ⟨key, rule, hget, hbehavior, hmatch⟩
    obtain ⟨specificity, hspec⟩ := Option.isSome_iff_exists.mp hmatch
    exact ⟨(rule, specificity), (mem_matchesOf).mpr ⟨Table.mem_values.mpr ⟨key, hget⟩, hspec⟩,
      hbehavior⟩
  · rintro ⟨found, hmem, hbehavior⟩
    obtain ⟨hvalue, hspec⟩ := (mem_matchesOf).mp hmem
    obtain ⟨key, hget⟩ := Table.mem_values.mp hvalue
    exact ⟨key, found.1, hget, hbehavior, by rw [hspec]; rfl⟩

lemma behaviorPriority_injective : Function.Injective behaviorPriority := by
  intro a b h
  cases a <;> cases b <;> first | rfl | cases h

lemma priority_le_of_rank_le {a b : PermissionRule R × Specificity} (h : matchRank a ≤ matchRank b) :
    behaviorPriority a.1.behavior ≤ behaviorPriority b.1.behavior := by
  rcases Prod.Lex.le_iff.mp h with hlt | ⟨heq, -⟩
  · exact hlt.le
  · exact heq.le

lemma behavior_of_maxBy {found : PermissionRule R × Specificity}
    (h : maxBy matchRank (ruleset.matchesOf lib toolId toolArgs) = some found) :
    (evaluateToolPermission lib ruleset toolId toolArgs).behavior = found.1.behavior ∧
      Matches lib ruleset toolId toolArgs found.1.behavior ∧
      ∀ behavior, Matches lib ruleset toolId toolArgs behavior →
        behaviorPriority behavior ≤ behaviorPriority found.1.behavior := by
  obtain ⟨hmem, hmax⟩ := maxBy_eq_some h
  refine ⟨?_, (matches_iff).mpr ⟨found, hmem, rfl⟩, fun behavior hmatch => ?_⟩
  · rw [evaluateToolPermission, PermissionRuleset.ruleForToolCall, h]
    rfl
  · obtain ⟨other, hother, rfl⟩ := (matches_iff).mp hmatch
    exact priority_le_of_rank_le (hmax other hother)

lemma behavior_of_none (h : maxBy matchRank (ruleset.matchesOf lib toolId toolArgs) = none) :
    (evaluateToolPermission lib ruleset toolId toolArgs).behavior = ruleset.defaultBehavior ∧
      ∀ behavior, ¬ Matches lib ruleset toolId toolArgs behavior := by
  refine ⟨?_, fun behavior hmatch => ?_⟩
  · rw [evaluateToolPermission, PermissionRuleset.ruleForToolCall, h]
    rfl
  · obtain ⟨found, hmem, -⟩ := (matches_iff).mp hmatch
    rw [maxBy_eq_none.mp h] at hmem
    cases hmem

open Classical in
noncomputable def decision (lib : MatchLib R N) (ruleset : PermissionRuleset R) (toolId : String)
    (toolArgs : Json N) : ToolPermissionBehavior :=
  if Matches lib ruleset toolId toolArgs .deny then .deny
  else if Matches lib ruleset toolId toolArgs .allow then .allow
  else if Matches lib ruleset toolId toolArgs .ask then .ask
  else ruleset.defaultBehavior

lemma evaluate_eq_decision :
    (evaluateToolPermission lib ruleset toolId toolArgs).behavior =
      decision lib ruleset toolId toolArgs := by
  cases hmax : maxBy matchRank (ruleset.matchesOf lib toolId toolArgs) with
  | none =>
    obtain ⟨hbehavior, hnone⟩ := behavior_of_none hmax
    rw [hbehavior, decision, if_neg (hnone _), if_neg (hnone _), if_neg (hnone _)]
  | some found =>
    obtain ⟨hbehavior, hmatch, hle⟩ := behavior_of_maxBy hmax
    rw [hbehavior, decision]
    cases hfound : found.1.behavior with
    | deny =>
      rw [hfound] at hmatch
      rw [if_pos hmatch]
    | allow =>
      rw [hfound] at hmatch hle
      have hdeny : ¬ Matches lib ruleset toolId toolArgs .deny := fun h =>
        absurd (hle _ h) (by decide)
      rw [if_neg hdeny, if_pos hmatch]
    | ask =>
      rw [hfound] at hmatch hle
      have hdeny : ¬ Matches lib ruleset toolId toolArgs .deny := fun h =>
        absurd (hle _ h) (by decide)
      have hallow : ¬ Matches lib ruleset toolId toolArgs .allow := fun h =>
        absurd (hle _ h) (by decide)
      rw [if_neg hdeny, if_neg hallow, if_pos hmatch]

lemma matchesOf_perm {rules : Table String (PermissionRule R)} (h : ruleset.rules.Reorders rules) :
    (ruleset.matchesOf lib toolId toolArgs).Perm
      ((⟨ruleset.defaultBehavior, rules⟩ : PermissionRuleset R).matchesOf lib toolId toolArgs) :=
  (List.Perm.map Prod.snd h).filterMap _

lemma foundBehavior_reorders {rules : Table String (PermissionRule R)}
    (h : ruleset.rules.Reorders rules) :
    (evaluateToolPermission lib ⟨ruleset.defaultBehavior, rules⟩ toolId toolArgs).matchedRule.map
        (·.behavior) =
      (evaluateToolPermission lib ruleset toolId toolArgs).matchedRule.map (·.behavior) := by
  have hrank : (maxBy matchRank (ruleset.matchesOf lib toolId toolArgs)).map matchRank =
      (maxBy matchRank ((⟨ruleset.defaultBehavior, rules⟩ : PermissionRuleset R).matchesOf lib toolId
        toolArgs)).map matchRank := maxBy_perm (matchesOf_perm h)
  have hpriority : ∀ found : Option (PermissionRule R × Specificity),
      (found.map Prod.fst).map (fun rule => behaviorPriority rule.behavior) =
        (found.map matchRank).map (fun rank => (ofLex rank).1) := fun found => by
    cases found <;> rfl
  refine Option.map_injective behaviorPriority_injective ?_
  rw [Option.map_map, Option.map_map]
  change ((maxBy matchRank _).map Prod.fst).map (fun rule => behaviorPriority rule.behavior) =
    ((maxBy matchRank _).map Prod.fst).map (fun rule => behaviorPriority rule.behavior)
  rw [hpriority, hpriority, hrank]

/-- A rule that replaces the only one that denies the call, and does not deny it itself. -/
structure Exposes (lib : MatchLib R N) (ruleset : PermissionRuleset R) (key : String)
    (rule : PermissionRule R) (toolId : String) (toolArgs : Json N) : Prop where
  replaced : ∃ old, ruleset.rules.get key = some old ∧ old.behavior = .deny ∧
    (old.subject.matchesToolCall lib toolId toolArgs).isSome
  misses : rule.subject.matchesToolCall lib toolId toolArgs = none
  alone : ∀ key' other, key' ≠ key → ruleset.rules.get key' = some other →
    (other.subject.matchesToolCall lib toolId toolArgs).isSome → other.behavior ≠ .deny
  permitted : ruleset.defaultBehavior ≠ .deny ∨ ∃ key' other, key' ≠ key ∧
    ruleset.rules.get key' = some other ∧
      (other.subject.matchesToolCall lib toolId toolArgs).isSome

lemma matches_insert_iff {key : String} {rule : PermissionRule R}
    {behavior : ToolPermissionBehavior} :
    Matches lib ⟨ruleset.defaultBehavior, ruleset.rules.insert key rule⟩ toolId toolArgs behavior ↔
      (rule.behavior = behavior ∧ (rule.subject.matchesToolCall lib toolId toolArgs).isSome) ∨
        ∃ key' other, key' ≠ key ∧ ruleset.rules.get key' = some other ∧
          other.behavior = behavior ∧
            (other.subject.matchesToolCall lib toolId toolArgs).isSome := by
  constructor
  · rintro ⟨key', found, hget, hfound⟩
    rw [Table.get_insert] at hget
    split at hget
    · rw [← Option.some.inj hget] at hfound
      exact .inl hfound
    · rename_i hne
      exact .inr ⟨key', found, hne, hget, hfound⟩
  · rintro (hrule | ⟨key', other, hne, hget, hother⟩)
    · exact ⟨key, rule, by rw [Table.get_insert, if_pos rfl], hrule⟩
    · exact ⟨key', other, by rw [Table.get_insert, if_neg hne]; exact hget, hother⟩

lemma decision_eq_deny_iff : decision lib ruleset toolId toolArgs = .deny ↔
    Matches lib ruleset toolId toolArgs .deny ∨
      (ruleset.defaultBehavior = .deny ∧ ∀ behavior, ¬Matches lib ruleset toolId toolArgs behavior) := by
  rw [decision]
  by_cases hdeny : Matches lib ruleset toolId toolArgs .deny
  · simp [hdeny]
  · rw [if_neg hdeny]
    have hall : (∀ behavior, ¬Matches lib ruleset toolId toolArgs behavior) ↔
        ¬Matches lib ruleset toolId toolArgs .allow ∧ ¬Matches lib ruleset toolId toolArgs .ask := by
      refine ⟨fun h => ⟨h _, h _⟩, fun h behavior => ?_⟩
      cases behavior with
      | allow => exact h.1
      | ask => exact h.2
      | deny => exact hdeny
    rw [hall]
    split
    · rename_i hallow
      simp [hdeny, hallow]
    · rename_i hallow
      split
      · rename_i hask
        simp [hdeny, hask]
      · rename_i hask
        simp [hdeny, hallow, hask]

lemma deny_insert_iff {key : String} {rule : PermissionRule R} (hdeny : rule.behavior = .deny) :
    (decision lib ruleset toolId toolArgs = .deny →
      decision lib ⟨ruleset.defaultBehavior, ruleset.rules.insert key rule⟩ toolId toolArgs =
        .deny) ↔ ¬Exposes lib ruleset key rule toolId toolArgs := by
  rw [decision_eq_deny_iff, decision_eq_deny_iff]
  constructor
  · rintro hkept ⟨⟨old, hold, hbehavior, hmatch⟩, hmisses, halone, hpermitted⟩
    rcases hkept (.inl ⟨key, old, hold, hbehavior, hmatch⟩) with hafter | ⟨hdefault, hnone⟩
    · rcases (matches_insert_iff).mp hafter with ⟨-, hrule⟩ | ⟨key', other, hne, hget, hother, hsome⟩
      · rw [hmisses] at hrule
        cases hrule
      · exact halone key' other hne hget hsome hother
    · rcases hpermitted with hne | ⟨key', other, hne, hget, hsome⟩
      · exact hne hdefault
      · exact hnone _ ((matches_insert_iff).mpr (.inr ⟨key', other, hne, hget, rfl, hsome⟩))
  · intro hsafe hbefore
    by_contra hafter
    rw [not_or] at hafter
    obtain ⟨hunmatched, hpermits⟩ := hafter
    have hmisses : rule.subject.matchesToolCall lib toolId toolArgs = none := by
      by_contra hsome
      exact hunmatched ((matches_insert_iff).mpr
        (.inl ⟨hdeny, Option.isSome_iff_ne_none.mpr hsome⟩))
    have halone : ∀ key' other, key' ≠ key → ruleset.rules.get key' = some other →
        (other.subject.matchesToolCall lib toolId toolArgs).isSome → other.behavior ≠ .deny :=
      fun key' other hne hget hsome hother =>
        hunmatched ((matches_insert_iff).mpr (.inr ⟨key', other, hne, hget, hother, hsome⟩))
    have hothers : ∀ behavior, Matches lib ⟨ruleset.defaultBehavior,
        ruleset.rules.insert key rule⟩ toolId toolArgs behavior →
          ∃ key' other, key' ≠ key ∧ ruleset.rules.get key' = some other ∧ other.behavior = behavior ∧
            (other.subject.matchesToolCall lib toolId toolArgs).isSome := by
      intro behavior h
      rcases (matches_insert_iff).mp h with ⟨-, hrule⟩ | hother
      · rw [hmisses] at hrule
        cases hrule
      · exact hother
    rcases hbefore with ⟨key', old, hget, hold, hmatch⟩ | ⟨hdefault, hnone⟩
    · by_cases hkey : key' = key
      · refine hsafe ⟨⟨old, hkey ▸ hget, hold, hmatch⟩, hmisses, halone, ?_⟩
        by_cases hdefault : ruleset.defaultBehavior = .deny
        · obtain ⟨behavior, h⟩ := not_forall.mp (fun h => hpermits ⟨hdefault, h⟩)
          obtain ⟨key'', other, hne, hget', -, hsome⟩ := hothers behavior (not_not.mp h)
          exact .inr ⟨key'', other, hne, hget', hsome⟩
        · exact .inl hdefault
      · exact halone key' old hkey hget hmatch hold
    · refine hpermits ⟨hdefault, fun behavior h => ?_⟩
      obtain ⟨key', other, -, hget, hother⟩ := hothers behavior h
      exact hnone behavior ⟨key', other, hget, hother⟩

/-- What a call is permitted to do, for every ruleset and every order of its rules; a rule that is
added to deny permits what was denied exactly when it replaces the rule that denied it. -/
theorem permission_evaluation (lib : MatchLib R N) (ruleset : PermissionRuleset R) (toolId : String)
    (toolArgs : Json N) :
    (evaluateToolPermission lib ruleset toolId toolArgs).behavior =
        decision lib ruleset toolId toolArgs ∧
      (∀ rules, ruleset.rules.Reorders rules →
        (evaluateToolPermission lib ⟨ruleset.defaultBehavior, rules⟩ toolId toolArgs).behavior =
            (evaluateToolPermission lib ruleset toolId toolArgs).behavior ∧
          (evaluateToolPermission lib ⟨ruleset.defaultBehavior, rules⟩ toolId
              toolArgs).matchedRule.map (·.behavior) =
            (evaluateToolPermission lib ruleset toolId toolArgs).matchedRule.map (·.behavior)) ∧
      ∀ key rule, rule.behavior = .deny →
        (((evaluateToolPermission lib ruleset toolId toolArgs).behavior = .deny →
          (evaluateToolPermission lib ⟨ruleset.defaultBehavior, ruleset.rules.insert key rule⟩ toolId
            toolArgs).behavior = .deny) ↔ ¬Exposes lib ruleset key rule toolId toolArgs) := by
  refine ⟨evaluate_eq_decision, fun rules h => ?_, fun key rule hdeny => ?_⟩
  · have hfound : (evaluateToolPermission lib ⟨ruleset.defaultBehavior, rules⟩ toolId
        toolArgs).matchedRule.map (·.behavior) =
        (evaluateToolPermission lib ruleset toolId toolArgs).matchedRule.map (·.behavior) :=
      foundBehavior_reorders h
    refine ⟨?_, hfound⟩
    change (Option.map _ _).getD _ = (Option.map _ _).getD _
    exact congrArg (·.getD ruleset.defaultBehavior) hfound
  · rw [evaluate_eq_decision, evaluate_eq_decision]
    exact deny_insert_iff hdeny

def sampleLib : MatchLib (List Char) Nat where
  regex := plainRegex
  isMatch re text := re = text
  globMatch pattern value := pattern = "**".toList || pattern = value
  numberText n := Nat.toDigits 10 n
  jsonText _ := []

def denied (subject : PermissionSubject (List Char)) : PermissionRule (List Char) :=
  ⟨subject, .deny, .thread, .runtime⟩

def sampleRules : PermissionRuleset (List Char) :=
  ⟨.ask, Table.empty.insert "tool:rm" (denied (.tool "rm"))⟩

theorem permission_evaluation_rm :
    (evaluateToolPermission sampleLib ⟨.ask, sampleRules.rules.insert "tool:ls"
      (denied (.tool "ls"))⟩ "rm" (.null : Json Nat)).behavior = .deny := by
  refine ((permission_evaluation sampleLib sampleRules "rm" .null).2.2 "tool:ls"
    (denied (.tool "ls")) rfl).mpr (fun hexposes => ?_) (by decide)
  exact hexposes.alone "tool:rm" _ (by decide) rfl (by decide) rfl

def quotedArgs : Json Nat := .object [(['a'], .string "x\", b = \"y".toList)]

theorem denial_replaced : ∃ p q : ToolCallPattern (List Char),
    parsePattern plainRegex "T(a = \"x\\\", b = \\\"y\")".toList = .ok p ∧
    parsePattern plainRegex "T(a = \"x\", b = \"y\")".toList = .ok q ∧
    (evaluateToolPermission sampleLib ⟨.allow, Table.empty.insert
      ((PermissionSubject.pattern p).key plainRegex) (denied (.pattern p))⟩ "T"
        quotedArgs).behavior = .deny ∧
    (evaluateToolPermission sampleLib ⟨.allow, (Table.empty.insert
      ((PermissionSubject.pattern p).key plainRegex) (denied (.pattern p))).insert
        ((PermissionSubject.pattern q).key plainRegex) (denied (.pattern q))⟩ "T"
          quotedArgs).behavior = .allow := by
  refine ⟨⟨.exact ['T'], .fields [⟨[.field ['a']], .exact, "x\", b = \"y".toList⟩]⟩,
    ⟨.exact ['T'], .fields [⟨[.field ['a']], .exact, ['x']⟩, ⟨[.field ['b']], .exact, ['y']⟩]⟩,
    ?_, ?_, ?_, ?_⟩
  · decide +kernel
  · decide +kernel
  · decide +kernel
  · decide +kernel

end Evaluation

section Hidden

variable {lib} {ruleset : PermissionRuleset R} {toolId : String}

def PermissionSubject.unconstrained : PermissionSubject R → Bool
  | .tool _ => true
  | .pattern p => p.args = .any

def PermissionRuleset.unconstrained (self : PermissionRuleset R) : PermissionRuleset R :=
  { self with rules := self.rules.filter (fun _ rule => rule.subject.unconstrained) }

lemma matchesToolCall_unconstrained {subject : PermissionSubject R}
    (h : subject.unconstrained = true) (toolArgs toolArgs' : Json N) :
    subject.matchesToolCall lib toolId toolArgs = subject.matchesToolCall lib toolId toolArgs' := by
  cases subject with
  | tool id => rfl
  | pattern p =>
    obtain ⟨tool, args⟩ := p
    obtain rfl : args = .any := of_decide_eq_true h
    rfl

lemma matchesTool_eq (subject : PermissionSubject R) :
    subject.matchesTool lib toolId = (subject.matchesToolCall lib toolId (.null : Json N)).isSome := by
  cases subject with
  | tool id =>
    change decide (id = toolId) = (if id = toolId then some _ else none : Option Specificity).isSome
    by_cases hid : id = toolId <;> simp [hid]
  | pattern p => rfl

def DeniedByRule (lib : MatchLib R N) (ruleset : PermissionRuleset R) (toolId : String) : Prop :=
  ∃ key rule, ruleset.rules.get key = some rule ∧ rule.behavior = .deny ∧
    rule.subject.unconstrained = true ∧ rule.subject.matchesTool lib toolId = true

lemma expands_or_deniedTool {subject : PermissionSubject R} :
    subject.unconstrained = true ↔ subject.expands = true ∨ ∃ id, subject.deniedTool = some id := by
  rcases subject with id | ⟨_ | _ | _, _ | _ | _⟩ <;>
    simp [PermissionSubject.unconstrained, PermissionSubject.expands, PermissionSubject.deniedTool]

lemma matchesTool_of_deniedTool {subject : PermissionSubject R} {id : String}
    (h : subject.deniedTool = some id) : subject.matchesTool lib toolId = true ↔ id = toolId := by
  rcases subject with id' | ⟨_ | _ | _, _ | _ | _⟩
  · obtain rfl := Option.some.inj h
    simp [PermissionSubject.matchesTool]
  · obtain rfl := Option.some.inj h
    rename_i name
    have hname : name = toolId.toList ↔ String.ofList name = toolId := by
      rw [← String.ofList_inj, String.ofList_toList]
    by_cases hid : String.ofList name = toolId <;>
      simp [PermissionSubject.matchesTool, patternMatches, matchTool, matchArgs, hname, hid]
  all_goals cases h

lemma deniedByRule_of_mem {toolIds : List String}
    (h : toolId ∈ ruleset.unconditionallyDeniedAgainst lib toolIds) :
    DeniedByRule lib ruleset toolId := by
  rcases List.mem_append.mp h with hexact | hpattern
  · obtain ⟨rule, hrule, hid⟩ := List.mem_filterMap.mp hexact
    obtain ⟨hvalue, hdeny⟩ := List.mem_filter.mp hrule
    obtain ⟨key, hget⟩ := Table.mem_values.mp hvalue
    exact ⟨key, rule, hget, of_decide_eq_true hdeny, (expands_or_deniedTool).mpr (.inr ⟨toolId, hid⟩),
      (matchesTool_of_deniedTool hid).mpr rfl⟩
  · obtain ⟨rule, hvalue, hid⟩ := List.mem_flatMap.mp hpattern
    obtain ⟨key, hget⟩ := Table.mem_values.mp hvalue
    split at hid
    · rename_i hrule
      obtain ⟨hdeny, hexpands⟩ := Bool.and_eq_true_iff.mp hrule
      exact ⟨key, rule, hget, of_decide_eq_true hdeny, (expands_or_deniedTool).mpr (.inl hexpands),
        (List.mem_filter.mp hid).2⟩
    · cases hid

lemma mem_of_deniedByRule {toolIds : List String} (hmem : toolId ∈ toolIds)
    (h : DeniedByRule lib ruleset toolId) :
    toolId ∈ ruleset.unconditionallyDeniedAgainst lib toolIds := by
  obtain ⟨key, rule, hget, hdeny, hany, hmatch⟩ := h
  have hvalue := Table.mem_values.mpr ⟨key, hget⟩
  rw [PermissionRuleset.unconditionallyDeniedAgainst, List.mem_append]
  rcases (expands_or_deniedTool).mp hany with hexpands | ⟨id, hid⟩
  · refine .inr (List.mem_flatMap.mpr ⟨rule, hvalue, ?_⟩)
    rw [if_pos (by rw [hdeny, hexpands]; rfl)]
    exact List.mem_filter.mpr ⟨hmem, hmatch⟩
  · obtain rfl := (matchesTool_of_deniedTool hid).mp hmatch
    exact .inl (List.mem_filterMap.mpr
      ⟨rule, List.mem_filter.mpr ⟨hvalue, decide_eq_true hdeny⟩, hid⟩)

lemma DeniedByRule.matches (h : DeniedByRule lib ruleset toolId) (toolArgs : Json N) :
    Matches lib ruleset.unconstrained toolId toolArgs .deny ∧
      Matches lib ruleset toolId toolArgs .deny := by
  obtain ⟨key, rule, hget, hdeny, hany, hmatch⟩ := h
  rw [matchesTool_eq, matchesToolCall_unconstrained hany .null toolArgs] at hmatch
  refine ⟨⟨key, rule, ?_, hdeny, hmatch⟩, key, rule, hget, hdeny, hmatch⟩
  change (ruleset.rules.filter _).get key = _
  rw [Table.get_filter, hget]
  exact Option.filter_some_pos hany

lemma evaluate_of_matches_deny {toolArgs : Json N} (h : Matches lib ruleset toolId toolArgs .deny) :
    (evaluateToolPermission lib ruleset toolId toolArgs).behavior = .deny := by
  rw [evaluate_eq_decision, decision, if_pos h]

lemma matches_deny_of_evaluate {toolArgs : Json N}
    (hdeny : (evaluateToolPermission lib ruleset toolId toolArgs).behavior = .deny)
    (hrule : (evaluateToolPermission lib ruleset toolId toolArgs).matchedRule.isSome) :
    Matches lib ruleset toolId toolArgs .deny := by
  cases hmax : maxBy matchRank (ruleset.matchesOf lib toolId toolArgs) with
  | none =>
    rw [evaluateToolPermission, PermissionRuleset.ruleForToolCall, hmax] at hrule
    cases hrule
  | some found =>
    obtain ⟨hbehavior, hmatch, -⟩ := behavior_of_maxBy hmax
    rwa [← hbehavior, hdeny] at hmatch

/-- An available tool is hidden exactly when a rule without arguments denies it whatever its
arguments are, and a hidden tool is never permitted. -/
theorem hidden_iff_denied (lib : MatchLib R N) (ruleset : PermissionRuleset R)
    (toolIds : List String) :
    (∀ toolId ∈ toolIds, toolId ∈ ruleset.unconditionallyDeniedAgainst lib toolIds ↔
      ∀ toolArgs : Json N,
        (evaluateToolPermission lib ruleset.unconstrained toolId toolArgs).behavior = .deny ∧
        (evaluateToolPermission lib ruleset.unconstrained toolId toolArgs).matchedRule.isSome) ∧
    ∀ toolId ∈ ruleset.unconditionallyDeniedAgainst lib toolIds, ∀ toolArgs : Json N,
      (evaluateToolPermission lib ruleset toolId toolArgs).behavior = .deny := by
  refine ⟨fun toolId hmem => ⟨fun h toolArgs => ?_, fun h => ?_⟩, fun toolId h toolArgs =>
    evaluate_of_matches_deny ((deniedByRule_of_mem h).matches toolArgs).2⟩
  · have hmatch := ((deniedByRule_of_mem h).matches toolArgs).1
    refine ⟨evaluate_of_matches_deny hmatch, ?_⟩
    cases hmax : maxBy matchRank (ruleset.unconstrained.matchesOf lib toolId toolArgs) with
    | none => exact absurd hmatch ((behavior_of_none hmax).2 _)
    | some found =>
      rw [evaluateToolPermission, PermissionRuleset.ruleForToolCall, hmax]
      rfl
  · obtain ⟨hdeny, hrule⟩ := h .null
    obtain ⟨key, rule, hget, hbehavior, hmatch⟩ := matches_deny_of_evaluate hdeny hrule
    change (ruleset.rules.filter _).get key = _ at hget
    rw [Table.get_filter] at hget
    obtain ⟨hget, hany⟩ := Option.filter_eq_some_iff.mp hget
    exact mem_of_deniedByRule hmem ⟨key, rule, hget, hbehavior, hany, by rw [matchesTool_eq]; exact hmatch⟩

theorem default_deny_shown :
    ¬ ∀ (ruleset : PermissionRuleset (List Char)) (toolIds : List String), ∀ toolId ∈ toolIds,
      toolId ∈ ruleset.unconditionallyDeniedAgainst sampleLib toolIds ↔
        ∀ toolArgs : Json Nat,
          (evaluateToolPermission sampleLib ruleset.unconstrained toolId toolArgs).behavior = .deny := by
  intro h
  have hshown := (h ⟨.deny, Table.empty⟩ ["rm"] "rm" List.mem_cons_self).mpr (fun _ => rfl)
  cases hshown

end Hidden

end Awaken.Permission
