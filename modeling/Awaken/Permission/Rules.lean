import Awaken.ToolPattern.RoundTrip

namespace Awaken.Permission

open Awaken.Lib Awaken.ToolPattern

inductive ToolPermissionBehavior where
  | allow
  | ask
  | deny
deriving DecidableEq

inductive PermissionRuleScope where
  | once
  | session
  | thread
  | project
  | user
deriving DecidableEq

inductive PermissionRuleSource where
  | system
  | definition
  | skill
  | session
  | user
  | cli
  | runtime
deriving DecidableEq

instance : Inhabited PermissionRuleScope := ⟨.thread⟩

instance : Inhabited PermissionRuleSource := ⟨.runtime⟩

inductive PermissionSubject (R : Type) where
  | tool (toolId : String)
  | pattern (pattern : ToolCallPattern R)
deriving DecidableEq

structure PermissionRule (R : Type) where
  subject : PermissionSubject R
  behavior : ToolPermissionBehavior
  scope : PermissionRuleScope
  source : PermissionRuleSource
deriving DecidableEq

section Key

variable {R : Type} (lib : RegexLib R)

def patternText (pattern : ToolCallPattern R) : String := String.ofList (pattern.display lib)

def PermissionSubject.key : PermissionSubject R → String
  | .tool toolId => "tool:" ++ toolId
  | .pattern p => "pattern:" ++ patternText lib p

end Key

inductive Value where
  | string (text : String)
  | object (fields : List (String × Value))

inductive DecodeError where
  | missingField (name : String)
  | invalidType
  | unknownVariant (name : String)
  | pattern (error : PatternParseError)
deriving DecidableEq

def ToolPermissionBehavior.name : ToolPermissionBehavior → String
  | .allow => "allow"
  | .ask => "ask"
  | .deny => "deny"

def PermissionRuleScope.name : PermissionRuleScope → String
  | .once => "once"
  | .session => "session"
  | .thread => "thread"
  | .project => "project"
  | .user => "user"

def PermissionRuleSource.name : PermissionRuleSource → String
  | .system => "system"
  | .definition => "definition"
  | .skill => "skill"
  | .session => "session"
  | .user => "user"
  | .cli => "cli"
  | .runtime => "runtime"

def behaviors : List ToolPermissionBehavior := [.allow, .ask, .deny]

def scopes : List PermissionRuleScope := [.once, .session, .thread, .project, .user]

def sources : List PermissionRuleSource :=
  [.system, .definition, .skill, .session, .user, .cli, .runtime]

def field (fields : List (String × Value)) (name : String) : Option Value :=
  (fields.find? (fun entry => entry.1 = name)).map Prod.snd

def decodeString : Option Value → String → Except DecodeError String
  | some (.string text), _ => .ok text
  | some (.object _), _ => .error .invalidType
  | none, name => .error (.missingField name)

def decodeVariant {α : Type} (variants : List α) (nameOf : α → String) (text : String) :
    Except DecodeError α :=
  match variants.find? (fun variant => nameOf variant = text) with
  | some variant => .ok variant
  | none => .error (.unknownVariant text)

def requiredVariant {α : Type} (variants : List α) (nameOf : α → String)
    (fields : List (String × Value)) (name : String) : Except DecodeError α := do
  decodeVariant variants nameOf (← decodeString (field fields name) name)

def defaultVariant {α : Type} [Inhabited α] (variants : List α) (nameOf : α → String)
    (fields : List (String × Value)) (name : String) : Except DecodeError α :=
  match field fields name with
  | none => .ok default
  | some value => do decodeVariant variants nameOf (← decodeString (some value) name)

section Stored

variable {R : Type} (lib : RegexLib R)

def PermissionSubject.encode : PermissionSubject R → Value
  | .tool toolId => .object [("kind", .string "tool"), ("tool_id", .string toolId)]
  | .pattern p => .object [("kind", .string "pattern"), ("pattern", .string (patternText lib p))]

def PermissionRule.encode (rule : PermissionRule R) : Value :=
  .object [("subject", rule.subject.encode lib), ("behavior", .string rule.behavior.name),
    ("scope", .string rule.scope.name), ("source", .string rule.source.name)]

def decodePattern (text : String) : Outcome DecodeError (ToolCallPattern R) :=
  match parsePattern lib text.toList with
  | .ok pattern => .ok pattern
  | .err e => .err (.pattern e)
  | .panic => .panic

def PermissionSubject.decode : Option Value → Outcome DecodeError (PermissionSubject R)
  | none => .err (.missingField "subject")
  | some (.string _) => .err .invalidType
  | some (.object fields) =>
    match decodeString (field fields "kind") "kind" with
    | .error e => .err e
    | .ok "tool" => (Outcome.ofExcept (decodeString (field fields "tool_id") "tool_id")).map .tool
    | .ok "pattern" =>
      match decodeString (field fields "pattern") "pattern" with
      | .error e => .err e
      | .ok text => (decodePattern lib text).map .pattern
    | .ok kind => .err (.unknownVariant kind)

def PermissionRule.decode : Value → Outcome DecodeError (PermissionRule R)
  | .string _ => .err .invalidType
  | .object fields =>
    match PermissionSubject.decode lib (field fields "subject") with
    | .panic => .panic
    | .err e => .err e
    | .ok subject => Outcome.ofExcept do
      let behavior ← requiredVariant behaviors ToolPermissionBehavior.name fields "behavior"
      let scope ← defaultVariant scopes PermissionRuleScope.name fields "scope"
      let source ← defaultVariant sources PermissionRuleSource.name fields "source"
      return ⟨subject, behavior, scope, source⟩

end Stored

section RoundTrip

variable {R : Type} {lib : RegexLib R}

lemma decode_behavior (behavior : ToolPermissionBehavior) :
    decodeVariant behaviors ToolPermissionBehavior.name behavior.name = .ok behavior := by
  cases behavior <;> decide

lemma decode_scope (scope : PermissionRuleScope) :
    decodeVariant scopes PermissionRuleScope.name scope.name = .ok scope := by
  cases scope <;> decide

lemma decode_source (source : PermissionRuleSource) :
    decodeVariant sources PermissionRuleSource.name source.name = .ok source := by
  cases source <;> decide

lemma decode_encode (rule : PermissionRule R) :
    PermissionRule.decode lib (rule.encode lib) =
      (PermissionSubject.decode lib (some (rule.subject.encode lib))).map
        (fun subject => ⟨subject, rule.behavior, rule.scope, rule.source⟩) := by
  have hsubject : PermissionRule.decode lib (rule.encode lib) =
      match PermissionSubject.decode lib (some (rule.subject.encode lib)) with
      | .panic => .panic
      | .err e => .err e
      | .ok subject => Outcome.ofExcept do
        let behavior ← decodeVariant behaviors ToolPermissionBehavior.name rule.behavior.name
        let scope ← decodeVariant scopes PermissionRuleScope.name rule.scope.name
        let source ← decodeVariant sources PermissionRuleSource.name rule.source.name
        return ⟨subject, behavior, scope, source⟩ := rfl
  rw [hsubject, decode_behavior, decode_scope, decode_source]
  cases PermissionSubject.decode lib (some (rule.subject.encode lib)) <;> rfl

lemma decode_pattern (p : ToolCallPattern R) :
    PermissionSubject.decode lib (some ((PermissionSubject.pattern p).encode lib)) =
      (decodePattern lib (patternText lib p)).map .pattern := rfl

lemma decodePattern_ok {text : String} {p : ToolCallPattern R} :
    decodePattern lib text = .ok p ↔ parsePattern lib text.toList = .ok p := by
  unfold decodePattern
  cases parsePattern lib text.toList with
  | ok q => exact ⟨fun h => congrArg _ (Outcome.ok.inj h), fun h => congrArg _ (Outcome.ok.inj h)⟩
  | err e => constructor <;> intro h <;> cases h
  | panic => constructor <;> intro h <;> cases h

lemma map_ok_iff {ε α β : Type} {f : α → β} (hf : Function.Injective f) {x : Outcome ε α} {a : α} :
    x.map f = .ok (f a) ↔ x = .ok a := by
  cases x with
  | ok b =>
    exact ⟨fun h => congrArg _ (hf (Outcome.ok.inj h)),
      fun h => congrArg _ (congrArg f (Outcome.ok.inj h))⟩
  | err e => constructor <;> intro h <;> cases h
  | panic => constructor <;> intro h <;> cases h

lemma decode_pattern_rule (p : ToolCallPattern R) (behavior : ToolPermissionBehavior)
    (scope : PermissionRuleScope) (source : PermissionRuleSource) :
    PermissionRule.decode lib (PermissionRule.encode lib ⟨.pattern p, behavior, scope, source⟩) =
      .ok ⟨.pattern p, behavior, scope, source⟩ ↔ parsePattern lib (p.display lib) = .ok p := by
  have hpattern : Function.Injective (PermissionSubject.pattern (R := R)) := fun _ _ h =>
    PermissionSubject.pattern.inj h
  have hrule : Function.Injective
      (fun subject : PermissionSubject R => PermissionRule.mk subject behavior scope source) :=
    fun _ _ h => congrArg PermissionRule.subject h
  rw [decode_encode, map_ok_iff hrule, decode_pattern, map_ok_iff hpattern, decodePattern_ok,
    patternText, String.toList_ofList]

lemma display_of_key {p q : ToolCallPattern R}
    (h : (PermissionSubject.pattern p).key lib = (PermissionSubject.pattern q).key lib) :
    p.display lib = q.display lib := by
  have htext : patternText lib p = patternText lib q := by
    simpa [PermissionSubject.key] using h
  exact String.ofList_injective htext

/-- Patterns that were read from a text, stored as rules, come back, and are told apart by their
keys, exactly as far as they read back. -/
theorem parsed_pattern_round_trip (lib : RegexLib R) (input : List Char) (p : ToolCallPattern R)
    (h : parsePattern lib input = .ok p) :
    (parsePattern lib (p.display lib) = .ok p ↔ p.readsBack = true) ∧
    (∀ behavior scope source,
      PermissionRule.decode lib (PermissionRule.encode lib ⟨.pattern p, behavior, scope, source⟩) =
        .ok ⟨.pattern p, behavior, scope, source⟩ ↔ p.readsBack = true) ∧
    (∀ input' q, parsePattern lib input' = .ok q → p.readsBack = true →
      (PermissionSubject.pattern p).key lib = (PermissionSubject.pattern q).key lib →
        (p = q ↔ q.readsBack = true)) := by
  have hparse := parsePattern_display (parsePattern_shaped h).1
  refine ⟨hparse, fun behavior scope source => ?_, fun input' q hq hp hkey => ?_⟩
  · rw [decode_pattern_rule, hparse]
  · refine ⟨fun hpq => hpq ▸ hp, fun hback => ?_⟩
    have hq' := (parsePattern_display (parsePattern_shaped hq).1).mpr hback
    rw [← display_of_key hkey, hparse.mpr hp] at hq'
    exact Outcome.ok.inj hq'

def plainRegex : RegexLib (List Char) where
  new := .ok
  asStr := id
  asStr_new _ _ h := (Except.ok.inj h).symm

theorem parsed_pattern_round_trip_bash :
    ∃ p : ToolCallPattern (List Char),
      parsePattern plainRegex "Bash(npm *)".toList = .ok p ∧
      parsePattern plainRegex (p.display plainRegex) = .ok p := by
  have hparse : parsePattern plainRegex "Bash(npm *)".toList =
      .ok ⟨.exact "Bash".toList, .primary .glob "npm *".toList⟩ := by decide +kernel
  exact ⟨_, hparse, (parsed_pattern_round_trip plainRegex _ _ hparse).1.mpr (by decide +kernel)⟩

theorem quoted_quote_lost :
    (∃ p : ToolCallPattern (List Char),
      parsePattern plainRegex "T(a = \"x\\\"y\")".toList = .ok p ∧
      parsePattern plainRegex (p.display plainRegex) ≠ .ok p) ∧
    ∃ p q : ToolCallPattern (List Char),
      parsePattern plainRegex "T(a = \"x\", b = \"y\")".toList = .ok p ∧
      parsePattern plainRegex "T(a = \"x\\\", b = \\\"y\")".toList = .ok q ∧ p ≠ q ∧
      (PermissionSubject.pattern p).key plainRegex = (PermissionSubject.pattern q).key plainRegex := by
  refine ⟨⟨⟨.exact ['T'], .fields [⟨[.field ['a']], .exact, ['x', '"', 'y']⟩]⟩, ?_, ?_⟩,
    ⟨.exact ['T'], .fields [⟨[.field ['a']], .exact, ['x']⟩, ⟨[.field ['b']], .exact, ['y']⟩]⟩,
    ⟨.exact ['T'], .fields [⟨[.field ['a']], .exact, "x\", b = \"y".toList⟩]⟩, ?_, ?_, ?_, ?_⟩
  · decide +kernel
  · decide +kernel
  · decide +kernel
  · decide +kernel
  · decide +kernel
  · decide +kernel

end RoundTrip

end Awaken.Permission
