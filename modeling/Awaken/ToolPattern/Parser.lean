import Awaken.Lib.Outcome
import Awaken.Lib.Text
import Awaken.ToolPattern.Types

namespace Awaken.ToolPattern

open Awaken.Lib Awaken.Lib.Text

structure PatternParseError where
  message : String
  position : Nat
deriving DecidableEq

structure Cursor where
  pos : Nat
  rest : List Char
deriving DecidableEq

def isAsciiWhitespace (c : Char) : Bool :=
  c = ' ' || c = '\t' || c = '\n' || c = '\x0c' || c = '\r'

def isIdentifierChar (c : Char) : Bool := c.isAlphanum || c = '_' || c = '-'

namespace Cursor

def new (input : List Char) : Cursor := ⟨0, input⟩

def peek (self : Cursor) : Option Char := self.rest.head?

def isEmpty (self : Cursor) : Bool := self.rest.isEmpty

def advance (self : Cursor) (n : Nat) : Cursor :=
  ⟨(self.rest.take n).foldl (fun pos c => pos + c.utf8Size) self.pos, self.rest.drop n⟩

def takeWhile (self : Cursor) (p : Char → Bool) : List Char × Cursor :=
  (self.rest.takeWhile p, self.advance (self.rest.takeWhile p).length)

def skipWhitespace (self : Cursor) : Cursor := (self.takeWhile isAsciiWhitespace).2

def error (self : Cursor) (message : String) : PatternParseError := ⟨message, self.pos⟩

def expect (self : Cursor) (ch : Char) : Except PatternParseError Cursor :=
  let cursor := self.skipWhitespace
  match cursor.peek with
  | some c =>
    if c = ch then .ok (cursor.advance 1)
    else .error (cursor.error s!"expected '{ch}', found '{c}'")
  | none => .error (cursor.error s!"expected '{ch}', found end of input")

end Cursor

def trim (s : List Char) : List Char :=
  ((s.dropWhile isWhiteSpace).reverse.dropWhile isWhiteSpace).reverse

def hasGlobChars (s : List Char) : Bool := s.contains '*' || s.contains '?' || s.contains '['

def deeper (depth : Nat) : Nat := (depth + 1) % 4294967296

/-- The body of a regex, up to a slash outside parentheses. Behind a backslash one byte is skipped,
so that a wider character there is cut in two and the next look at the text panics. -/
def scanRegex (depth : Nat) : List Char → Option (List Char × List Char)
  | [] => some ([], [])
  | c :: rest =>
    if c = '\\' then
      match rest with
      | [] => some ([c], [])
      | d :: rest =>
        if d.utf8Size = 1 then (scanRegex depth rest).map (Prod.map ([c, d] ++ ·) id) else none
    else if c = '(' then (scanRegex (deeper depth) rest).map (Prod.map (c :: ·) id)
    else if c = ')' then (scanRegex (depth - 1) rest).map (Prod.map (c :: ·) id)
    else if c = '/' ∧ depth = 0 then some ([], c :: rest)
    else (scanRegex depth rest).map (Prod.map (c :: ·) id)

section Tool

variable {R : Type} (lib : RegexLib R)

def parseRegexTool (cursor : Cursor) : Outcome PatternParseError (ToolMatcher R × Cursor) :=
  match scanRegex 0 cursor.rest with
  | none => .panic
  | some (body, _) =>
    let cursor := cursor.advance body.length
    if body.isEmpty then .err (cursor.error "empty regex pattern")
    else
      match cursor.expect '/' with
      | .error e => .err e
      | .ok cursor =>
        match lib.new body with
        | .error e => .err (cursor.error s!"invalid regex: {e}")
        | .ok re => .ok (.regex re, cursor)

def parseNamedTool (cursor : Cursor) : Outcome PatternParseError (ToolMatcher R × Cursor) :=
  match cursor.takeWhile (fun c => !(c = '(' || isAsciiWhitespace c)) with
  | (name, cursor) =>
    if name.isEmpty then .err (cursor.error "empty tool name")
    else if hasGlobChars name then .ok (.glob name, cursor)
    else .ok (.exact name, cursor)

def parseToolPart (cursor : Cursor) : Outcome PatternParseError (ToolMatcher R × Cursor) :=
  let cursor := cursor.skipWhitespace
  if cursor.peek = some '/' then parseRegexTool lib (cursor.advance 1) else parseNamedTool cursor

end Tool

def parseIdentifier (cursor : Cursor) : Except PatternParseError (List Char × Cursor) :=
  match cursor.takeWhile isIdentifierChar with
  | (ident, cursor) =>
    if ident.isEmpty then .error (cursor.error "expected identifier") else .ok (ident, cursor)

def usizeMax : Nat := 18446744073709551615

def parseUsize (cursor : Cursor) : Except PatternParseError (Nat × Cursor) :=
  match cursor.takeWhile Char.isDigit with
  | (digits, cursor) =>
    if digits.isEmpty ∨ usizeMax < Nat.ofDigitChars 10 digits 0 then
      .error (cursor.error s!"invalid index: '{String.ofList digits}'")
    else .ok (Nat.ofDigitChars 10 digits 0, cursor)

def parseIndex (cursor : Cursor) : Except PatternParseError (PathSegment × Cursor) := do
  let cursor := cursor.skipWhitespace
  if cursor.peek = some '*' then
    let cursor ← (cursor.advance 1).expect ']'
    return (.anyIndex, cursor)
  else
    let (i, cursor) ← parseUsize cursor
    let cursor ← cursor.expect ']'
    return (.index i, cursor)

/-- The indices that stand at the cursor. Each takes at least one character, so fuel for every
character left is enough. -/
def parseIndices : Nat → Cursor → Except PatternParseError (List PathSegment × Cursor)
  | 0, cursor => .ok ([], cursor)
  | fuel + 1, cursor => do
    if cursor.peek = some '[' then
      let (segment, cursor) ← parseIndex (cursor.advance 1)
      let (segments, cursor) ← parseIndices fuel cursor
      return (segment :: segments, cursor)
    else return ([], cursor)

def parseName (cursor : Cursor) : Except PatternParseError (PathSegment × Cursor) := do
  let cursor := cursor.skipWhitespace
  if cursor.peek = some '*' then return (.wildcard, cursor.advance 1)
  else
    let (ident, cursor) ← parseIdentifier cursor
    return (.field ident, cursor)

def parseFieldPathLoop : Nat → Cursor → Except PatternParseError (List PathSegment × Cursor)
  | 0, cursor => .ok ([], cursor)
  | fuel + 1, cursor => do
    let (segment, cursor) ← parseName cursor
    let (indices, cursor) ← parseIndices cursor.rest.length cursor
    if cursor.peek = some '.' then
      let (segments, cursor) ← parseFieldPathLoop fuel (cursor.advance 1)
      return (segment :: indices ++ segments, cursor)
    else return (segment :: indices, cursor)

def parseFieldPath (cursor : Cursor) : Except PatternParseError (List PathSegment × Cursor) :=
  parseFieldPathLoop (cursor.rest.length + 1) cursor

def parseMatchOp (cursor : Cursor) : Except PatternParseError (MatchOp × Cursor) :=
  match cursor.rest with
  | '!' :: '=' :: '~' :: _ => .ok (.notRegex, cursor.advance 3)
  | '!' :: '=' :: _ => .ok (.notExact, cursor.advance 2)
  | '!' :: '~' :: _ => .ok (.notGlob, cursor.advance 2)
  | '=' :: '~' :: _ => .ok (.regex, cursor.advance 2)
  | '~' :: _ => .ok (.glob, cursor.advance 1)
  | '=' :: _ => .ok (.exact, cursor.advance 1)
  | _ => .error (cursor.error "expected operator: ~, =, =~, !~, !=, or !=~")

inductive Unterminated where
  | literal
  | escape

def Unterminated.message : Unterminated → String
  | .literal => "unterminated string literal"
  | .escape => "unterminated escape sequence"

def scanQuoted : List Char → Except Unterminated (List Char × Nat)
  | [] => .error .literal
  | c :: rest =>
    if c = '"' then .ok ([], 1)
    else if c = '\\' then
      match rest with
      | [] => .error .escape
      | d :: rest =>
        if d = '"' ∨ d = '\\' then (scanQuoted rest).map (Prod.map (d :: ·) (· + 2))
        else (scanQuoted rest).map (Prod.map ([c, d] ++ ·) (· + 2))
    else (scanQuoted rest).map (Prod.map (c :: ·) (· + 1))

def parseQuotedValue (cursor : Cursor) : Except PatternParseError (List Char × Cursor) :=
  let cursor := cursor.skipWhitespace
  if cursor.peek ≠ some '"' then .error (cursor.error "expected '\"' to start value")
  else
    let cursor := cursor.advance 1
    match scanQuoted cursor.rest with
    | .error e => .error ((cursor.advance cursor.rest.length).error e.message)
    | .ok (value, n) => .ok (value, cursor.advance n)

def parseSingleFieldCondition (cursor : Cursor) :
    Except PatternParseError (FieldCondition × Cursor) := do
  let (path, cursor) ← parseFieldPath cursor.skipWhitespace
  let (op, cursor) ← parseMatchOp cursor.skipWhitespace
  let (value, cursor) ← parseQuotedValue cursor.skipWhitespace
  return (⟨path, op, value⟩, cursor)

def parseFieldConditionsLoop :
    Nat → Cursor → Except PatternParseError (List FieldCondition × Cursor)
  | 0, cursor => .ok ([], cursor)
  | fuel + 1, cursor => do
    let (condition, cursor) ← parseSingleFieldCondition cursor.skipWhitespace
    let cursor := cursor.skipWhitespace
    if cursor.peek = some ',' then
      let (conditions, cursor) ← parseFieldConditionsLoop fuel (cursor.advance 1)
      return (condition :: conditions, cursor)
    else return ([condition], cursor)

def parseFieldConditions (cursor : Cursor) : Except PatternParseError (ArgMatcher × Cursor) := do
  let (conditions, cursor) ← parseFieldConditionsLoop (cursor.rest.length + 1) cursor
  return (.fields conditions, cursor)

def scanPrimary (depth : Nat) : List Char → List Char
  | [] => []
  | c :: rest =>
    if c = '(' then c :: scanPrimary (deeper depth) rest
    else if c = ')' then if depth > 0 then c :: scanPrimary (depth - 1) rest else []
    else c :: scanPrimary depth rest

def parsePrimaryValue (cursor : Cursor) : Except PatternParseError (ArgMatcher × Cursor) :=
  let cursor := cursor.skipWhitespace
  let body := scanPrimary 0 cursor.rest
  let cursor := cursor.advance body.length
  if (trim body).isEmpty then .error (cursor.error "empty primary pattern")
  else .ok (.primary .glob (trim body), cursor)

def skipPath (bracket : Bool) : List Char → List Char
  | [] => []
  | c :: rest =>
    if bracket then skipPath (c ≠ ']') rest
    else if c.isAlphanum ∨ c = '_' ∨ c = '.' then skipPath false rest
    else if c = '[' then skipPath true rest
    else if c = '*' then
      if rest.head? = some '.' ∨ rest.head? = some '[' then skipPath false rest else rest
    else c :: rest

def startsWithOp (s : List Char) : Bool :=
  ['~'].isPrefixOf s || ['='].isPrefixOf s || ['!', '~'].isPrefixOf s || ['!', '='].isPrefixOf s

def looksLikeFieldConditions (s : List Char) : Bool :=
  startsWithOp ((skipPath false (trim s)).dropWhile isAsciiWhitespace)

def standsAlone : List Char → Bool
  | [] => true
  | c :: _ => c = ')' || isAsciiWhitespace c || c.utf8Size ≠ 1

def parseArgPart (cursor : Cursor) : Except PatternParseError (ArgMatcher × Cursor) :=
  let cursor := cursor.skipWhitespace
  if cursor.peek = some '*' ∧ standsAlone cursor.rest.tail then
    .ok (.any, (cursor.advance 1).skipWhitespace)
  else if looksLikeFieldConditions cursor.rest then parseFieldConditions cursor
  else parsePrimaryValue cursor

def parseArgs (cursor : Cursor) : Except PatternParseError (ArgMatcher × Cursor) := do
  if cursor.peek = some '(' then
    let (args, cursor) ← parseArgPart (cursor.advance 1)
    let cursor ← cursor.expect ')'
    return (args, cursor)
  else return (.any, cursor)

def parsePattern {R : Type} (lib : RegexLib R) (input : List Char) :
    Outcome PatternParseError (ToolCallPattern R) :=
  match parseToolPart lib (.new (trim input)) with
  | .panic => .panic
  | .err e => .err e
  | .ok (tool, cursor) =>
    match parseArgs cursor.skipWhitespace with
    | .error e => .err e
    | .ok (args, cursor) =>
      let cursor := cursor.skipWhitespace
      if cursor.isEmpty then .ok ⟨tool, args⟩
      else .err (cursor.error s!"unexpected trailing: '{String.ofList cursor.rest}'")

end Awaken.ToolPattern
