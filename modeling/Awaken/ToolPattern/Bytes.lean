import Awaken.Lib.CharBoundary
import Awaken.ToolPattern.Parser

namespace Awaken.ToolPattern.Bytes

open Awaken.Lib Awaken.Lib.Text

structure Cursor where
  input : List Char
  pos : Nat
  touched : List Nat

def Cursor.new (input : List Char) : Cursor := ⟨input, 0, []⟩

inductive Fault where
  | error (e : PatternParseError)
  | panic
deriving DecidableEq

abbrev Parser := ExceptT Fault (StateM Cursor)

def touch (offset : Nat) : Parser Unit :=
  modify fun cursor => { cursor with touched := offset :: cursor.touched }

def getPos : Parser Nat := do return (← get).pos

/-- More rounds than a loop over the text can take. A loop that outlasts them counts as a panic. -/
def rounds : Parser Nat := do return (← get).input.length + 1

def remaining : Parser (List Char) := do
  let cursor ← get
  touch cursor.pos
  match sliceFrom cursor.input cursor.pos with
  | some rest => return rest
  | none => throw .panic

def sliceSince (start : Nat) : Parser (List Char) := do
  let cursor ← get
  touch start
  touch cursor.pos
  match slice cursor.input start cursor.pos with
  | some text => return text
  | none => throw .panic

def isEmpty : Parser Bool := do
  let cursor ← get
  return decide (utf8Len cursor.input ≤ cursor.pos)

def peek : Parser (Option Char) := do return (← remaining).head?

def advance (n : Nat) : Parser Unit :=
  modify fun cursor =>
    { cursor with pos := cursor.pos + n, touched := (cursor.pos + n) :: cursor.touched }

def fail {α : Type} (message : String) : Parser α := do
  throw (.error ⟨message, ← getPos⟩)

def advanceWhile (p : Char → Bool) (width : Char → Nat) : Nat → Parser Unit
  | 0 => throw .panic
  | fuel + 1 => do
    match ← peek with
    | some c =>
      if p c = true then
        advance (width c)
        advanceWhile p width fuel
      else return ()
    | none => return ()

def skipWhitespace : Parser Unit := do
  advanceWhile isAsciiWhitespace Char.utf8Size (← rounds)

def expect (ch : Char) : Parser Unit := do
  skipWhitespace
  match ← peek with
  | some c =>
    if c = ch then advance c.utf8Size else fail s!"expected '{ch}', found '{c}'"
  | none => fail s!"expected '{ch}', found end of input"

section Tool

variable {R : Type} (lib : RegexLib R)

def skipEscaped : Parser Unit := do
  match ← peek with
  | some _ => advance 1
  | none => return ()

def regexBody : Nat → Nat → Parser Unit
  | 0, _ => throw .panic
  | fuel + 1, depth => do
    match ← peek with
    | none => return ()
    | some c =>
      if c = '\\' then
        advance 1
        skipEscaped
        regexBody fuel depth
      else if c = '(' then
        advance 1
        regexBody fuel (deeper depth)
      else if c = ')' then
        advance 1
        regexBody fuel (depth - 1)
      else if c = '/' ∧ depth = 0 then return ()
      else
        advance c.utf8Size
        regexBody fuel depth

def parseRegexTool : Parser (ToolMatcher R) := do
  let start ← getPos
  regexBody (← rounds) 0
  let body ← sliceSince start
  if body.isEmpty then fail "empty regex pattern"
  else
    expect '/'
    match lib.new body with
    | .error e => fail s!"invalid regex: {e}"
    | .ok re => return .regex re

def parseNamedTool : Parser (ToolMatcher R) := do
  let start ← getPos
  advanceWhile (fun c => !(c = '(' || isAsciiWhitespace c)) Char.utf8Size (← rounds)
  let name ← sliceSince start
  if name.isEmpty then fail "empty tool name"
  else if hasGlobChars name then return .glob name
  else return .exact name

def parseToolPart : Parser (ToolMatcher R) := do
  skipWhitespace
  if (← peek) = some '/' then
    advance 1
    parseRegexTool lib
  else parseNamedTool

end Tool

def parseIdentifier : Parser (List Char) := do
  let start ← getPos
  advanceWhile isIdentifierChar (fun _ => 1) (← rounds)
  let ident ← sliceSince start
  if ident.isEmpty then fail "expected identifier" else return ident

def parseUsize : Parser Nat := do
  let start ← getPos
  advanceWhile Char.isDigit (fun _ => 1) (← rounds)
  let digits ← sliceSince start
  if digits.isEmpty ∨ usizeMax < Nat.ofDigitChars 10 digits 0 then
    fail s!"invalid index: '{String.ofList digits}'"
  else return Nat.ofDigitChars 10 digits 0

def parseIndex : Parser PathSegment := do
  skipWhitespace
  if (← peek) = some '*' then
    advance 1
    expect ']'
    return .anyIndex
  else
    let i ← parseUsize
    expect ']'
    return .index i

def parseIndices : Nat → Parser (List PathSegment)
  | 0 => throw .panic
  | fuel + 1 => do
    if (← peek) = some '[' then
      advance 1
      let segment ← parseIndex
      let segments ← parseIndices fuel
      return segment :: segments
    else return []

def parseName : Parser PathSegment := do
  skipWhitespace
  if (← peek) = some '*' then
    advance 1
    return .wildcard
  else
    let ident ← parseIdentifier
    return .field ident

def parseFieldPathLoop : Nat → Parser (List PathSegment)
  | 0 => throw .panic
  | fuel + 1 => do
    let segment ← parseName
    let indices ← parseIndices (← rounds)
    if (← peek) = some '.' then
      advance 1
      let segments ← parseFieldPathLoop fuel
      return segment :: indices ++ segments
    else return segment :: indices

def parseFieldPath : Parser (List PathSegment) := do
  parseFieldPathLoop (← rounds)

def parseMatchOp : Parser MatchOp := do
  let rest ← remaining
  if ['!', '=', '~'].isPrefixOf rest then
    advance 3
    return .notRegex
  else if ['!', '='].isPrefixOf rest then
    advance 2
    return .notExact
  else if ['!', '~'].isPrefixOf rest then
    advance 2
    return .notGlob
  else if ['=', '~'].isPrefixOf rest then
    advance 2
    return .regex
  else if ['~'].isPrefixOf rest then
    advance 1
    return .glob
  else if ['='].isPrefixOf rest then
    advance 1
    return .exact
  else fail "expected operator: ~, =, =~, !~, !=, or !=~"

def quotedValue : Nat → List Char → Parser (List Char)
  | 0, _ => throw .panic
  | fuel + 1, value => do
    match ← peek with
    | none => fail "unterminated string literal"
    | some c =>
      if c = '"' then
        advance 1
        return value
      else if c = '\\' then
        advance 1
        match ← peek with
        | none => fail "unterminated escape sequence"
        | some d =>
          if d = '"' ∨ d = '\\' then
            advance 1
            quotedValue fuel (value ++ [d])
          else
            advance d.utf8Size
            quotedValue fuel (value ++ ['\\', d])
      else
        advance c.utf8Size
        quotedValue fuel (value ++ [c])

def parseQuotedValue : Parser (List Char) := do
  skipWhitespace
  if (← peek) ≠ some '"' then fail "expected '\"' to start value"
  else
    advance 1
    quotedValue (← rounds) []

def parseSingleFieldCondition : Parser FieldCondition := do
  skipWhitespace
  let path ← parseFieldPath
  skipWhitespace
  let op ← parseMatchOp
  skipWhitespace
  let value ← parseQuotedValue
  return ⟨path, op, value⟩

def parseFieldConditionsLoop : Nat → Parser (List FieldCondition)
  | 0 => throw .panic
  | fuel + 1 => do
    skipWhitespace
    let condition ← parseSingleFieldCondition
    skipWhitespace
    if (← peek) = some ',' then
      advance 1
      let conditions ← parseFieldConditionsLoop fuel
      return condition :: conditions
    else return [condition]

def parseFieldConditions : Parser ArgMatcher := do
  let conditions ← parseFieldConditionsLoop (← rounds)
  return .fields conditions

def primaryBody : Nat → Nat → Parser Unit
  | 0, _ => throw .panic
  | fuel + 1, depth => do
    match ← peek with
    | none => return ()
    | some c =>
      if c = '(' then
        advance 1
        primaryBody fuel (deeper depth)
      else if c = ')' then
        if depth > 0 then
          advance 1
          primaryBody fuel (depth - 1)
        else return ()
      else
        advance c.utf8Size
        primaryBody fuel depth

def parsePrimaryValue : Parser ArgMatcher := do
  skipWhitespace
  let start ← getPos
  primaryBody (← rounds) 0
  let value := trim (← sliceSince start)
  if value.isEmpty then fail "empty primary pattern"
  else return .primary .glob value

def asChar (byte : UInt8) : Char := Char.ofNat byte.toNat

def skipPath (bracket : Bool) : List UInt8 → Nat
  | [] => 0
  | byte :: bytes =>
    if bracket then skipPath (asChar byte ≠ ']') bytes + 1
    else if (asChar byte).isAlphanum ∨ asChar byte = '_' ∨ asChar byte = '.' then
      skipPath false bytes + 1
    else if asChar byte = '[' then skipPath true bytes + 1
    else if asChar byte = '*' then
      if (bytes.head?.map asChar) = some '.' ∨ (bytes.head?.map asChar) = some '[' then
        skipPath false bytes + 1
      else 1
    else 0

def looksLikeFieldConditions (s : List Char) : Option Bool :=
  let s := trim s
  let bytes := utf8Bytes s
  let i := skipPath false bytes
  let i := i + ((bytes.drop i).takeWhile (fun byte => isAsciiWhitespace (asChar byte))).length
  (sliceFrom s i).map startsWithOp

def starStandsAlone (rest : List Char) : Bool :=
  match slice rest 1 2 with
  | none => true
  | some after =>
    let c := after.head?.getD ')'
    c = ')' || isAsciiWhitespace c

def parseConditionsOrPrimary : Parser ArgMatcher := do
  match looksLikeFieldConditions (← remaining) with
  | none => throw .panic
  | some true => parseFieldConditions
  | some false => parsePrimaryValue

def parseArgPart : Parser ArgMatcher := do
  skipWhitespace
  if (← peek) = some '*' then
    if starStandsAlone (← remaining) = true then
      advance 1
      skipWhitespace
      return .any
    else parseConditionsOrPrimary
  else parseConditionsOrPrimary

def parseArgs : Parser ArgMatcher := do
  if (← peek) = some '(' then
    advance 1
    let args ← parseArgPart
    expect ')'
    return args
  else return .any

def parseWhole {R : Type} (lib : RegexLib R) : Parser (ToolCallPattern R) := do
  let tool ← parseToolPart lib
  skipWhitespace
  let args ← parseArgs
  skipWhitespace
  if (← isEmpty) = true then return ⟨tool, args⟩
  else fail s!"unexpected trailing: '{String.ofList (← remaining)}'"

def parsePattern {R : Type} (lib : RegexLib R) (input : List Char) :
    Except Fault (ToolCallPattern R) × Cursor :=
  (parseWhole lib).run (.new (trim input))

end Awaken.ToolPattern.Bytes
