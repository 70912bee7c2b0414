import Mathlib.Algebra.GroupWithZero.Nat
import Awaken.Contract.Message

/-! The built-in request transform, which cuts the messages of a request to a token budget. Content
blocks that are neither text nor thinking are values `B`; `jsonLen` is the length of a JSON value
written out. -/

namespace Awaken.Context

open Awaken.Contract
open Awaken.Agent.LoopState (Role)

inductive ContentBlock (B : Type) where
  | text (text : String)
  | thinking (thinking : String)
  | other (block : B)
deriving DecidableEq

structure ToolDescriptor (J : Type) where
  name : String
  description : String
  parameters : J

structure ContextWindowPolicy where
  maxContextTokens : Nat
  maxOutputTokens : Nat
  minRecentMessages : Nat

structure ArtifactCompactionConfig where
  thresholdTokens : Nat
  previewMaxChars : Nat
  previewMaxLines : Nat

def ArtifactCompactionConfig.default : ArtifactCompactionConfig := ⟨2048, 1600, 24⟩

variable {J B : Type}

abbrev ChatMessage (J B : Type) := Message J (ContentBlock B)

section Tokens

def ContentBlock.chars : ContentBlock B → Nat
  | .text content => content.utf8ByteSize
  | .thinking content => content.utf8ByteSize
  | .other _ => 50

def estimateMessageTokens (msg : ChatMessage J B) : Nat :=
  4 + (msg.content.map ContentBlock.chars).sum / 4

def estimateTokens (messages : List (ChatMessage J B)) : Nat :=
  (messages.map estimateMessageTokens).sum

def estimateToolTokens (jsonLen : J → Option Nat) (tools : List (ToolDescriptor J)) : Nat :=
  (tools.map (fun t => t.name.utf8ByteSize + t.description.utf8ByteSize +
    (jsonLen t.parameters).getD 100 / 4 + 10)).sum

end Tokens

section Compaction

def previewChars (config : ArtifactCompactionConfig) : List Char → Nat → Nat → List Char
  | [], _, _ => []
  | ch :: chars, charCount, lineCount =>
    if charCount ≥ config.previewMaxChars ∨ lineCount ≥ config.previewMaxLines then []
    else
      ch :: previewChars config chars (charCount + 1)
        (if ch = '\n' then lineCount + 1 else lineCount)

def compactArtifactWithConfig (content : String) (config : ArtifactCompactionConfig) : String :=
  let estimatedTokens := content.utf8ByteSize / 4
  if estimatedTokens < config.thresholdTokens then content
  else
    let preview := previewChars config content.toList 0 0
    String.ofList preview ++ "\n\n[Content compacted: original ~" ++ toString estimatedTokens ++
      " tokens, showing first " ++ toString preview.length ++ " chars]"

def compactBlock (config : ArtifactCompactionConfig) : ContentBlock B → ContentBlock B
  | .text text => .text (compactArtifactWithConfig text config)
  | block => block

def isModified (config : ArtifactCompactionConfig) : ContentBlock B → Bool
  | .text text => (compactArtifactWithConfig text config).utf8ByteSize ≠ text.utf8ByteSize
  | _ => false

def compactMessage (config : ArtifactCompactionConfig) (msg : ChatMessage J B) : ChatMessage J B :=
  if msg.role ≠ .tool then msg
  else if msg.content.any (isModified config) then
    { msg with content := msg.content.map (compactBlock config) }
  else msg

def compactToolResultsWithConfig (messages : List (ChatMessage J B))
    (config : ArtifactCompactionConfig) : List (ChatMessage J B) :=
  messages.map (compactMessage config)

end Compaction

section Truncation

def isTool (msg : ChatMessage J B) : Bool := msg.role = .tool

def isSystem (msg : ChatMessage J B) : Bool := msg.role = .system

def toolAt (history : List (ChatMessage J B)) (i : Nat) : Bool := (history[i]?).any isTool

def splitLoop (history : List (ChatMessage J B)) (budgetTokens mustKeepStart : Nat) :
    Nat → Nat → Nat → Nat
  | 0, _, candidateSplit => candidateSplit
  | i + 1, usedTokens, candidateSplit =>
    let newTotal := usedTokens + (history[i]?).elim 0 estimateMessageTokens
    if i ≥ mustKeepStart then splitLoop history budgetTokens mustKeepStart i newTotal i
    else if newTotal > budgetTokens then candidateSplit
    else splitLoop history budgetTokens mustKeepStart i newTotal i

def backOverResults (history : List (ChatMessage J B)) : Nat → Nat
  | 0 => 0
  | split + 1 => if toolAt history (split + 1) then backOverResults history split else split + 1

def skipResults (history : List (ChatMessage J B)) (split : Nat) : Nat :=
  split + ((history.drop split).takeWhile isTool).length

def isDroppedCall (history : List (ChatMessage J B)) (split : Nat) : Bool :=
  decide (split > 0) &&
    (history[split - 1]?).any (fun m => m.role = .assistant && m.toolCalls.isSome)

def adjustSplitForToolPairs (history : List (ChatMessage J B)) (split : Nat) : Nat :=
  if split = 0 ∨ split ≥ history.length then split
  else
    let split := backOverResults history split
    if isDroppedCall history split then skipResults history split else split

def findSplitPoint (history : List (ChatMessage J B)) (budgetTokens minRecent : Nat) : Nat :=
  if history.isEmpty then 0
  else
    let mustKeepStart := history.length - min minRecent history.length
    adjustSplitForToolPairs history
      (splitLoop history budgetTokens mustKeepStart history.length 0 history.length)

end Truncation

section Repair

def resultIds (messages : List (ChatMessage J B)) : List String :=
  (messages.filter isTool).filterMap (·.toolCallId)

def missingCalls (ids : List String) (msg : ChatMessage J B) : List String :=
  if msg.role ≠ .assistant then []
  else ((msg.toolCalls.getD []).map (·.id)).filter (fun id => decide (id ∉ ids))

def interrupted (messageId callId : String) : ChatMessage J B :=
  .tool messageId callId (.text "[Tool execution was interrupted]")

/-- The results to insert, with their places: behind the message and the results that follow it.
The ids of the new messages are drawn from `gen` in turn. -/
def insertions (gen : Nat → String) (messages : List (ChatMessage J B)) (ids : List String) :
    List (ChatMessage J B) → Nat → Nat → List (Nat × List (ChatMessage J B))
  | [], _, _ => []
  | msg :: rest, i, drawn =>
    let missing := missingCalls ids msg
    if missing.isEmpty then insertions gen messages ids rest (i + 1) drawn
    else
      (i + 1 + ((messages.drop (i + 1)).takeWhile isTool).length,
        missing.zipIdx.map (fun m => interrupted (gen (drawn + m.2)) m.1)) ::
        insertions gen messages ids rest (i + 1) (drawn + missing.length)

def insertResults (messages : List (ChatMessage J B)) (insertion : Nat × List (ChatMessage J B)) :
    List (ChatMessage J B) :=
  let idx := min insertion.1 messages.length
  insertion.2.zipIdx.foldl (fun messages m => messages.insertIdx (idx + m.2) m.1) messages

def patchDanglingToolCalls (gen : Nat → String) (messages : List (ChatMessage J B)) :
    List (ChatMessage J B) :=
  (insertions gen messages (resultIds messages) messages 0 0).reverse.foldl insertResults messages

end Repair

structure ContextTransform (J : Type) where
  policy : ContextWindowPolicy
  artifactCompaction : ArtifactCompactionConfig
  jsonLen : J → Option Nat
  gen : Nat → String

namespace ContextTransform

variable (self : ContextTransform J) (toolDescriptors : List (ToolDescriptor J))

def available : Nat :=
  self.policy.maxContextTokens - self.policy.maxOutputTokens -
    estimateToolTokens self.jsonLen toolDescriptors

def systemPrefix (messages : List (ChatMessage J B)) : List (ChatMessage J B) :=
  messages.takeWhile isSystem

def history (messages : List (ChatMessage J B)) : List (ChatMessage J B) :=
  messages.dropWhile isSystem

def historyBudget (messages : List (ChatMessage J B)) : Nat :=
  self.available toolDescriptors - estimateTokens (systemPrefix messages)

def truncated (messages : List (ChatMessage J B)) : List (ChatMessage J B) :=
  systemPrefix messages ++ (history messages).drop
    (findSplitPoint (history messages) (self.historyBudget toolDescriptors messages)
      self.policy.minRecentMessages)

def transform (messages : List (ChatMessage J B)) : List (ChatMessage J B) :=
  let messages := compactToolResultsWithConfig messages self.artifactCompaction
  if estimateTokens messages ≤ self.available toolDescriptors then messages
  else patchDanglingToolCalls self.gen (self.truncated toolDescriptors messages)

end ContextTransform

end Awaken.Context
