import Awaken.Context.Transform
import Awaken.Contract.PairedCalls
import Awaken.Lib.Outcome
import Awaken.Lib.Text

namespace Awaken.Context

open Awaken.Lib Awaken.Lib.Text Awaken.Contract
open Awaken.Agent.LoopState (Role Visibility)

variable {J B : Type}

inductive ContextCompactionMode where
  | keepRecentRawSuffix
  | compactToSafeFrontier
deriving DecidableEq

structure CompactionPolicy extends ContextWindowPolicy where
  compactionMode : ContextCompactionMode
  compactionRawSuffixMessages : Nat

def minCompactionGainTokens : Nat := 1024

section Boundary

def madeCalls (msg : ChatMessage J B) : List String := (msg.toolCalls.getD []).map (·.id)

def openStep (openCalls : List String) (msg : ChatMessage J B) : List String :=
  let openCalls := madeCalls msg ++ openCalls
  match msg.role, msg.toolCallId with
  | .tool, some callId => openCalls.filter (· ≠ callId)
  | _, _ => openCalls

def boundaryLoop : List (ChatMessage J B) → Nat → Nat → List String → Option Nat → Option Nat
  | [], _, _, _, bestBoundary => bestBoundary
  | _, 0, _, _, bestBoundary => bestBoundary
  | msg :: messages, count + 1, idx, openCalls, bestBoundary =>
    let openCalls := openStep openCalls msg
    let nextIsTool := messages.head?.any isTool
    boundaryLoop messages count (idx + 1) openCalls
      (if openCalls.isEmpty && !nextIsTool then some idx else bestBoundary)

def findCompactionBoundary (messages : List (ChatMessage J B)) (start «end» : Nat) : Option Nat :=
  boundaryLoop (messages.drop start) («end» - start) start [] none

end Boundary

section Plan

def ContentBlock.asText : ContentBlock B → Option String
  | .text content => some content
  | _ => none

def extractText (blocks : List (ContentBlock B)) : String :=
  String.join (blocks.filterMap ContentBlock.asText)

def roleName : Role → String
  | .system => "System"
  | .user => "User"
  | .assistant => "Assistant"
  | .tool => "Tool"

def transcriptLine (msg : ChatMessage J B) : Option String :=
  let text := extractText msg.content
  if text.isEmpty then none else some s!"[{roleName msg.role}]: {text}"

def renderTranscript (messages : List (ChatMessage J B)) : String :=
  "\n\n".intercalate ((messages.filter (·.visibility ≠ .internal)).filterMap transcriptLine)

def findText (pattern : List Char) : List Char → Option Nat
  | [] => if pattern.isEmpty then some 0 else none
  | c :: text => if pattern <+: c :: text then some 0 else (findText pattern text).map (· + 1)

def summaryTag : List Char := "<conversation-summary>".toList

def summaryEndTag : List Char := "</conversation-summary>".toList

/-- The text between the tags is cut out by its offsets, which panics where the end tag comes
first. -/
def extractPreviousSummary : List (ChatMessage J B) → Outcome Empty (Option String)
  | [] => .ok none
  | msg :: messages =>
    if msg.role ≠ .system ∨ msg.visibility ≠ .internal then extractPreviousSummary messages
    else
      let text := (extractText msg.content).toList
      match findText summaryTag text, findText summaryEndTag text with
      | some start, some «end» =>
        if «end» < start + summaryTag.length then .panic
        else
          let inner := (text.take «end»).drop (start + summaryTag.length)
          let trimmed := trim (String.ofList inner)
          if trimmed.isEmpty then extractPreviousSummary messages else .ok (some trimmed)
      | _, _ => extractPreviousSummary messages

structure CompactionPlan where
  transcript : String
  previousSummary : Option String
  boundaryMessageId : String
  preTokens : Nat
deriving DecidableEq

def visibleUser (msg : ChatMessage J B) : Bool := msg.role = .user && msg.visibility ≠ .internal

def rposition {α : Type} (p : α → Bool) : List α → Option Nat
  | [] => none
  | a :: l =>
    match rposition p l with
    | some idx => some (idx + 1)
    | none => if p a then some 0 else none

def latestUserSuffix (messages : List (ChatMessage J B)) : Nat :=
  match rposition visibleUser messages with
  | some idx => messages.length - idx
  | none => 0

def compactionKeepSuffix (messages : List (ChatMessage J B)) (policy : CompactionPolicy) : Nat :=
  let configured := match policy.compactionMode with
    | .keepRecentRawSuffix => policy.compactionRawSuffixMessages
    | .compactToSafeFrontier => policy.minRecentMessages
  min (max configured (latestUserSuffix messages)) messages.length

def planCompaction (messages : List (ChatMessage J B)) (policy : CompactionPolicy) :
    Outcome Empty (Option CompactionPlan) :=
  if messages.length < 2 then .ok none
  else
    let searchEnd := messages.length - compactionKeepSuffix messages policy
    if searchEnd < 2 then .ok none
    else
      match findCompactionBoundary messages 0 searchEnd with
      | none => .ok none
      | some boundary =>
        match messages[boundary]?.bind (·.id) with
        | none => .ok none
        | some boundaryMessageId =>
          let summarized := messages.take (boundary + 1)
          let preTokens := estimateTokens summarized
          if preTokens < minCompactionGainTokens then .ok none
          else
            let transcript := renderTranscript summarized
            if transcript.isEmpty then .ok none
            else
              (extractPreviousSummary messages).map (fun previousSummary =>
                some ⟨transcript, previousSummary, boundaryMessageId, preTokens⟩)

end Plan

section Swap

structure AppliedCompaction where
  boundaryIndex : Nat
  preTokens : Nat
  postTokens : Nat
deriving DecidableEq

/-- The new message's id is drawn in the source. -/
def summaryMessage (messageId summaryText : String) : ChatMessage J B where
  id := some messageId
  role := .system
  content := [.text s!"<conversation-summary>\n{summaryText}\n</conversation-summary>"]
  toolCalls := none
  toolCallId := none
  visibility := .internal
  metadata := none

def applySummary (messageId : String) (messages : List (ChatMessage J B))
    (boundaryMessageId summaryText : String) :
    Option (AppliedCompaction × List (ChatMessage J B)) :=
  (messages.findIdx? (·.id = some boundaryMessageId)).map (fun idx =>
    let summary : ChatMessage J B := summaryMessage messageId summaryText
    (⟨idx, estimateTokens (messages.take (idx + 1)), estimateMessageTokens summary⟩,
      summary :: messages.drop (idx + 1)))

end Swap

end Awaken.Context
