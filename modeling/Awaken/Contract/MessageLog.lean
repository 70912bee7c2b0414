import Mathlib.Data.List.Sort
import Mathlib.Tactic.Lemma
import Awaken.Contract.Message

namespace Awaken.Contract

open Awaken.Agent.LoopState (Role Visibility)

variable {J C : Type}

structure MessageRecord (J C : Type) where
  messageId : String
  threadId : String
  seq : Nat
  message : Message J C
  producedByRunId : Option String
  stepIndex : Option Nat
  toolCallId : Option String
  createdAt : Option Nat
  compaction : Option CompactionMark
deriving DecidableEq

/-- `gen` is the id drawn for a message that has none. -/
def MessageRecord.fromMessage (gen threadId : String) (seq : Nat) (message : Message J C) :
    MessageRecord J C :=
  let messageId := message.id.getD gen
  { messageId := messageId
    threadId := threadId
    seq := seq
    message := { message with id := some messageId }
    producedByRunId := message.metadata.bind (·.runId)
    stepIndex := message.metadata.bind (·.stepIndex)
    toolCallId := message.toolCallId
    createdAt := none
    compaction := message.metadata.bind (·.compaction) }

def recordsFrom (gen : Nat → String) (threadId : String) (start : Nat)
    (messages : List (Message J C)) : List (MessageRecord J C) :=
  messages.mapIdx (fun i message => .fromMessage (gen i) threadId (start + i) message)

section Fold

structure Interval (J C : Type) where
  fromSeq : Nat
  toSeq : Nat
  summary : Message J C

def Interval.ofRecord (record : MessageRecord J C) : Option (Interval J C) :=
  record.compaction.map (fun mark => ⟨mark.fromSeq, mark.toSeq, record.message⟩)

def Interval.before (a b : Interval J C) : Bool :=
  a.fromSeq < b.fromSeq || (a.fromSeq = b.fromSeq && b.toSeq ≤ a.toSeq)

def keepUndominated (kept : List (Interval J C)) (candidate : Interval J C) :
    List (Interval J C) :=
  if kept.any (fun k => k.fromSeq ≤ candidate.fromSeq && candidate.toSeq ≤ k.toSeq) then kept
  else kept ++ [candidate]

def compactionIntervals (records : List (MessageRecord J C)) : List (Interval J C) :=
  let candidates := (records.filterMap Interval.ofRecord).insertionSort (fun a b => a.before b)
  (candidates.foldl keepUndominated []).insertionSort (fun a b => a.fromSeq ≤ b.fromSeq)

def covered (intervals : List (Interval J C)) (seq : Nat) : Bool :=
  intervals.any (fun i => i.fromSeq ≤ seq && seq ≤ i.toSeq)

def foldRaw (intervals : List (Interval J C)) :
    List (Interval J C) → List (MessageRecord J C) → List (Message J C)
  | next, [] => next.map (·.summary)
  | next, record :: records =>
    (next.takeWhile (fun i => i.fromSeq ≤ record.seq)).map (·.summary) ++
      (if covered intervals record.seq then [] else [record.message]) ++
      foldRaw intervals (next.dropWhile (fun i => i.fromSeq ≤ record.seq)) records

def effectiveMessages (records : List (MessageRecord J C)) : List (Message J C) :=
  let summarySeqs := (records.filter (·.compaction.isSome)).map (·.seq)
  let intervals := compactionIntervals records
  foldRaw intervals intervals (records.filter (fun r => r.seq ∉ summarySeqs))

end Fold

section Strip

def toolCallIds (visibility : Visibility) (messages : List (Message J C)) : List String :=
  messages.filterMap (fun message =>
    if message.role = .tool ∧ message.visibility = visibility then message.toolCallId else none)

def answeredCalls (messages : List (Message J C)) : List String := toolCallIds .all messages

def retractedCalls (messages : List (Message J C)) : List String := toolCallIds .internal messages

def retainCalls (answered retracted : List String) (message : Message J C) : Message J C :=
  if message.role = .assistant then
    match message.toolCalls with
    | some calls =>
      let calls := calls.filter (fun call => call.id ∈ answered && call.id ∉ retracted)
      { message with toolCalls := if calls.isEmpty then none else some calls }
    | none => message
  else message

def staysInView (retracted : List String) (message : Message J C) : Bool :=
  if message.role = .tool then
    match message.toolCallId with
    | some callId => message.visibility = .all && callId ∉ retracted
    | none => true
  else true

def stripUnpairedToolCallsFromView (messages : List (Message J C)) : List (Message J C) :=
  (messages.map (retainCalls (answeredCalls messages) (retractedCalls messages))).filter
    (staysInView (retractedCalls messages))

end Strip

end Awaken.Contract
