import Mathlib.Data.List.Sort
import Awaken.Contract.MessageLog

/-! Filtering and pagination of message records. A cursor is kept as the token that its text
encodes. -/

namespace Awaken.Contract

open Awaken.Agent.LoopState (Visibility)

variable {J C : Type}

structure MessageSeqRange where
  fromSeq : Nat
  toSeq : Nat
deriving DecidableEq

inductive MessageOrder where
  | asc
  | desc
deriving DecidableEq

inductive MessageVisibilityFilter where
  | any
  | external
  | internal
deriving DecidableEq

structure MessageQuery where
  offset : Nat
  limit : Nat
  after : Option Nat
  before : Option Nat
  order : MessageOrder
  visibility : MessageVisibilityFilter
  runId : Option String
deriving DecidableEq

structure MessageCursorToken where
  offset : Nat
  after : Option Nat
  before : Option Nat
  order : MessageOrder
  visibility : MessageVisibilityFilter
  runId : Option String
deriving DecidableEq

structure MessagePage (J C : Type) where
  records : List (MessageRecord J C)
  total : Nat
  hasMore : Bool
  nextCursor : Option MessageCursorToken
  prevCursor : Option MessageCursorToken
deriving DecidableEq

def MessagePage.empty : MessagePage J C := ⟨[], 0, false, none, none⟩

namespace MessageQuery

def normalized (self : MessageQuery) : MessageQuery := { self with limit := min self.limit 200 }

def encodeCursor (self : MessageQuery) (offset : Nat) : MessageCursorToken :=
  let normalized := self.normalized
  ⟨offset, normalized.after, normalized.before, normalized.order, normalized.visibility,
    normalized.runId⟩

def matchesVisibility (self : MessageQuery) (record : MessageRecord J C) : Bool :=
  match self.visibility with
  | .any => true
  | .external => record.message.visibility ≠ .internal
  | .internal => record.message.visibility = .internal

def matchesRecord (self : MessageQuery) (record : MessageRecord J C) : Bool :=
  if self.after.any (fun after => record.seq ≤ after) then false
  else if self.before.any (fun before => before ≤ record.seq) then false
  else if self.runId.any (fun runId => record.producedByRunId ≠ some runId) then false
  else self.matchesVisibility record

end MessageQuery

def sortRecords (order : MessageOrder) (records : List (MessageRecord J C)) :
    List (MessageRecord J C) :=
  match order with
  | .asc => records.insertionSort (fun a b => a.seq ≤ b.seq)
  | .desc => records.insertionSort (fun a b => b.seq ≤ a.seq)

def paginateMessageRecords (records : List (MessageRecord J C)) (query : MessageQuery) :
    MessagePage J C :=
  let query := query.normalized
  let records := sortRecords query.order (records.filter query.matchesRecord)
  let total := records.length
  let start := min query.offset total
  let pageRecords := (records.drop start).take query.limit
  let nextOffset := start + pageRecords.length
  let hasMore := 0 < query.limit && nextOffset < total
  { records := pageRecords
    total := total
    hasMore := hasMore
    nextCursor := if hasMore then some (query.encodeCursor nextOffset) else none
    prevCursor :=
      if 0 < query.limit ∧ 0 < start then some (query.encodeCursor (start - query.limit)) else none }

lemma mem_sortRecords {order : MessageOrder} {records : List (MessageRecord J C)}
    {record : MessageRecord J C} : record ∈ sortRecords order records ↔ record ∈ records := by
  cases order with
  | asc => exact List.mem_insertionSort _
  | desc => exact List.mem_insertionSort _

lemma mem_paginateMessageRecords {records : List (MessageRecord J C)} {query : MessageQuery}
    {record : MessageRecord J C} (h : record ∈ (paginateMessageRecords records query).records) :
    record ∈ records := by
  have hmem := (mem_sortRecords).mp (List.mem_of_mem_drop (List.mem_of_mem_take h))
  exact List.mem_of_mem_filter hmem

end Awaken.Contract
