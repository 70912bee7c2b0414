import Awaken.Lib.Run
import Awaken.Stores.MemoryStore.Pending

namespace Awaken.Stores.MemoryStore

open Awaken.Lib Awaken.State Awaken.Contract Awaken.Contract.Storage Awaken.Contract.MessageAppend

variable {J C : Type}

inductive StoreCall (J C : Type) where
  | saveThread (thread : Thread J)
  | saveThreadValidated (thread : Thread J)
  | deleteThread (threadId : String)
  | saveThreadState (threadId : String) (state : PersistedState J)
  | updateThreadMetadata (id : String) (metadata : ThreadMetadata J)
  | saveMessages (threadId : String) (messages : List (Message J C))
  | appendMessageRecords (threadId : String) (messages : List (Message J C))
  | deleteMessages (threadId : String)
  | createRun (record : RunRecord J)
  | checkpoint (threadId : String) (messages : List (Message J C)) (run : RunRecord J)
  | checkpointAppend (threadId : String) (messages : List (Message J C))
      (expectedVersion : Option Nat) (run : RunRecord J)
  | appendPending (threadId : String) (messages : List (Message J C)) (deliveryMode : DeliveryMode)
  | updatePending (threadId pendingId : String) (expectedRevision : Option Nat)
      (message : Message J C)
  | retractPending (threadId pendingId : String) (expectedRevision : Option Nat)
  | reorderPending (threadId : String) (expectedQueueRevision : Option Nat)
      (orderedPendingIds : List String)
  | freezePending (threadId : String) (boundary : DeliveryBoundary)
      (expectedMessageVersion : Option Nat)
  | freezePendingWithRun (threadId : String) (boundary : DeliveryBoundary)
      (expectedMessageVersion : Option Nat) (expectedPendingIds : List String) (run : RunRecord J)
  | appendAndFreezePendingWithRun (threadId : String) (newMessages : List (Message J C))
      (appendDeliveryMode : DeliveryMode) (boundary : DeliveryBoundary)
      (expectedMessageVersion : Option Nat) (expectedPendingIds : List String) (run : RunRecord J)

inductive StoreValue (J C : Type) where
  | unit
  | version (value : Nat)
  | records (value : List (MessageRecord J C))
  | pendingRecord (value : PendingMessageRecord J C)
  | pendingRecords (value : List (PendingMessageRecord J C))

/-- The clock and the drawn ids at the time of a call. -/
structure Draw where
  now : Nat
  gen : Nat → String

def Reply.tag {α : Type} (tag : α → StoreValue J C) (reply : Reply J C α) :
    Reply J C (StoreValue J C) :=
  (reply.1.map tag, reply.2)

namespace InMemoryStore

variable [DecidableEq J]

def exec (draw : Draw) (self : InMemoryStore J C) :
    StoreCall J C → Reply J C (StoreValue J C)
  | .saveThread thread => (self.saveThread thread).tag (fun _ => .unit)
  | .saveThreadValidated thread => (self.saveThreadValidated thread).tag (fun _ => .unit)
  | .deleteThread threadId => (.ok .unit, self.deleteThread threadId)
  | .saveThreadState threadId state => (.ok .unit, self.saveThreadState threadId state)
  | .updateThreadMetadata id metadata => (self.updateThreadMetadata id metadata).tag (fun _ => .unit)
  | .saveMessages threadId messages => (self.saveMessages threadId messages).tag (fun _ => .unit)
  | .appendMessageRecords threadId messages =>
    (self.appendMessageRecords draw.gen threadId messages).tag .records
  | .deleteMessages threadId => (self.deleteMessages threadId).tag (fun _ => .unit)
  | .createRun record => (self.createRun record).tag (fun _ => .unit)
  | .checkpoint threadId messages run =>
    (self.checkpoint draw.now threadId messages run).tag (fun _ => .unit)
  | .checkpointAppend threadId messages expectedVersion run =>
    (self.checkpointAppend draw.now threadId messages expectedVersion run).tag .version
  | .appendPending threadId messages deliveryMode =>
    (self.appendPendingMessageRecords draw.gen draw.now threadId messages deliveryMode).tag
      .pendingRecords
  | .updatePending threadId pendingId expectedRevision message =>
    (self.updatePendingMessageRecordChecked draw.now threadId pendingId expectedRevision message).tag
      .pendingRecord
  | .retractPending threadId pendingId expectedRevision =>
    (self.retractPendingMessageRecordChecked threadId pendingId expectedRevision).tag .pendingRecord
  | .reorderPending threadId expectedQueueRevision orderedPendingIds =>
    (self.reorderPendingMessageRecordsChecked draw.now threadId expectedQueueRevision
      orderedPendingIds).tag .pendingRecords
  | .freezePending threadId boundary expectedMessageVersion =>
    (self.freezePendingMessageRecords draw.gen threadId boundary expectedMessageVersion).tag .records
  | .freezePendingWithRun threadId boundary expectedMessageVersion expectedPendingIds run =>
    (self.freezePendingMessageRecordsWithRun draw.gen draw.now threadId boundary
      expectedMessageVersion expectedPendingIds run).tag .records
  | .appendAndFreezePendingWithRun threadId newMessages appendDeliveryMode boundary
      expectedMessageVersion expectedPendingIds run =>
    (self.appendAndFreezePendingMessageRecordsWithRun draw.gen draw.now threadId newMessages
      appendDeliveryMode boundary expectedMessageVersion expectedPendingIds run).tag .records

end InMemoryStore

def StoreStep [DecidableEq J] (s : InMemoryStore J C) (call : StoreCall J C)
    (s' : InMemoryStore J C) : Prop :=
  ∃ draw, (s.exec draw call).2 = s'

inductive LogChange (before : Option (List (Message J C))) :
    Option (List (Message J C)) → Prop
  | same : LogChange before before
  | extended {delta : List (Message J C)} :
      validateAppendOnlyDelta (before.getD []) delta = .ok () →
      LogChange before (some (before.getD [] ++ delta))
  | replaced {log : List (Message J C)} :
      validateCommittedMessages log = .ok () → LogChange before (some log)
  | removed : LogChange before none

namespace InMemoryStore

def LogsChange (s s' : InMemoryStore J C) : Prop :=
  ∀ threadId, LogChange (s.messages.get threadId) (s'.messages.get threadId)

variable {s s' : InMemoryStore J C} {threadId : String}

lemma logsChange_of_eq (h : s'.messages = s.messages) : s.LogsChange s' := by
  intro t
  rw [h]
  exact .same

lemma committed_eq (s : InMemoryStore J C) (threadId : String) :
    s.committed threadId = (s.messages.get threadId).getD [] := rfl

lemma get_putMessages (log : List (Message J C)) (t : String) :
    (s.putMessages threadId log).messages.get t =
      if t = threadId then some log else s.messages.get t :=
  Table.get_insert _ _ _ _

@[simp] lemma committed_putMessages (log : List (Message J C)) :
    (s.putMessages threadId log).committed threadId = log := by
  rw [committed_eq, get_putMessages, if_pos rfl, Option.getD_some]

@[simp] lemma committed_touchMessages (s : InMemoryStore J C) (threadId : String) :
    (s.touchMessages threadId).committed threadId = s.committed threadId := by
  unfold touchMessages
  split
  · rfl
  · rename_i h
    rw [committed_putMessages, committed_eq, Option.not_isSome_iff_eq_none.mp h, Option.getD_none]

@[simp] lemma putMessages_touchMessages (log : List (Message J C)) :
    ((s.touchMessages threadId).putMessages threadId log).messages.get =
      (s.putMessages threadId log).messages.get := by
  funext t
  rw [get_putMessages, get_putMessages]
  split
  · rfl
  · rename_i h
    unfold touchMessages
    split
    · rfl
    · rw [get_putMessages, if_neg h]

lemma logsChange_put {log : List (Message J C)}
    (h : LogChange (s.messages.get threadId) (some log)) :
    s.LogsChange (s.putMessages threadId log) := by
  intro t
  rw [get_putMessages]
  split
  · rename_i ht
    rw [ht]
    exact h
  · exact .same

lemma logsChange_append {delta : List (Message J C)}
    (h : validateAppendOnlyDelta (s.committed threadId) delta = .ok ()) :
    s.LogsChange (s.putMessages threadId (s.committed threadId ++ delta)) :=
  logsChange_put (.extended h)

lemma logsChange_touchMessages (s : InMemoryStore J C) (threadId : String) :
    s.LogsChange (s.touchMessages threadId) := by
  unfold touchMessages
  split
  · exact logsChange_of_eq rfl
  · rename_i h
    have happ : s.LogsChange (s.putMessages threadId (s.committed threadId ++ [])) :=
      logsChange_append rfl
    rwa [committed_eq, Option.not_isSome_iff_eq_none.mp h] at happ

lemma logsChange_remove (h : s'.messages = s.messages.remove threadId) : s.LogsChange s' := by
  intro t
  rw [h, Table.get_remove]
  split
  · exact .removed
  · exact .same

lemma logsChange_congr {u : InMemoryStore J C} (h : s.LogsChange s')
    (hu : u.messages.get = s'.messages.get) : s.LogsChange u := by
  intro t
  rw [hu]
  exact h t

lemma logsChange_touch_append {delta : List (Message J C)} {u : InMemoryStore J C}
    (h : validateAppendOnlyDelta (s.committed threadId) delta = .ok ())
    (hu : u.messages = ((s.touchMessages threadId).putMessages threadId
      (s.committed threadId ++ delta)).messages) : s.LogsChange u := by
  refine logsChange_congr (logsChange_append h) ?_
  rw [hu]
  exact putMessages_touchMessages _

@[simp] lemma messages_touchPending (s : InMemoryStore J C) (threadId : String) :
    (s.touchPending threadId).messages = s.messages := by
  unfold touchPending
  split <;> rfl

@[simp] lemma pendingMessages_touchMessages (s : InMemoryStore J C) (threadId : String) :
    (s.touchMessages threadId).pendingMessages = s.pendingMessages := by
  unfold touchMessages
  split <;> rfl

lemma messages_saveThread (s : InMemoryStore J C) (thread : Thread J) :
    (s.saveThread thread).2.messages = s.messages := by
  unfold saveThread
  dsimp only
  split <;> rfl

lemma messages_saveThreadValidated (s : InMemoryStore J C) (thread : Thread J) :
    (s.saveThreadValidated thread).2.messages = s.messages := by
  unfold saveThreadValidated
  dsimp only
  split
  · rfl
  · split <;> rfl

lemma messages_updateThreadMetadata (s : InMemoryStore J C) (id : String)
    (metadata : ThreadMetadata J) :
    (s.updateThreadMetadata id metadata).2.messages = s.messages := by
  unfold updateThreadMetadata
  split <;> rfl

lemma messages_appendPending (s : InMemoryStore J C) (gen : Nat → String) (now : Nat)
    (threadId : String) (messages : List (Message J C)) (mode : DeliveryMode) :
    (s.appendPendingMessageRecords gen now threadId messages mode).2.messages = s.messages := by
  unfold appendPendingMessageRecords
  dsimp only
  split
  · exact messages_touchPending s threadId
  · exact messages_touchPending s threadId

lemma messages_updatePending (s : InMemoryStore J C) (now : Nat) (threadId pendingId : String)
    (expectedRevision : Option Nat) (message : Message J C) :
    (s.updatePendingMessageRecordChecked now threadId pendingId expectedRevision message).2.messages
      = s.messages := by
  unfold updatePendingMessageRecordChecked
  dsimp only
  split
  · split <;> rfl
  · rfl

lemma messages_retractPending (s : InMemoryStore J C) (threadId pendingId : String)
    (expectedRevision : Option Nat) :
    (s.retractPendingMessageRecordChecked threadId pendingId expectedRevision).2.messages =
      s.messages := by
  unfold retractPendingMessageRecordChecked
  dsimp only
  split
  · split <;> rfl
  · rfl

lemma messages_reorderPending (s : InMemoryStore J C) (now : Nat) (threadId : String)
    (expectedQueueRevision : Option Nat) (orderedPendingIds : List String) :
    (s.reorderPendingMessageRecordsChecked now threadId expectedQueueRevision
      orderedPendingIds).2.messages = s.messages := by
  unfold reorderPendingMessageRecordsChecked
  split
  · rfl
  · split
    · rfl
    · split
      · rfl
      · split <;> rfl

lemma logsChange_saveMessages (s : InMemoryStore J C) (threadId : String)
    (messages : List (Message J C)) : s.LogsChange (s.saveMessages threadId messages).2 := by
  unfold saveMessages
  split
  · exact logsChange_of_eq rfl
  · rename_i h
    exact logsChange_put (.replaced h)

lemma logsChange_appendMessageRecords (s : InMemoryStore J C) (gen : Nat → String)
    (threadId : String) (messages : List (Message J C)) :
    s.LogsChange (s.appendMessageRecords gen threadId messages).2 := by
  unfold appendMessageRecords
  dsimp only
  rw [committed_touchMessages]
  split
  · exact logsChange_touchMessages s threadId
  · rename_i h
    exact logsChange_touch_append h rfl

lemma logsChange_deleteMessages (s : InMemoryStore J C) (threadId : String) :
    s.LogsChange (s.deleteMessages threadId).2 := by
  unfold deleteMessages
  split
  · exact logsChange_of_eq rfl
  · exact logsChange_remove rfl

lemma logsChange_freezeSelected (s : InMemoryStore J C) (gen : Nat → String) (threadId : String)
    (selectedIndexes : List Nat) :
    s.LogsChange (s.freezeSelected gen threadId selectedIndexes).2 := by
  unfold freezeSelected
  dsimp only
  rw [committed_touchMessages]
  split
  · exact logsChange_touchMessages s threadId
  · rename_i h
    refine logsChange_touch_append h ?_
    rw [consume, committed_touchMessages]
    rfl

lemma touchMessages_touchMessages (s : InMemoryStore J C) (threadId : String) :
    (s.touchMessages threadId).touchMessages threadId = s.touchMessages threadId := by
  have h : ((s.touchMessages threadId).messages.get threadId).isSome = true := by
    unfold touchMessages
    split
    · assumption
    · rw [get_putMessages, if_pos rfl, Option.isSome_some]
  conv_lhs => rw [touchMessages, if_pos h]

lemma freezeSelected_touchMessages (s : InMemoryStore J C) (gen : Nat → String)
    (threadId : String) (selectedIndexes : List Nat) :
    (s.touchMessages threadId).freezeSelected gen threadId selectedIndexes =
      s.freezeSelected gen threadId selectedIndexes := by
  unfold freezeSelected
  rw [touchMessages_touchMessages]

lemma logsChange_freezePending (s : InMemoryStore J C) (gen : Nat → String) (threadId : String)
    (boundary : DeliveryBoundary) (expected : Option Nat) :
    s.LogsChange (s.freezePendingMessageRecords gen threadId boundary expected).2 := by
  unfold freezePendingMessageRecords
  dsimp only
  split
  · exact logsChange_touchMessages s threadId
  · split
    · exact logsChange_touchMessages s threadId
    · split
      · exact logsChange_touchMessages s threadId
      · rw [freezeSelected_touchMessages]
        exact logsChange_freezeSelected s gen threadId _

variable [DecidableEq J]

lemma messages_createRun (s : InMemoryStore J C) (record : RunRecord J) :
    (s.createRun record).2.messages = s.messages := by
  unfold createRun
  split
  · rfl
  · split <;> rfl

lemma logsChange_checkpoint (s : InMemoryStore J C) (now : Nat) (threadId : String)
    (messages : List (Message J C)) (run : RunRecord J) :
    s.LogsChange (s.checkpoint now threadId messages run).2 := by
  unfold checkpoint
  split
  · exact logsChange_of_eq rfl
  · rename_i h
    obtain ⟨_, -, h⟩ := bind_ok h
    obtain ⟨_, hlog, -⟩ := bind_ok h
    exact logsChange_congr (logsChange_put (.replaced hlog)) rfl

lemma logsChange_checkpointAppend (s : InMemoryStore J C) (now : Nat) (threadId : String)
    (messages : List (Message J C)) (expected : Option Nat) (run : RunRecord J) :
    s.LogsChange (s.checkpointAppend now threadId messages expected run).2 := by
  unfold checkpointAppend
  split
  · exact logsChange_of_eq rfl
  · split
    · exact logsChange_of_eq rfl
    · dsimp only
      rw [committed_touchMessages]
      split
      · exact logsChange_touchMessages s threadId
      · rename_i h
        obtain ⟨_, hdelta, hmerged⟩ := bind_ok h
        obtain rfl := Except.ok.inj hmerged
        exact logsChange_touch_append hdelta rfl

omit [DecidableEq J] in
lemma logsChange_freezeExpected (s : InMemoryStore J C) (gen : Nat → String) (now : Nat)
    (threadId : String) (boundary : DeliveryBoundary) (expectedPendingIds : List String)
    (run : RunRecord J) :
    s.LogsChange (s.freezeExpected gen now threadId boundary expectedPendingIds run).2 := by
  unfold freezeExpected
  dsimp only
  split
  · exact logsChange_of_eq rfl
  · have h := logsChange_freezeSelected s gen threadId
      (selectPendingForFreezeForRun (s.pending threadId) boundary (some run.runId))
    split
    · rename_i heq
      rwa [heq] at h
    · rename_i heq
      rw [heq] at h
      exact logsChange_congr h rfl

lemma logsChange_freezePendingWithRun (s : InMemoryStore J C) (gen : Nat → String) (now : Nat)
    (threadId : String) (boundary : DeliveryBoundary) (expected : Option Nat)
    (expectedPendingIds : List String) (run : RunRecord J) :
    s.LogsChange (s.freezePendingMessageRecordsWithRun gen now threadId boundary expected
      expectedPendingIds run).2 := by
  unfold freezePendingMessageRecordsWithRun
  split
  · exact logsChange_of_eq rfl
  · intro t
    have h := logsChange_freezeExpected (s.touchPending threadId) gen now threadId boundary
      expectedPendingIds run t
    rwa [messages_touchPending] at h

lemma logsChange_appendAndFreeze (s : InMemoryStore J C) (gen : Nat → String) (now : Nat)
    (threadId : String) (newMessages : List (Message J C)) (mode : DeliveryMode)
    (boundary : DeliveryBoundary) (expected : Option Nat) (expectedPendingIds : List String)
    (run : RunRecord J) :
    s.LogsChange (s.appendAndFreezePendingMessageRecordsWithRun gen now threadId newMessages mode
      boundary expected expectedPendingIds run).2 := by
  unfold appendAndFreezePendingMessageRecordsWithRun
  split
  · exact logsChange_of_eq rfl
  · have hmsg := messages_appendPending s gen now threadId newMessages mode
    split
    · rename_i heq
      rw [heq] at hmsg
      exact logsChange_of_eq hmsg
    · rename_i u heq
      rw [heq] at hmsg
      intro t
      have h := logsChange_freezeExpected u gen now threadId boundary expectedPendingIds run t
      rwa [hmsg] at h

theorem logsChange_exec (draw : Draw) (s : InMemoryStore J C) (call : StoreCall J C) :
    s.LogsChange (s.exec draw call).2 := by
  cases call with
  | saveThread thread => exact logsChange_of_eq (messages_saveThread s thread)
  | saveThreadValidated thread => exact logsChange_of_eq (messages_saveThreadValidated s thread)
  | deleteThread threadId => exact logsChange_remove rfl
  | saveThreadState threadId state => exact logsChange_of_eq rfl
  | updateThreadMetadata id metadata =>
    exact logsChange_of_eq (messages_updateThreadMetadata s id metadata)
  | saveMessages threadId messages => exact logsChange_saveMessages s threadId messages
  | appendMessageRecords threadId messages =>
    exact logsChange_appendMessageRecords s draw.gen threadId messages
  | deleteMessages threadId => exact logsChange_deleteMessages s threadId
  | createRun record => exact logsChange_of_eq (messages_createRun s record)
  | checkpoint threadId messages run => exact logsChange_checkpoint s draw.now threadId messages run
  | checkpointAppend threadId messages expectedVersion run =>
    exact logsChange_checkpointAppend s draw.now threadId messages expectedVersion run
  | appendPending threadId messages mode =>
    exact logsChange_of_eq (messages_appendPending s draw.gen draw.now threadId messages mode)
  | updatePending threadId pendingId expectedRevision message =>
    exact logsChange_of_eq
      (messages_updatePending s draw.now threadId pendingId expectedRevision message)
  | retractPending threadId pendingId expectedRevision =>
    exact logsChange_of_eq (messages_retractPending s threadId pendingId expectedRevision)
  | reorderPending threadId expectedQueueRevision ids =>
    exact logsChange_of_eq (messages_reorderPending s draw.now threadId expectedQueueRevision ids)
  | freezePending threadId boundary expected =>
    exact logsChange_freezePending s draw.gen threadId boundary expected
  | freezePendingWithRun threadId boundary expected ids run =>
    exact logsChange_freezePendingWithRun s draw.gen draw.now threadId boundary expected ids run
  | appendAndFreezePendingWithRun threadId newMessages mode boundary expected ids run =>
    exact logsChange_appendAndFreeze s draw.gen draw.now threadId newMessages mode boundary expected
      ids run

end InMemoryStore

def LogsValid (s : InMemoryStore J C) : Prop :=
  ∀ threadId log, s.messages.get threadId = some log → validateCommittedMessages log = .ok ()

lemma logsValid_new : LogsValid (InMemoryStore.new : InMemoryStore J C) := by
  intro threadId log h
  cases h

lemma LogsValid.committed {s : InMemoryStore J C} (h : LogsValid s) (threadId : String) :
    validateCommittedMessages (s.committed threadId) = .ok () := by
  rw [InMemoryStore.committed_eq]
  cases hlog : s.messages.get threadId with
  | none => rfl
  | some log => exact h threadId log hlog

lemma LogsValid.change {s s' : InMemoryStore J C} (h : LogsValid s) (hc : s.LogsChange s') :
    LogsValid s' := by
  intro threadId log hlog
  have hchange := hc threadId
  rw [hlog] at hchange
  cases hbefore : s.messages.get threadId with
  | none =>
    rw [hbefore] at hchange
    cases hchange with
    | extended hdelta => exact hdelta
    | replaced hok => exact hok
  | some before =>
    rw [hbefore] at hchange
    cases hchange with
    | same => exact h threadId _ hbefore
    | extended hdelta =>
      exact validateCommittedMessages_append.mpr ⟨h threadId _ hbefore, hdelta⟩
    | replaced hok => exact hok

theorem logsValid_of_reachable [DecidableEq J] {s : InMemoryStore J C}
    (h : Reachable StoreStep .new s) : LogsValid s := by
  refine h.invariant logsValid_new (fun s call s' hstep hs => ?_)
  obtain ⟨draw, rfl⟩ := hstep
  exact hs.change (InMemoryStore.logsChange_exec draw s call)

end Awaken.Stores.MemoryStore
