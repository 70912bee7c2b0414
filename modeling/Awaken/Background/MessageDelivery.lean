import Awaken.Background.SendMessageTool

namespace Awaken.Background

open Awaken.Lib Awaken.State

variable {J W : Type} {codecs : BackgroundCodecs J}

structure Messages where
  pending : List OutboxEntry
  failed : List FailedDurableMessage

def messagesOf (map : StateMap (backgroundKeys codecs)) : Messages :=
  ⟨((map .messageOutbox).getD ⟨[]⟩).pending, ((map .failedDurableMessages).getD ⟨[]⟩).messages⟩

namespace Messages

def apply (self : Messages) : MutationOp (backgroundKeys codecs) → Messages
  | .keyPatch .messageOutbox update => ⟨(MessageOutbox.reduce ⟨self.pending⟩ update).pending, self.failed⟩
  | .keyPatch .failedDurableMessages update =>
    ⟨self.pending, (FailedDurableMessageState.reduce ⟨self.failed⟩ update).messages⟩
  | .clearKey .messageOutbox => ⟨[], self.failed⟩
  | .clearKey .failedDurableMessages => ⟨self.pending, []⟩
  | _ => self

def about (self : Messages) (id : String) : List OutboxEntry × List FailedDurableMessage :=
  (self.pending.filter (fun entry => entry.id = id),
    self.failed.filter (fun failed => failed.request.messageId = id))

end Messages

lemma messagesOf_apply (map : StateMap (backgroundKeys codecs))
    (op : MutationOp (backgroundKeys codecs)) :
    messagesOf (op.apply map) = (messagesOf map).apply op := by
  cases op with
  | keyPatch k update =>
    cases k with
    | messageOutbox =>
      rw [messagesOf, MutationOp.apply, StateMap.update_self, StateMap.update_of_ne (by decide)]
      rfl
    | failedDurableMessages =>
      rw [messagesOf, MutationOp.apply, StateMap.update_self, StateMap.update_of_ne (by decide)]
      rfl
    | tasks | pendingWork =>
      rw [messagesOf, MutationOp.apply, StateMap.update_of_ne (by decide),
        StateMap.update_of_ne (by decide)]
      rfl
  | clearKey k =>
    cases k with
    | messageOutbox =>
      rw [messagesOf, MutationOp.apply, StateMap.remove_self, StateMap.remove_of_ne (by decide)]
      rfl
    | failedDurableMessages =>
      rw [messagesOf, MutationOp.apply, StateMap.remove_self, StateMap.remove_of_ne (by decide)]
      rfl
    | tasks | pendingWork =>
      rw [messagesOf, MutationOp.apply, StateMap.remove_of_ne (by decide),
        StateMap.remove_of_ne (by decide)]
      rfl

lemma messagesOf_ops (map : StateMap (backgroundKeys codecs))
    (ops : List (MutationOp (backgroundKeys codecs))) :
    messagesOf (ops.foldl MutationOp.apply map) = ops.foldl Messages.apply (messagesOf map) := by
  induction ops generalizing map with
  | nil => rfl
  | cons op ops ih => rw [List.foldl_cons, ih, messagesOf_apply, List.foldl_cons]

lemma messagesOf_commit {store store' : StateStore (backgroundKeys codecs)}
    {patch : MutationBatch (backgroundKeys codecs)} {revision : Nat}
    (h : store.commit patch = (.ok revision, store')) :
    store'.registry = store.registry ∧
      messagesOf store'.inner.ext = patch.ops.foldl Messages.apply (messagesOf store.inner.ext) := by
  have hregistry := commit_registry store patch
  rw [h] at hregistry
  refine ⟨hregistry, ?_⟩
  unfold StateStore.commit at h
  split at h
  · rename_i hempty
    rw [← (Prod.mk.inj h).2, List.isEmpty_iff.mp hempty]
    rfl
  · split at h
    · exact nomatch (Prod.mk.inj h).1
    · rw [← (Prod.mk.inj h).2]
      exact messagesOf_ops _ _

section Hook

/-- A request that the sink was given, with its answer. -/
abbrev Call := DurableMessageRequest × Except String String

def recordedSink (sink : DurableMessageSink W) : DurableMessageSink (W × List Call) :=
  fun request world =>
    let answer := sink request world.1
    (answer.1, answer.2, world.2 ++ [(request, answer.1)])

namespace MessageDispatchHook

variable (self : MessageDispatchHook W)

def recorded : MessageDispatchHook (W × List Call) where
  sendTaskInboxMessage taskId ownerThreadId senderAgentId message world :=
    let sent := self.sendTaskInboxMessage taskId ownerThreadId senderAgentId message world.1
    (sent.1, sent.2, world.2)
  durableSink := self.durableSink.map recordedSink

def calls (ambient : Option (DurableMessageSink W)) (snapshot : Snapshot (backgroundKeys codecs))
    (world : W) : List Call :=
  (self.recorded.run (ambient.map recordedSink) snapshot (world, [])).2.2

end MessageDispatchHook

abbrev Answered := OutboxEntry × Option (Except String String)

namespace Answered

def ops : Answered → List (MutationOp (backgroundKeys codecs))
  | (⟨id, .durable request, _⟩, none) =>
    [.keyPatch .failedDurableMessages
        (FailedDurableMessageUpdate.push ⟨request, "no durable transport configured"⟩),
      .keyPatch .messageOutbox (MessageOutboxUpdate.remove id)]
  | (⟨id, .durable request, attempts⟩, some (.error error)) =>
    if attempts + 1 < maxDurableAttempts then
      [.keyPatch .messageOutbox (MessageOutboxUpdate.remove id),
        .keyPatch .messageOutbox
          (MessageOutboxUpdate.enqueue ⟨id, .durable request, attempts + 1⟩)]
    else
      [.keyPatch .failedDurableMessages (FailedDurableMessageUpdate.push ⟨request, error⟩),
        .keyPatch .messageOutbox (MessageOutboxUpdate.remove id)]
  | (entry, _) => [.keyPatch .messageOutbox (MessageOutboxUpdate.remove entry.id)]

def kept : Answered → Option OutboxEntry
  | (⟨id, .durable request, attempts⟩, some (.error _)) =>
    if attempts + 1 < maxDurableAttempts then some ⟨id, .durable request, attempts + 1⟩ else none
  | _ => none

def dead : Answered → Option FailedDurableMessage
  | (⟨_, .durable request, _⟩, none) => some ⟨request, "no durable transport configured"⟩
  | (⟨_, .durable request, attempts⟩, some (.error error)) =>
    if attempts + 1 < maxDurableAttempts then none else some ⟨request, error⟩
  | _ => none

def call : Answered → Option Call
  | (⟨_, .durable request, _⟩, some answer) => some (request, answer)
  | _ => none

def Asked (sink : Option (DurableMessageSink W)) : Answered → Prop
  | (⟨_, .durable _, _⟩, answer) => answer.isSome = sink.isSome
  | (_, answer) => answer = none

lemma apply_ops (messages : Messages) (answered : Answered) :
    (answered.ops : List (MutationOp (backgroundKeys codecs))).foldl Messages.apply messages =
      ⟨messages.pending.filter (fun entry => entry.id ≠ answered.1.id) ++ answered.kept.toList,
        messages.failed ++ answered.dead.toList⟩ := by
  obtain ⟨⟨id, route, attempts⟩, answer⟩ := answered
  cases route with
  | childInbox taskId ownerThreadId senderAgentId message =>
    simp [ops, kept, dead, Messages.apply, MessageOutbox.reduce]
  | durable request =>
    cases answer with
    | none =>
      simp [ops, kept, dead, Messages.apply, MessageOutbox.reduce, FailedDurableMessageState.reduce]
    | some answer =>
      cases answer with
      | ok dispatchId => simp [ops, kept, dead, Messages.apply, MessageOutbox.reduce]
      | error error =>
        by_cases hretry : attempts + 1 < maxDurableAttempts
        · simp [ops, kept, dead, hretry, Messages.apply, MessageOutbox.reduce]
        · simp [ops, kept, dead, hretry, Messages.apply, MessageOutbox.reduce,
            FailedDurableMessageState.reduce]

lemma kept_id {answered : Answered} {entry : OutboxEntry} (h : answered.kept = some entry) :
    entry.id = answered.1.id ∧ entry.route = answered.1.route ∧
      entry.attempts = answered.1.attempts + 1 ∧ entry.attempts < maxDurableAttempts ∧
      ∃ request error, answered.1.route = .durable request ∧ answered.2 = some (.error error) := by
  unfold kept at h
  split at h
  · split at h
    · rename_i hretry
      cases h
      exact ⟨rfl, rfl, rfl, hretry, _, _, rfl, rfl⟩
    · cases h
  · cases h

lemma dead_request {answered : Answered} {failed : FailedDurableMessage}
    (h : answered.dead = some failed) : answered.1.route = .durable failed.request := by
  unfold dead at h
  split at h
  · cases h
    rfl
  · split at h
    · cases h
    · cases h
      rfl
  · cases h

end Answered

namespace MessageDispatchHook

variable {self : MessageDispatchHook W} {sink : Option (DurableMessageSink W)}

lemma dispatch_spec (cmd : StateCommand (backgroundKeys codecs)) (world : W) (log : List Call)
    (entry : OutboxEntry) :
    ∃ (cmd' : StateCommand (backgroundKeys codecs)) (world' : W) (answer : Option (Except String String)),
      self.dispatch sink (cmd, world) entry = (cmd', world') ∧
      self.recorded.dispatch (sink.map recordedSink) (cmd, world, log) entry =
        (cmd', world', log ++ (Answered.call (entry, answer)).toList) ∧
      cmd'.patch.ops = cmd.patch.ops ++ Answered.ops (entry, answer) ∧
      Answered.Asked sink (entry, answer) := by
  obtain ⟨id, route, attempts⟩ := entry
  cases route with
  | childInbox taskId ownerThreadId senderAgentId message =>
    exact ⟨_, _, none, rfl, by simp [dispatch, recorded, Answered.call], rfl, rfl⟩
  | durable request =>
    cases sink with
    | none =>
      refine ⟨_, _, none, rfl, by simp [dispatch, Answered.call], ?_, rfl⟩
      simp [deadLetter, StateCommand.update, MutationBatch.update, MutationBatch.push, Answered.ops]
    | some send =>
      cases hanswer : send request world with
      | mk answer world' =>
        refine ⟨settle cmd ⟨id, .durable request, attempts⟩ request answer, world', some answer, ?_,
          ?_, ?_, rfl⟩
        · simp only [dispatch, hanswer]
        · simp only [dispatch, Option.map_some, recordedSink, hanswer, Answered.call, Option.toList_some]
        · cases answer with
          | ok dispatchId => rfl
          | error error =>
            by_cases hretry : attempts + 1 < maxDurableAttempts
            · simp [settle, hretry, StateCommand.update, MutationBatch.update, MutationBatch.push,
                Answered.ops]
            · simp [settle, hretry, deadLetter, StateCommand.update, MutationBatch.update,
                MutationBatch.push, Answered.ops]

lemma dispatchAll_spec (entries : List OutboxEntry) (cmd : StateCommand (backgroundKeys codecs))
    (world : W) (log : List Call) :
    ∃ answered : List Answered, answered.map Prod.fst = entries ∧
      (∀ a ∈ answered, Answered.Asked sink a) ∧
      (entries.foldl (self.dispatch sink) (cmd, world)).1.patch.ops =
        cmd.patch.ops ++ answered.flatMap Answered.ops ∧
      (entries.foldl (self.recorded.dispatch (sink.map recordedSink)) (cmd, world, log)).2.2 =
        log ++ answered.filterMap Answered.call := by
  induction entries generalizing cmd world log with
  | nil => exact ⟨[], rfl, by simp, by simp, by simp⟩
  | cons entry entries ih =>
    obtain ⟨cmd', world', answer, hplain, hrecorded, hops, hasked⟩ :=
      @dispatch_spec J W codecs self sink cmd world log entry
    obtain ⟨answered, hentries, hall, hrest, hlog⟩ :=
      ih cmd' world' (log ++ (Answered.call (entry, answer)).toList)
    refine ⟨(entry, answer) :: answered, by rw [List.map_cons, hentries],
      List.forall_mem_cons.mpr ⟨hasked, hall⟩, ?_, ?_⟩
    · rw [List.foldl_cons, hplain, hrest, hops, List.append_assoc, List.flatMap_cons]
    · rw [List.foldl_cons, hrecorded, hlog, List.append_assoc]
      cases hcall : Answered.call (entry, answer) with
      | none => rw [List.filterMap_cons_none hcall]; rfl
      | some call => rw [List.filterMap_cons_some hcall]; rfl

theorem run_spec (self : MessageDispatchHook W) (ambient : Option (DurableMessageSink W))
    (snapshot : Snapshot (backgroundKeys codecs)) (world : W) :
    ∃ answered : List Answered, answered.map Prod.fst = (messagesOf snapshot.ext).pending ∧
      (∀ a ∈ answered, Answered.Asked (self.durableSink.or ambient) a) ∧
      (self.run ambient snapshot world).1.patch.ops = answered.flatMap Answered.ops ∧
      self.calls ambient snapshot world = answered.filterMap Answered.call := by
  obtain ⟨answered, hentries, hall, hops, hlog⟩ := @dispatchAll_spec J W codecs self
    (self.durableSink.or ambient) (messagesOf snapshot.ext).pending .new world []
  refine ⟨answered, hentries, hall, hops, ?_⟩
  have hsink : self.recorded.durableSink.or (ambient.map recordedSink) =
      (self.durableSink.or ambient).map recordedSink := by
    cases hsink : self.durableSink <;> simp [recorded, hsink]
  rw [calls, run, hsink]
  exact hlog

end MessageDispatchHook

lemma apply_answered {answered : List Answered} {rest : List OutboxEntry}
    {failed : List FailedDurableMessage}
    (hids : (answered.map (fun a => a.1.id)).Nodup)
    (hrest : ∀ entry ∈ rest, entry.id ∉ answered.map (fun a => a.1.id)) :
    (answered.flatMap (Answered.ops : Answered → List (MutationOp (backgroundKeys codecs)))).foldl Messages.apply
        ⟨answered.map Prod.fst ++ rest, failed⟩ =
      ⟨rest ++ answered.filterMap Answered.kept, failed ++ answered.filterMap Answered.dead⟩ := by
  induction answered generalizing rest failed with
  | nil => simp
  | cons a answered ih =>
    rw [List.map_cons] at hids hrest
    obtain ⟨ha, hids⟩ := List.nodup_cons.mp hids
    have hothers : (answered.map Prod.fst ++ rest).filter (fun entry => entry.id ≠ a.1.id) =
        answered.map Prod.fst ++ rest := by
      refine List.filter_eq_self.mpr (fun entry hentry => ?_)
      rcases List.mem_append.mp hentry with hmem | hmem
      · obtain ⟨b, hb, rfl⟩ := List.mem_map.mp hmem
        have hne : b.1.id ≠ a.1.id := fun heq => ha (heq ▸ List.mem_map_of_mem hb)
        simpa using hne
      · have hne : entry.id ≠ a.1.id := fun heq => hrest entry hmem (heq ▸ List.mem_cons_self)
        simpa using hne
    rw [List.flatMap_cons, List.foldl_append, Answered.apply_ops, List.map_cons, List.cons_append,
      List.filter_cons_of_neg (by simp), hothers, List.append_assoc, ih hids]
    · cases hk : a.kept <;> cases hd : a.dead <;> simp [hk, hd]
    · intro entry hentry
      rcases List.mem_append.mp hentry with hmem | hmem
      · exact fun hin => hrest entry hmem (List.mem_cons_of_mem _ hin)
      · obtain ⟨hid, -⟩ := Answered.kept_id (Option.mem_toList.mp hmem)
        rw [hid]
        exact ha

end Hook

end Awaken.Background
