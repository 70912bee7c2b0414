import Awaken.LoopRunner.Checkpoint

namespace Awaken.LoopRunner

open Awaken.Lib Awaken.Contract Awaken.Contract.Storage
open Awaken.Contract.MessageAppend Awaken.Stores.MemoryStore

variable {J C : Type} {identity : RunIdentity} {isSummaryText : List C → Bool}

section Property

def LoopWorld.log (identity : RunIdentity) (w : LoopWorld J C) : List (Message J C) :=
  w.store.committed identity.threadId

def RecordMatches (log : List (Message J C)) (record : Option (RunRecord J)) : Prop :=
  ∀ output, record.bind (·.output) = some output → OutputMatches log output

/-- What the last checkpoint had is in the log, once and in the order of the live list, and the
recorded output is that of its range. -/
structure AppendsOnce (identity : RunIdentity) (w : LoopWorld J C) : Prop where
  once : ∀ message ∈ w.live.take w.checkpointed,
    ∃ id, message.id = some id ∧ (messageIds (w.log identity)).count id = 1
  inOrder : (messageIds (w.live.take w.checkpointed)).Sublist (messageIds (w.log identity))
  output : RecordMatches (w.log identity) (w.store.loadRun identity.runId)

def CommittedFirst (identity : RunIdentity) (w : LoopWorld J C) : Prop :=
  ∃ k, (messageIds (w.live.take k)).Sublist (messageIds (w.log identity)) ∧
    ∀ id ∈ messageIds (w.live.drop k), id ∉ messageIds (w.log identity)

/-- The condition on a transition: a checkpoint finds the committed messages first. -/
def CommitsInTurn (identity : RunIdentity) (τ : Transition (LoopWorld J C) (LoopLabel J C)) : Prop :=
  ∀ now, τ.label = .commit now → CommittedFirst identity τ.pre

end Property

section Invariant

def Job.Sound (identity : RunIdentity) (log : List (Message J C)) (job : Job J) : Prop :=
  RecordMatches log job.previous ∧ job.base.runId = identity.runId

def CheckpointPhase.Sound (identity : RunIdentity) (log : List (Message J C)) :
    CheckpointPhase J C → Prop
  | .idle => True
  | .reading _ job => job.Sound identity log
  | .committing _ job committed => job.Sound identity log ∧ committed <+: log

structure LoopWorld.Sound (identity : RunIdentity) (w : LoopWorld J C) : Prop where
  valid : validateCommittedMessages (w.log identity) = .ok ()
  stored : RecordMatches (w.log identity) (w.store.loadRun identity.runId)
  cached : RecordMatches (w.log identity) w.runCache
  phase : w.phase.Sound identity (w.log identity)
  within : w.checkpointed ≤ w.live.length
  there : ∀ message ∈ w.live.take w.checkpointed,
    ∃ id ∈ messageIds (w.log identity), message.id = some id

lemma sound_start : (LoopWorld.start : LoopWorld J C).Sound identity where
  valid := rfl
  stored _ h := by cases h
  cached _ h := by cases h
  phase := trivial
  within := le_rfl
  there _ h := by cases h

lemma appendsOnce_start : AppendsOnce identity (LoopWorld.start : LoopWorld J C) where
  once _ h := by cases h
  inOrder := .slnil
  output _ h := by cases h

lemma RecordMatches.append {log : List (Message J C)} {record : Option (RunRecord J)}
    (h : RecordMatches log record) (delta : List (Message J C)) :
    RecordMatches (log ++ delta) record :=
  fun output houtput => (h output houtput).append delta

lemma CheckpointPhase.Sound.append {log : List (Message J C)} {phase : CheckpointPhase J C}
    (h : phase.Sound identity log) (delta : List (Message J C)) :
    phase.Sound identity (log ++ delta) := by
  cases phase with
  | idle => trivial
  | reading attempts job => exact ⟨h.1.append delta, h.2⟩
  | committing attempts job committed =>
    exact ⟨⟨h.1.1.append delta, h.1.2⟩, h.2.trans (List.prefix_append log delta)⟩

lemma messageIds_append (log delta : List (Message J C)) :
    messageIds (log ++ delta) = messageIds log ++ messageIds delta := List.filterMap_append

lemma count_of_mem {log : List (Message J C)} (hvalid : validateCommittedMessages log = .ok ())
    {id : String} (h : id ∈ messageIds log) : (messageIds log).count id = 1 :=
  List.count_eq_one_of_mem (validateCommittedMessages_ids hvalid).2 h

structure Commits (identity : RunIdentity) (live log delta : List (Message J C))
    (store : InMemoryStore J C) : Prop where
  accepted : validateAppendOnlyDelta log delta = .ok ()
  new : delta.map (·.id) = (live.filter (IsNew log)).map (·.id)
  committed : store.committed identity.threadId = log ++ delta
  stored : RecordMatches (log ++ delta) (store.loadRun identity.runId)

lemma messageIds_take {live : List (Message J C)} (h : ∀ message ∈ live, message.id.isSome) (k : Nat) :
    messageIds (live.take k) = (messageIds live).take k ∧
      messageIds (live.drop k) = (messageIds live).drop k := by
  have hmap : ∀ l : List (Message J C), (∀ message ∈ l, message.id.isSome) →
      messageIds l = l.map fun message => message.id.getD "" := by
    intro l hl
    induction l with
    | nil => rfl
    | cons message l ih =>
      rw [messageIds_cons (hl message List.mem_cons_self),
        ih fun m hm => hl m (List.mem_cons_of_mem _ hm), List.map_cons]
  rw [hmap live h, hmap _ fun m hm => h m (List.mem_of_mem_take hm),
    hmap _ fun m hm => h m (List.mem_of_mem_drop hm), List.map_take, List.map_drop]
  exact ⟨rfl, rfl⟩

lemma Commits.ids {live log delta : List (Message J C)} {store : InMemoryStore J C}
    (h : Commits identity live log delta store) :
    messageIds delta = messageIds (live.filter (IsNew log)) := by
  have hjoin : ∀ l : List (Message J C), messageIds l = (l.map (·.id)).filterMap id := by
    intro l
    rw [messageIds, List.filterMap_map]
    rfl
  rw [hjoin, hjoin, h.new]

lemma isNew_iff {log : List (Message J C)} {message : Message J C} {id : String}
    (hid : message.id = some id) : IsNew log message = true ↔ id ∉ messageIds log := by
  rw [IsNew, hid, Option.bind_some, Option.isNone_iff_eq_none]
  exact committedById_isNone

lemma Commits.there {live log delta : List (Message J C)} {store : InMemoryStore J C}
    (h : Commits identity live log delta store) {message : Message J C} (hmem : message ∈ live) :
    ∃ id ∈ messageIds (log ++ delta), message.id = some id := by
  cases hnew : IsNew log message with
  | false =>
    cases hid : message.id with
    | none =>
      rw [IsNew, hid] at hnew
      cases hnew
    | some id =>
      have hin : id ∈ messageIds log := by
        by_contra hnot
        rw [(isNew_iff hid).mpr hnot] at hnew
        cases hnew
      rw [messageIds_append]
      exact ⟨id, List.mem_append_left _ hin, rfl⟩
  | true =>
    have hin : message.id ∈ delta.map (·.id) := by
      rw [h.new]
      exact List.mem_map_of_mem (List.mem_filter.mpr ⟨hmem, hnew⟩)
    obtain ⟨appended, happended, heq⟩ := List.mem_map.mp hin
    obtain ⟨id, hid⟩ := Option.isSome_iff_exists.mp ((validateDelta_ids h.accepted).1 _ happended)
    refine ⟨id, ?_, heq ▸ hid⟩
    rw [messageIds_append]
    exact List.mem_append_right _ (List.mem_filterMap.mpr ⟨appended, happended, hid⟩)

lemma Commits.inOrder_iff {live log delta : List (Message J C)} {store : InMemoryStore J C}
    (h : Commits identity live log delta store) :
    (messageIds live).Sublist (messageIds (log ++ delta)) ↔
      ∃ k, (messageIds (live.take k)).Sublist (messageIds log) ∧
        ∀ id ∈ messageIds (live.drop k), id ∉ messageIds log := by
  rw [messageIds_append, h.ids]
  constructor
  · intro hsub
    obtain ⟨front, back, heq, hfront, hback⟩ := List.sublist_append_iff.mp hsub
    have hsome : ∀ message ∈ live, message.id.isSome := by
      intro message hmem
      obtain ⟨id, -, hid⟩ := h.there hmem
      rw [hid]
      rfl
    refine ⟨front.length, ?_, fun id hid => ?_⟩
    · rwa [(messageIds_take hsome _).1, heq, List.take_left]
    · rw [(messageIds_take hsome _).2, heq, List.drop_left] at hid
      obtain ⟨message, hmessage, hmid⟩ := List.mem_filterMap.mp (hback.subset hid)
      exact (isNew_iff hmid).mp (List.mem_filter.mp hmessage).2
  · rintro ⟨k, hfront, hback⟩
    have hdrop : (live.drop k).filter (IsNew log) = live.drop k := by
      refine List.filter_eq_self.mpr fun message hmem => ?_
      obtain ⟨id, -, hid⟩ := h.there (List.mem_of_mem_drop hmem)
      exact (isNew_iff hid).mpr (hback id (List.mem_filterMap.mpr ⟨message, hmem, hid⟩))
    have hlive : messageIds live = messageIds (live.take k) ++ messageIds (live.drop k) := by
      rw [← messageIds_append, List.take_append_drop]
    have hfilter : messageIds (live.filter (IsNew log)) =
        messageIds ((live.take k).filter (IsNew log)) ++ messageIds (live.drop k) := by
      rw [← messageIds_append, ← hdrop, ← List.filter_append, List.take_append_drop]
    rw [hlive, hfilter]
    exact hfront.append (List.sublist_append_right _ _)

structure Keeps (identity : RunIdentity) (w w' : LoopWorld J C) : Prop where
  log : ∃ delta, validateAppendOnlyDelta (w.log identity) delta = .ok () ∧
    w'.log identity = w.log identity ++ delta
  stored : w'.store.loadRun identity.runId = w.store.loadRun identity.runId
  checkpointed : w'.live.take w'.checkpointed <+: w.live.take w.checkpointed
  within : w'.checkpointed ≤ w'.live.length

lemma Keeps.of_store {w w' : LoopWorld J C} (hlog : w'.log identity = w.log identity)
    (hruns : w'.store.runs = w.store.runs)
    (hlive : w'.live.take w'.checkpointed <+: w.live.take w.checkpointed)
    (hwithin : w'.checkpointed ≤ w'.live.length) : Keeps identity w w' :=
  ⟨⟨[], rfl, by rw [hlog, List.append_nil]⟩, by rw [InMemoryStore.loadRun, hruns]; rfl, hlive,
    hwithin⟩

lemma Keeps.sound {w w' : LoopWorld J C} (h : Keeps identity w w') (hw : w.Sound identity)
    (hcached : RecordMatches (w.log identity) w'.runCache)
    (hphase : w'.phase.Sound identity (w.log identity)) : w'.Sound identity := by
  obtain ⟨delta, haccepted, hlog⟩ := h.log
  refine ⟨?_, ?_, ?_, ?_, h.within, fun message hmem => ?_⟩
  · rw [hlog]
    exact validateCommittedMessages_append.mpr ⟨hw.valid, haccepted⟩
  · rw [hlog, h.stored]
    exact hw.stored.append delta
  · rw [hlog]
    exact hcached.append delta
  · rw [hlog]
    exact hphase.append delta
  · obtain ⟨id, hin, hid⟩ := hw.there message (h.checkpointed.subset hmem)
    rw [hlog, messageIds_append]
    exact ⟨id, List.mem_append_left _ hin, hid⟩

lemma Keeps.appendsOnce {w w' : LoopWorld J C} (h : Keeps identity w w')
    (hvalid : validateCommittedMessages (w'.log identity) = .ok ()) (hp : AppendsOnce identity w) :
    AppendsOnce identity w' := by
  obtain ⟨delta, -, hlog⟩ := h.log
  refine ⟨fun message hmem => ?_, ?_, ?_⟩
  · obtain ⟨id, hid, hcount⟩ := hp.once message (h.checkpointed.subset hmem)
    refine ⟨id, hid, count_of_mem hvalid ?_⟩
    rw [hlog, messageIds_append]
    exact List.mem_append_left _ (List.count_pos_iff.mp (by omega))
  · rw [hlog, messageIds_append]
    exact ((h.checkpointed.sublist.filterMap _).trans hp.inOrder).trans (List.sublist_append_left _ _)
  · rw [hlog, h.stored]
    exact hp.output.append delta

lemma loadCommittedMessages_ok {s : InMemoryStore J C} {threadId : String}
    {log : Option (List (Message J C))} (h : s.loadCommittedMessages threadId = .ok log) :
    log.getD [] = s.committed threadId := by
  unfold InMemoryStore.loadCommittedMessages at h
  rw [InMemoryStore.committed_eq]
  cases hlog : s.messages.get threadId with
  | none =>
    rw [hlog] at h
    obtain rfl := Except.ok.inj h
    rfl
  | some messages =>
    rw [hlog] at h
    obtain ⟨_, -, hsome⟩ := bind_ok h
    obtain rfl := Except.ok.inj hsome
    rfl

variable [DecidableEq J]

lemma commitCheckpoint_ok {s s' : InMemoryStore J C} {now : Nat} {plan : ThreadCommit J C}
    (h : commitCheckpoint s now plan = (.ok (), s')) :
    InMemoryStore.Appended s plan.threadId plan.messageDelta plan.expectedMessageCount
      plan.runProjection s' := by
  unfold commitCheckpoint at h
  split at h
  · cases h
  · split at h
    · cases h
    · rename_i happend
      obtain rfl := (Prod.mk.inj h).2
      exact InMemoryStore.checkpointAppend_ok happend

lemma commitCheckpoint_error {s s' : InMemoryStore J C} {now : Nat} {plan : ThreadCommit J C}
    {e : CommitError} (h : commitCheckpoint s now plan = (.error e, s')) :
    s'.committed plan.threadId = s.committed plan.threadId ∧ s'.runs = s.runs := by
  unfold commitCheckpoint at h
  split at h
  · obtain rfl := (Prod.mk.inj h).2
    exact ⟨rfl, rfl⟩
  · split at h
    · rename_i happend
      obtain rfl := (Prod.mk.inj h).2
      exact InMemoryStore.checkpointAppend_error happend
    · cases h

lemma LoopWorld.Sound.commits {w : LoopWorld J C} (hw : w.Sound identity) {attempts now : Nat}
    {job : Job J} {committed : List (Message J C)} {store : InMemoryStore J C}
    (hphase : w.phase = .committing attempts job committed)
    (h : commitCheckpoint w.store now (buildPlan identity isSummaryText job w.live committed) =
      (.ok (), store)) :
    ∃ delta, Commits identity w.live (w.log identity) delta store := by
  have hsound := hw.phase
  rw [hphase] at hsound
  obtain ⟨⟨hprevious, hbase⟩, hprefix⟩ := hsound
  have happended := commitCheckpoint_ok h
  obtain rfl : committed = w.log identity :=
    hprefix.eq_of_length (happended.version committed.length rfl)
  refine ⟨_, happended.delta, ?_, happended.committed, ?_⟩
  · exact (stampCompactionMarks_ids _ _ _).trans materializeCheckpointAppend_delta
  · intro output houtput
    have hrun : (buildPlan identity isSummaryText job w.live (w.log identity)).runProjection.runId =
        identity.runId := hbase
    rw [InMemoryStore.loadRun, happended.runs, hrun, Table.get_insert, if_pos rfl, Option.bind_some]
      at houtput
    have hsame : (w.log identity ++
        (buildPlan identity isSummaryText job w.live (w.log identity)).messageDelta).map (·.id) =
        (w.log identity ++ (materializeCheckpointAppend identity (w.log identity)
          job.inputMessageCount w.live job.previous job.stepCount).1).map (·.id) := by
      rw [List.map_append, List.map_append]
      exact congrArg _ (stampCompactionMarks_ids _ _ _)
    intro range hrange
    rw [idAt_congr hsame]
    exact materializeCheckpointAppend_output hprevious houtput range hrange

lemma step_cases {w w' : LoopWorld J C} {l : LoopLabel J C}
    (h : LoopStep identity isSummaryText w l w') (hw : w.Sound identity) :
    ((∀ now, l ≠ .commit now) ∧ Keeps identity w w' ∧
      RecordMatches (w.log identity) w'.runCache ∧ w'.phase.Sound identity (w.log identity)) ∨
    ∃ now delta store, l = .commit now ∧
      Commits identity w.live (w.log identity) delta store ∧
      w' = { w with store := store, checkpointed := w.live.length, phase := .idle } := by
  have hsound := hw.phase
  cases h with
  | others hcall happends =>
    obtain ⟨hrun, hlog⟩ := happends
    exact .inl ⟨(fun _ h => by cases h), ⟨hlog, hrun, List.prefix_rfl, hw.within⟩, hw.cached, hw.phase⟩
  | activate messages cached hidle =>
    refine .inl ⟨(fun _ h => by cases h), .of_store rfl rfl List.nil_prefix (Nat.zero_le _), ?_, hw.phase⟩
    cases cached with
    | false => intro _ h; cases h
    | true => exact hw.stored
  | grow messages hidle =>
    refine .inl ⟨(fun _ h => by cases h), .of_store rfl rfl ?_ ?_, hw.cached, hw.phase⟩
    · exact (List.take_append_of_le_length hw.within).symm ▸ List.prefix_rfl
    · rw [List.length_append]
      exact Nat.le_add_right_of_le hw.within
  | persist hidle hprevious hbase =>
    refine .inl ⟨(fun _ h => by cases h), .of_store rfl rfl List.prefix_rfl hw.within, hw.cached, ?_, hbase⟩
    rw [hprevious, LoopWorld.previous]
    cases hcache : w.runCache with
    | none => exact hw.stored
    | some record =>
      rw [Option.some_or, ← hcache]
      exact hw.cached
  | read hphase hload =>
    rw [hphase] at hsound
    refine .inl ⟨(fun _ h => by cases h), .of_store rfl rfl List.prefix_rfl hw.within, hw.cached, hsound, ?_⟩
    rw [loadCommittedMessages_ok hload]
    exact List.prefix_rfl
  | unread hphase hload =>
    exact .inl ⟨(fun _ h => by cases h), .of_store rfl rfl List.prefix_rfl hw.within, hw.cached, trivial⟩
  | exhausted hphase =>
    exact .inl ⟨(fun _ h => by cases h), .of_store rfl rfl List.prefix_rfl hw.within, hw.cached, trivial⟩
  | commit hphase hcommit =>
    obtain ⟨delta, hdelta⟩ := hw.commits hphase hcommit
    exact .inr ⟨_, delta, _, rfl, hdelta, rfl⟩
  | conflict hphase hcommit hconflict =>
    rw [hphase] at hsound
    obtain ⟨hlog, hruns⟩ := commitCheckpoint_error hcommit
    exact .inl ⟨(fun _ h => by cases h), .of_store hlog hruns List.prefix_rfl hw.within, hw.cached, hsound.1⟩
  | fail hphase hcommit hconflict =>
    obtain ⟨hlog, hruns⟩ := commitCheckpoint_error hcommit
    exact .inl ⟨(fun _ h => by cases h), .of_store hlog hruns List.prefix_rfl hw.within, hw.cached, trivial⟩

lemma sound_step {w w' : LoopWorld J C} {l : LoopLabel J C}
    (h : LoopStep identity isSummaryText w l w') (hw : w.Sound identity) : w'.Sound identity := by
  obtain ⟨-, hkeeps, hcached, hphase⟩ | ⟨now, delta, store, -, hcommits, rfl⟩ := step_cases h hw
  · exact hkeeps.sound hw hcached hphase
  · refine ⟨?_, ?_, ?_, trivial, le_rfl, fun message hmem => ?_⟩
    · rw [LoopWorld.log, hcommits.committed]
      exact validateCommittedMessages_append.mpr ⟨hw.valid, hcommits.accepted⟩
    · rw [LoopWorld.log, hcommits.committed]
      exact hcommits.stored
    · rw [LoopWorld.log, hcommits.committed]
      exact hw.cached.append delta
    · rw [LoopWorld.log, hcommits.committed]
      exact hcommits.there (List.mem_of_mem_take hmem)

lemma appendsOnce_step {w w' : LoopWorld J C} {l : LoopLabel J C}
    (h : LoopStep identity isSummaryText w l w') (hw : w.Sound identity)
    (hp : AppendsOnce identity w) :
    AppendsOnce identity w' ↔ ∀ now, l = .commit now → CommittedFirst identity w := by
  have hw' := sound_step h hw
  obtain ⟨hlabel, hkeeps, -⟩ | ⟨now, delta, store, rfl, hcommits, rfl⟩ := step_cases h hw
  · exact iff_of_true (hkeeps.appendsOnce hw'.valid hp) fun now hl => absurd hl (hlabel now)
  · have horder := hcommits.inOrder_iff
    rw [← hcommits.committed] at horder
    constructor
    · intro hp' now' _
      have hlive := hp'.inOrder
      rw [List.take_length] at hlive
      exact horder.mp hlive
    · intro hfirst
      refine ⟨fun message hmem => ?_, ?_, hw'.stored⟩
      · obtain ⟨id, hin, hid⟩ := hw'.there message hmem
        exact ⟨id, hid, count_of_mem hw'.valid hin⟩
      · rw [List.take_length]
        exact horder.mpr (hfirst now rfl)

end Invariant

variable [DecidableEq J]

/-- Every message of the live list is committed once and in live order, and every recorded range
holds the output, exactly when each checkpoint that is accepted finds the messages that are already
committed at the beginning of the live list, in its order. -/
theorem appends_once_iff {tr : List (Transition (LoopWorld J C) (LoopLabel J C))}
    {w : LoopWorld J C} (h : Run (LoopStep identity isSummaryText) .start tr w) :
    (∀ τ ∈ tr, AppendsOnce identity τ.post) ↔ ∀ τ ∈ tr, CommitsInTurn identity τ :=
  h.always_iff (fun _ _ _ hstep hw => sound_step hstep hw)
    (fun _ hstep hw hp => appendsOnce_step hstep hw hp) sound_start appendsOnce_start

def LoopWorld.checkpoint (identity : RunIdentity) (isSummaryText : List C → Bool)
    (w : LoopWorld J C) (now : Nat) (job : Job J) : LoopWorld J C :=
  { w with
    store := (commitCheckpoint w.store now
      (buildPlan identity isSummaryText job w.live (w.log identity))).2
    checkpointed := w.live.length
    phase := .idle }

lemma reachable_checkpoint {w : LoopWorld J C} {now : Nat} {job : Job J}
    {log : Option (List (Message J C))}
    (h : Reachable (LoopStep identity isSummaryText) .start w) (hidle : w.phase = .idle)
    (hprevious : job.previous = w.previous identity) (hbase : job.base.runId = identity.runId)
    (hload : w.store.loadCommittedMessages identity.threadId = .ok log)
    (hcommit : (commitCheckpoint w.store now
      (buildPlan identity isSummaryText job w.live (w.log identity))).1 = .ok ()) :
    Reachable (LoopStep identity isSummaryText) .start
      (w.checkpoint identity isSummaryText now job) := by
  have hlog := loadCommittedMessages_ok hload
  rw [LoopWorld.log, ← hlog] at hcommit
  have h₂ := (h.step (.persist hidle hprevious hbase)).step (.read rfl hload)
  have h₃ := h₂.step (.commit rfl (Prod.ext hcommit rfl))
  rw [LoopWorld.checkpoint, LoopWorld.log, ← hlog]
  exact h₃

section Steered

def steeredIdentity : RunIdentity := ⟨"thread", "run"⟩

def steeredMessage (id : String) : Message Unit Unit := ⟨some id, .user, [], none, none, .all, none⟩

def steeredJob (w : LoopWorld Unit Unit) : Job Unit where
  previous := w.previous steeredIdentity
  base := { RunRecord.default with runId := "run", threadId := "thread", agentId := "agent" }
  stepCount := 1
  inputMessageCount := 1
  boundaryId := none

def LoopWorld.freeze (w : LoopWorld Unit Unit) (id : String) : LoopWorld Unit Unit :=
  { w with store :=
      (w.store.exec ⟨0, fun _ => id⟩ (.appendMessageRecords "thread" [steeredMessage id])).2 }

def LoopWorld.enlarge (w : LoopWorld Unit Unit) (message : Message Unit Unit) : LoopWorld Unit Unit :=
  { w with live := w.live ++ [message] }

def LoopWorld.persisted (w : LoopWorld Unit Unit) : LoopWorld Unit Unit :=
  w.checkpoint steeredIdentity (fun _ => false) 0 (steeredJob w)

def suspendedWorld : LoopWorld Unit Unit :=
  ((LoopWorld.start.freeze "user").enlarge (steeredMessage "user")
    |>.enlarge (.assistantWithToolCalls "calls" () [⟨"one", "tool", ()⟩, ⟨"two", "tool", ()⟩])).persisted

lemma reachable_suspended :
    Reachable (LoopStep steeredIdentity (fun _ => false)) .start suspendedWorld := by
  have h₁ : Reachable (LoopStep steeredIdentity fun _ : List Unit => false) .start
      (LoopWorld.start.freeze "user") :=
    Reachable.step ⟨_, .nil _⟩ (.others ⟨_, rfl⟩ ⟨rfl, [steeredMessage "user"], rfl, rfl⟩)
  have h₂ := (h₁.step (.grow [steeredMessage "user"] rfl)).step
    (.grow [.assistantWithToolCalls "calls" () [⟨"one", "tool", ()⟩, ⟨"two", "tool", ()⟩]] rfl)
  exact reachable_checkpoint h₂ rfl rfl rfl rfl rfl

theorem appends_once_iff_suspended :
    ∃ tr, Run (LoopStep steeredIdentity fun _ : List Unit => false) .start tr suspendedWorld ∧
      ((∀ τ ∈ tr, AppendsOnce steeredIdentity τ.post) ↔
        ∀ τ ∈ tr, CommitsInTurn steeredIdentity τ) := by
  obtain ⟨tr, hrun⟩ := reachable_suspended
  exact ⟨tr, hrun, appends_once_iff hrun⟩

def steeredWorld : LoopWorld Unit Unit :=
  ((suspendedWorld.enlarge (.tool "result" "one" ())).freeze "steer").enlarge (steeredMessage "steer")

lemma reachable_steered :
    Reachable (LoopStep steeredIdentity (fun _ => false)) .start steeredWorld.persisted := by
  have h₁ := reachable_suspended.step (.grow [.tool "result" "one" ()] rfl)
  have h₂ : Reachable (LoopStep steeredIdentity fun _ : List Unit => false) .start
      ((suspendedWorld.enlarge (.tool "result" "one" ())).freeze "steer") :=
    h₁.step (.others ⟨_, rfl⟩ ⟨rfl, [steeredMessage "steer"], rfl, rfl⟩)
  exact reachable_checkpoint (h₂.step (.grow [steeredMessage "steer"] rfl)) rfl rfl rfl rfl rfl

theorem steered_out_of_order :
    ¬ ∀ (tr : List (Transition (LoopWorld Unit Unit) (LoopLabel Unit Unit)))
      (w : LoopWorld Unit Unit),
      Run (LoopStep steeredIdentity (fun _ => false)) .start tr w →
        ∀ τ ∈ tr, AppendsOnce steeredIdentity τ.post := by
  intro h
  obtain ⟨tr, hrun⟩ := reachable_steered
  have honce := hrun.final appendsOnce_start (h tr _ hrun)
  have horder : ¬ (messageIds (steeredWorld.persisted.live.take 4)).Sublist
      (messageIds (steeredWorld.persisted.log steeredIdentity)) := by decide
  exact horder honce.inOrder

end Steered

end Awaken.LoopRunner
