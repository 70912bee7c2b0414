import Awaken.Stores.MemoryStore.Queue

namespace Awaken.Stores.MemoryStore

open Awaken.Lib Awaken.Contract Awaken.Contract.Storage Awaken.Contract.MessageAppend
open InMemoryStore

variable {J C : Type}

def SelectsExpected (queue : List (PendingMessageRecord J C)) (boundary : DeliveryBoundary)
    (expectedPendingIds : List String) (runId : String) : Prop :=
  pendingIds (picked queue (selectPendingForFreezeForRun queue boundary (some runId))) =
    expectedPendingIds

def SelectionFits (log : List (Message J C)) (queue : List (PendingMessageRecord J C))
    (boundary : DeliveryBoundary) (runId : Option String) : Prop :=
  validateAppendOnlyDelta log
    ((picked queue (selectPendingForFreezeForRun queue boundary runId)).map (·.message)) = .ok ()

namespace InMemoryStore

def hasLog (self : InMemoryStore J C) (threadId : String) : Prop :=
  (self.messages.get threadId).isSome

def hasQueue (self : InMemoryStore J C) (threadId : String) : Prop :=
  (self.pendingMessages.get threadId).isSome

end InMemoryStore

/-- The queues, the logs, the threads and the runs hold the same. -/
structure SameContents (s s' : InMemoryStore J C) : Prop where
  views : ∀ t, s'.view t = s.view t
  threads : s'.threads = s.threads
  runs : s'.runs = s.runs

/-- Threads without a queue or a log stay without one. -/
structure SameEntries (s s' : InMemoryStore J C) : Prop extends SameContents s s' where
  logs : ∀ t, s'.hasLog t ↔ s.hasLog t
  queues : ∀ t, s'.hasQueue t ↔ s.hasQueue t

def Fails {α : Type} (reply : Reply J C α) (s' : InMemoryStore J C) : Prop :=
  ∃ e, reply = (.error e, s')

section Touch

variable {s : InMemoryStore J C} {threadId : String}

lemma hasLog_touchMessages {t : String} :
    (s.touchMessages threadId).hasLog t ↔ t = threadId ∨ s.hasLog t := by
  unfold touchMessages
  split
  · rename_i h
    exact ⟨Or.inr, fun ht => ht.elim (fun he => he ▸ h) id⟩
  · simp only [hasLog, putMessages, Table.get_insert]
    by_cases ht : t = threadId <;> simp [ht]

lemma hasQueue_putPending {t : String} {queue : List (PendingMessageRecord J C)} :
    (s.putPending threadId queue).hasQueue t ↔ t = threadId ∨ s.hasQueue t := by
  simp only [hasQueue, putPending, Table.get_insert]
  by_cases ht : t = threadId <;> simp [ht]

lemma hasQueue_touchPending {t : String} :
    (s.touchPending threadId).hasQueue t ↔ t = threadId ∨ s.hasQueue t := by
  unfold touchPending
  split
  · rename_i h
    exact ⟨Or.inr, fun ht => ht.elim (fun he => he ▸ h) id⟩
  · exact hasQueue_putPending

@[simp] lemma hasLog_touchPending {t : String} : (s.touchPending threadId).hasLog t ↔ s.hasLog t := by
  rw [hasLog, messages_touchPending, hasLog]

@[simp] lemma hasQueue_touchMessages {t : String} :
    (s.touchMessages threadId).hasQueue t ↔ s.hasQueue t := by
  rw [hasQueue, pendingMessages_touchMessages, hasQueue]

lemma same_touchMessages : SameContents s (s.touchMessages threadId) := by
  refine ⟨view_touchMessages s threadId, ?_, ?_⟩ <;> unfold touchMessages <;> split <;> rfl

lemma same_touchPending (s : InMemoryStore J C) (threadId : String) :
    SameContents s (s.touchPending threadId) := by
  refine ⟨view_touchPending s threadId, ?_, ?_⟩ <;> unfold touchPending <;> split <;> rfl

lemma SameContents.trans {s' u : InMemoryStore J C} (h : SameContents s s')
    (h' : SameContents s' u) : SameContents s u :=
  ⟨fun t => (h'.views t).trans (h.views t), h'.threads.trans h.threads, h'.runs.trans h.runs⟩

lemma SameContents.refl (s : InMemoryStore J C) : SameContents s s := ⟨fun _ => rfl, rfl, rfl⟩

lemma SameEntries.refl (s : InMemoryStore J C) : SameEntries s s :=
  ⟨.refl s, fun _ => Iff.rfl, fun _ => Iff.rfl⟩

lemma sameEntries_iff_hasQueue {s' : InMemoryStore J C} (h : SameContents s s')
    (hl : ∀ t, s'.hasLog t ↔ s.hasLog t) (hq : ∀ t, s'.hasQueue t ↔ t = threadId ∨ s.hasQueue t) :
    SameEntries s s' ↔ s.hasQueue threadId := by
  constructor
  · intro he
    exact (he.queues threadId).mp ((hq threadId).mpr (Or.inl rfl))
  · intro hqueue
    refine ⟨h, hl, fun t => (hq t).trans (or_iff_right_of_imp ?_)⟩
    rintro rfl
    exact hqueue

lemma sameContents_touchMessages {u : InMemoryStore J C} :
    SameContents s (u.touchMessages threadId) ↔ SameContents s u := by
  have h : SameContents u (u.touchMessages threadId) := same_touchMessages
  constructor
  · intro hs
    exact ⟨fun t => (h.views t).symm.trans (hs.views t), h.threads.symm.trans hs.threads,
      h.runs.symm.trans hs.runs⟩
  · intro hs
    exact hs.trans h

lemma sameEntries_touchMessages {u : InMemoryStore J C} (hu : ∀ t, u.hasLog t ↔ s.hasLog t) :
    SameEntries s (u.touchMessages threadId) ↔ SameEntries s u ∧ s.hasLog threadId := by
  constructor
  · intro h
    have hlog := (h.logs threadId).mp (hasLog_touchMessages.mpr (Or.inl rfl))
    exact ⟨⟨(sameContents_touchMessages).mp h.toSameContents, hu,
      fun t => (hasQueue_touchMessages).symm.trans (h.queues t)⟩, hlog⟩
  · rintro ⟨h, hlog⟩
    refine ⟨(sameContents_touchMessages).mpr h.toSameContents, fun t => ?_,
      fun t => (hasQueue_touchMessages).trans (h.queues t)⟩
    rw [hasLog_touchMessages, hu]
    refine or_iff_right_of_imp ?_
    rintro rfl
    exact hlog

lemma sameEntries_touchPending : SameEntries s (s.touchPending threadId) ↔ s.hasQueue threadId :=
  sameEntries_iff_hasQueue (same_touchPending s threadId) (fun _ => hasLog_touchPending)
    (fun _ => hasQueue_touchPending)

end Touch

section Failures

variable {s s' : InMemoryStore J C} {threadId : String} {boundary : DeliveryBoundary}
  {expected : Option Nat} {draw : Draw}

lemma freezeSelected_fails {gen : Nat → String} (boundary : DeliveryBoundary)
    (runId : Option String) :
    Fails (s.freezeSelected gen threadId
      (selectPendingForFreezeForRun (s.pending threadId) boundary runId)) s' ↔
      ¬ SelectionFits (s.committed threadId) (s.pending threadId) boundary runId ∧
        s' = s.touchMessages threadId := by
  unfold freezeSelected Fails SelectionFits
  dsimp only
  rw [committed_touchMessages, pending_touchMessages]
  split
  · rename_i e he
    simp [he, eq_comm]
  · rename_i hok
    simp [hok]

lemma freezePending_fails {gen : Nat → String} :
    Fails (s.freezePendingMessageRecords gen threadId boundary expected) s' ↔
      (checkVersion expected (s.committed threadId).length ≠ .ok () ∨
        ¬ SelectionFits (s.committed threadId) (s.pending threadId) boundary none) ∧
        s' = s.touchMessages threadId := by
  have hnone : selectPendingForFreezeForRun (s.pending threadId) boundary none = [] →
      SelectionFits (s.committed threadId) (s.pending threadId) boundary none := by
    intro h
    rw [SelectionFits, h]
    rfl
  unfold freezePendingMessageRecords
  dsimp only
  rw [committed_touchMessages, pendingMessages_touchMessages]
  split
  · rename_i e he
    simp [Fails, he, eq_comm]
  · rename_i hversion
    split
    · rename_i hget
      have hfits := hnone (by rw [InMemoryStore.pending, hget]; rfl)
      simp [Fails, hversion, hfits]
    · rename_i pending hget
      have hpending : s.pending threadId = pending := by
        rw [InMemoryStore.pending, hget, Option.getD_some]
      rw [← hpending]
      split
      · rename_i hempty
        have hfits := hnone (List.isEmpty_iff.mp hempty)
        simp [Fails, hversion, hfits]
      · rw [freezeSelected_touchMessages]
        simp only [hversion, ne_eq, not_true, false_or]
        exact freezeSelected_fails boundary none

variable [DecidableEq J] {ids : List String} {run : RunRecord J}

omit [DecidableEq J] in
lemma freezeExpected_fails {gen : Nat → String} {now : Nat} :
    Fails (s.freezeExpected gen now threadId boundary ids run) s' ↔
      (¬ SelectsExpected (s.pending threadId) boundary ids run.runId ∧ s' = s) ∨
      (SelectsExpected (s.pending threadId) boundary ids run.runId ∧
        ¬ SelectionFits (s.committed threadId) (s.pending threadId) boundary (some run.runId) ∧
        s' = s.touchMessages threadId) := by
  unfold freezeExpected
  dsimp only
  split
  · rename_i hne
    have hsel : ¬ SelectsExpected (s.pending threadId) boundary ids run.runId := hne
    simp [Fails, hsel, eq_comm]
  · rename_i heq
    have hsel : SelectsExpected (s.pending threadId) boundary ids run.runId := not_not.mp heq
    have hf : Fails (s.freezeSelected gen threadId _) s' ↔ _ :=
      freezeSelected_fails boundary (some run.runId)
    simp only [hsel, not_true, false_and, true_and, false_or]
    rw [← hf]
    split
    · rename_i heq
      rw [heq]
    · rename_i heq
      rw [heq]
      simp [Fails]

lemma freezePendingWithRun_fails {gen : Nat → String} {now : Nat} :
    Fails (s.freezePendingMessageRecordsWithRun gen now threadId boundary expected ids run) s' ↔
      (s.checkFreeze threadId expected run ≠ .ok () ∧ s' = s) ∨
      (s.checkFreeze threadId expected run = .ok () ∧
        ((¬ SelectsExpected (s.pending threadId) boundary ids run.runId ∧
          s' = s.touchPending threadId) ∨
        (SelectsExpected (s.pending threadId) boundary ids run.runId ∧
          ¬ SelectionFits (s.committed threadId) (s.pending threadId) boundary (some run.runId) ∧
          s' = (s.touchPending threadId).touchMessages threadId))) := by
  unfold freezePendingMessageRecordsWithRun
  split
  · rename_i e he
    simp [Fails, he, eq_comm]
  · rename_i hcheck
    rw [freezeExpected_fails, pending_touchPending, committed_touchPending]
    simp only [hcheck, ne_eq, not_true, false_and, true_and, false_or]

def extendedQueue (draw : Draw) (s : InMemoryStore J C) (threadId : String)
    (messages : List (Message J C)) (mode : DeliveryMode) : List (PendingMessageRecord J C) :=
  s.pending threadId ++ newPendingRecords draw.gen (draw.now / 1000) threadId
    ((s.pending threadId).length + 1) mode messages

def refusedStore (draw : Draw) (s : InMemoryStore J C) (threadId : String)
    (messages : List (Message J C)) (mode : DeliveryMode) : InMemoryStore J C :=
  (s.touchPending threadId).putPending threadId (extendedQueue draw s threadId messages mode)

def QueueFits (draw : Draw) (s : InMemoryStore J C) (threadId : String)
    (messages : List (Message J C)) (mode : DeliveryMode) : Prop :=
  s.checkNewPending threadId (pendingIds (s.pending threadId))
    (newPendingRecords draw.gen (draw.now / 1000) threadId ((s.pending threadId).length + 1) mode
      messages) = .ok ()

omit [DecidableEq J] in
lemma checkNewPending_touchPending (t : String) (seen : List String)
    (records : List (PendingMessageRecord J C)) :
    (s.touchPending threadId).checkNewPending t seen records = s.checkNewPending t seen records := by
  induction records generalizing seen with
  | nil => rfl
  | cons record records ih =>
    simp only [checkNewPending, ih, committedMessageExists, committed_touchPending]
    rfl

lemma appendAndFreeze_fails {messages : List (Message J C)} {mode : DeliveryMode} :
    Fails (s.appendAndFreezePendingMessageRecordsWithRun draw.gen draw.now threadId messages mode
      boundary expected ids run) s' ↔
      (s.checkFreeze threadId expected run ≠ .ok () ∧ s' = s) ∨
      (s.checkFreeze threadId expected run = .ok () ∧
        ((¬ QueueFits draw s threadId messages mode ∧ s' = s.touchPending threadId) ∨
        (QueueFits draw s threadId messages mode ∧
          let queue := extendedQueue draw s threadId messages mode
          ((¬ SelectsExpected queue boundary ids run.runId ∧
            s' = refusedStore draw s threadId messages mode) ∨
          (SelectsExpected queue boundary ids run.runId ∧
            ¬ SelectionFits (s.committed threadId) queue boundary (some run.runId) ∧
            s' = (refusedStore draw s threadId messages mode).touchMessages threadId))))) := by
  unfold appendAndFreezePendingMessageRecordsWithRun
  split
  · rename_i e he
    simp [Fails, he, eq_comm]
  · rename_i hcheck
    simp only [hcheck, ne_eq, not_true, false_and, true_and, false_or]
    unfold appendPendingMessageRecords
    dsimp only
    rw [pending_touchPending, checkNewPending_touchPending]
    cases hqueue : s.checkNewPending threadId
        (pendingIds (s.pending threadId)) (newPendingRecords draw.gen (draw.now / 1000) threadId
          ((s.pending threadId).length + 1) mode messages) with
    | error e =>
      have hfits : ¬ QueueFits draw s threadId messages mode := by
        rw [QueueFits, hqueue]
        intro h
        cases h
      simp [Fails, hfits, eq_comm]
    | ok u =>
      have hfits : QueueFits draw s threadId messages mode := hqueue
      simp only [hfits, not_true, false_and, true_and, false_or]
      have hpending : (refusedStore draw s threadId messages mode).pending threadId =
          extendedQueue draw s threadId messages mode :=
        congrArg ThreadView.pending (view_putPending_self _)
      have hcommitted : (refusedStore draw s threadId messages mode).committed threadId =
          s.committed threadId :=
        (congrArg ThreadView.committed (view_putPending_self _)).trans
          (committed_touchPending s threadId threadId)
      rw [← extendedQueue, ← refusedStore, freezeExpected_fails, hpending, hcommitted]

end Failures

section Left

variable {s : InMemoryStore J C} {threadId : String} {draw : Draw} {messages : List (Message J C)}
  {mode : DeliveryMode}

lemma extendedQueue_eq_iff (draw : Draw) (s : InMemoryStore J C) (threadId : String)
    (messages : List (Message J C)) (mode : DeliveryMode) :
    extendedQueue draw s threadId messages mode = s.pending threadId ↔ messages = [] := by
  rw [extendedQueue, List.append_right_eq_self, newPendingRecords, List.mapIdx_eq_nil_iff]

lemma sameContents_refusedStore :
    SameContents s (refusedStore draw s threadId messages mode) ↔ messages = [] := by
  rw [← extendedQueue_eq_iff draw s threadId messages mode]
  constructor
  · intro h
    have hview := h.views threadId
    rw [refusedStore, view_putPending_self] at hview
    exact congrArg ThreadView.pending hview
  · intro h
    have hview : ∀ t, (refusedStore draw s threadId messages mode).view t = s.view t := by
      intro t
      by_cases ht : t = threadId
      · rw [ht, refusedStore, view_putPending_self, committed_touchPending, h]
        rfl
      · rw [refusedStore, elsewhere_putPending _ _ _ t ht, view_touchPending]
    refine ⟨hview, ?_, ?_⟩
    · exact (same_touchPending s threadId).threads
    · exact (same_touchPending s threadId).runs

lemma sameEntries_refusedStore :
    SameEntries s (refusedStore draw s threadId messages mode) ↔
      messages = [] ∧ s.hasQueue threadId := by
  have hq : ∀ t, (refusedStore draw s threadId messages mode).hasQueue t ↔
      t = threadId ∨ s.hasQueue t := by
    intro t
    rw [refusedStore, hasQueue_putPending, hasQueue_touchPending, ← or_assoc, or_self]
  constructor
  · intro h
    have hm := (sameContents_refusedStore).mp h.toSameContents
    exact ⟨hm, (h.queues threadId).mp ((hq threadId).mpr (Or.inl rfl))⟩
  · rintro ⟨hm, hqueue⟩
    exact (sameEntries_iff_hasQueue (sameContents_refusedStore.mpr hm) (fun _ => hasLog_touchPending)
      hq).mpr hqueue

end Left

section Atomicity

variable [DecidableEq J]

def StoreCall.Freezes : StoreCall J C → Prop
  | .freezePending .. | .freezePendingWithRun .. | .appendAndFreezePendingWithRun .. => True
  | _ => False

/-- When the call fails the store is as before. -/
def FailureKeeps (same : InMemoryStore J C → InMemoryStore J C → Prop) (draw : Draw)
    (s : InMemoryStore J C) (call : StoreCall J C) : Prop :=
  ∀ e s', s.exec draw call = (.error e, s') → same s s'

/-- No new message is queued for a selection that is then refused. -/
def QueuesNothingRefused (draw : Draw) (s : InMemoryStore J C) : StoreCall J C → Prop
  | .appendAndFreezePendingWithRun threadId messages mode boundary expected ids run =>
    let queue := extendedQueue draw s threadId messages mode
    messages = [] ∨ s.checkFreeze threadId expected run ≠ .ok () ∨
      ¬ QueueFits draw s threadId messages mode ∨
      (SelectsExpected queue boundary ids run.runId ∧
        SelectionFits (s.committed threadId) queue boundary (some run.runId))
  | _ => True

/-- No queue and no log is made before a check that fails. -/
def MakesNothingRefused (draw : Draw) (s : InMemoryStore J C) : StoreCall J C → Prop
  | .freezePending threadId boundary expected =>
    s.hasLog threadId ∨ (checkVersion expected (s.committed threadId).length = .ok () ∧
      SelectionFits (s.committed threadId) (s.pending threadId) boundary none)
  | .freezePendingWithRun threadId boundary expected ids run =>
    s.checkFreeze threadId expected run = .ok () →
      (SelectsExpected (s.pending threadId) boundary ids run.runId ∧
        SelectionFits (s.committed threadId) (s.pending threadId) boundary (some run.runId)) ∨
      (s.hasQueue threadId ∧
        (SelectsExpected (s.pending threadId) boundary ids run.runId → s.hasLog threadId))
  | .appendAndFreezePendingWithRun threadId messages mode boundary expected ids run =>
    let queue := extendedQueue draw s threadId messages mode
    s.checkFreeze threadId expected run = .ok () →
      (QueueFits draw s threadId messages mode ∧ SelectsExpected queue boundary ids run.runId ∧
        SelectionFits (s.committed threadId) queue boundary (some run.runId)) ∨
      (s.hasQueue threadId ∧ (QueueFits draw s threadId messages mode →
        SelectsExpected queue boundary ids run.runId → s.hasLog threadId))
  | _ => True

lemma failureKeeps_iff {α : Type} {same : InMemoryStore J C → InMemoryStore J C → Prop}
    {draw : Draw} {s : InMemoryStore J C} {call : StoreCall J C} (reply : Reply J C α)
    {tag : α → StoreValue J C} (h : s.exec draw call = reply.tag tag) :
    FailureKeeps same draw s call ↔ ∀ s', Fails reply s' → same s s' := by
  obtain ⟨result, u⟩ := reply
  rw [FailureKeeps, h]
  cases result with
  | error e => simp [Fails, Reply.tag, Except.map]
  | ok a => simp [Fails, Reply.tag, Except.map]

lemma keeps_freezePending {same : InMemoryStore J C → InMemoryStore J C → Prop} {draw : Draw}
    {s : InMemoryStore J C} {threadId : String} {boundary : DeliveryBoundary}
    {expected : Option Nat} :
    FailureKeeps same draw s (.freezePending threadId boundary expected) ↔
      (checkVersion expected (s.committed threadId).length = .ok () →
        ¬ SelectionFits (s.committed threadId) (s.pending threadId) boundary none →
        same s (s.touchMessages threadId)) ∧
      (checkVersion expected (s.committed threadId).length ≠ .ok () →
        same s (s.touchMessages threadId)) := by
  rw [failureKeeps_iff (s.freezePendingMessageRecords draw.gen threadId boundary expected)
    rfl]
  simp only [freezePending_fails]
  grind

lemma keeps_freezePendingWithRun {same : InMemoryStore J C → InMemoryStore J C → Prop} {draw : Draw}
    {s : InMemoryStore J C} {threadId : String} {boundary : DeliveryBoundary}
    {expected : Option Nat} {ids : List String} {run : RunRecord J} :
    FailureKeeps same draw s (.freezePendingWithRun threadId boundary expected ids run) ↔
      (s.checkFreeze threadId expected run ≠ .ok () → same s s) ∧
      (s.checkFreeze threadId expected run = .ok () →
        (¬ SelectsExpected (s.pending threadId) boundary ids run.runId →
          same s (s.touchPending threadId)) ∧
        (SelectsExpected (s.pending threadId) boundary ids run.runId →
          ¬ SelectionFits (s.committed threadId) (s.pending threadId) boundary (some run.runId) →
          same s ((s.touchPending threadId).touchMessages threadId))) := by
  rw [failureKeeps_iff (s.freezePendingMessageRecordsWithRun draw.gen draw.now threadId
    boundary expected ids run) rfl]
  simp only [freezePendingWithRun_fails]
  grind

lemma keeps_appendAndFreeze {same : InMemoryStore J C → InMemoryStore J C → Prop} {draw : Draw}
    {s : InMemoryStore J C} {threadId : String} {messages : List (Message J C)}
    {mode : DeliveryMode} {boundary : DeliveryBoundary} {expected : Option Nat} {ids : List String}
    {run : RunRecord J} :
    FailureKeeps same draw s
      (.appendAndFreezePendingWithRun threadId messages mode boundary expected ids run) ↔
      let queue := extendedQueue draw s threadId messages mode
      (s.checkFreeze threadId expected run ≠ .ok () → same s s) ∧
      (s.checkFreeze threadId expected run = .ok () →
        (¬ QueueFits draw s threadId messages mode → same s (s.touchPending threadId)) ∧
        (QueueFits draw s threadId messages mode →
          (¬ SelectsExpected queue boundary ids run.runId →
            same s (refusedStore draw s threadId messages mode)) ∧
          (SelectsExpected queue boundary ids run.runId →
            ¬ SelectionFits (s.committed threadId) queue boundary (some run.runId) →
            same s ((refusedStore draw s threadId messages mode).touchMessages threadId)))) := by
  rw [failureKeeps_iff (s.appendAndFreezePendingMessageRecordsWithRun draw.gen draw.now
    threadId messages mode boundary expected ids run) rfl]
  simp only [appendAndFreeze_fails]
  grind

lemma keepsContents_iff (draw : Draw) (s : InMemoryStore J C) {call : StoreCall J C}
    (h : call.Freezes) :
    FailureKeeps SameContents draw s call ↔ QueuesNothingRefused draw s call := by
  cases call with
  | freezePending threadId boundary expected =>
    rw [keeps_freezePending]
    exact iff_of_true ⟨fun _ _ => same_touchMessages, fun _ => same_touchMessages⟩ trivial
  | freezePendingWithRun threadId boundary expected ids run =>
    rw [keeps_freezePendingWithRun]
    exact iff_of_true ⟨fun _ => .refl s, fun _ => ⟨fun _ => same_touchPending s threadId,
      fun _ _ => (same_touchPending s threadId).trans same_touchMessages⟩⟩ trivial
  | appendAndFreezePendingWithRun threadId messages mode boundary expected ids run =>
    rw [keeps_appendAndFreeze, QueuesNothingRefused]
    have hrefl := SameContents.refl s
    have htouch : SameContents s (s.touchPending threadId) := same_touchPending s threadId
    simp only [sameContents_touchMessages, sameContents_refusedStore]
    grind
  | _ => exact h.elim

lemma keepsEntries_iff (draw : Draw) (s : InMemoryStore J C) {call : StoreCall J C}
    (h : call.Freezes) :
    FailureKeeps SameEntries draw s call ↔
      QueuesNothingRefused draw s call ∧ MakesNothingRefused draw s call := by
  have hrefl := SameEntries.refl s
  cases call with
  | freezePending threadId boundary expected =>
    rw [keeps_freezePending, sameEntries_touchMessages (fun _ => Iff.rfl)]
    simp only [QueuesNothingRefused, MakesNothingRefused]
    grind
  | freezePendingWithRun threadId boundary expected ids run =>
    rw [keeps_freezePendingWithRun, sameEntries_touchMessages (fun _ => hasLog_touchPending),
      sameEntries_touchPending]
    simp only [QueuesNothingRefused, MakesNothingRefused]
    grind
  | appendAndFreezePendingWithRun threadId messages mode boundary expected ids run =>
    have hlog : ∀ t, (refusedStore draw s threadId messages mode).hasLog t ↔ s.hasLog t :=
      fun _ => hasLog_touchPending
    rw [keeps_appendAndFreeze, sameEntries_touchMessages hlog, sameEntries_touchPending,
      sameEntries_refusedStore]
    simp only [QueuesNothingRefused, MakesNothingRefused]
    grind
  | _ => exact h.elim

/-- A freeze that fails changes the contents of no queue, log, thread or run exactly when it
refuses no selection after new messages were queued, and it adds no empty queue or log either
exactly when its checks meet none that is missing. -/
theorem freeze_failure_iff (draw : Draw) (s : InMemoryStore J C) (call : StoreCall J C)
    (h : call.Freezes) :
    (FailureKeeps SameContents draw s call ↔ QueuesNothingRefused draw s call) ∧
      (FailureKeeps SameEntries draw s call ↔
        QueuesNothingRefused draw s call ∧ MakesNothingRefused draw s call) :=
  ⟨keepsContents_iff draw s h, keepsEntries_iff draw s h⟩

def staleCall : StoreCall Unit Unit :=
  .appendAndFreezePendingWithRun "t1" [⟨some "m1", .user, [], none, none, .all, none⟩]
    ⟨.newRun, .batch, false, none, false⟩ .newRun none ["m0", "m1"]
    { RunRecord.default with runId := "r1", threadId := "t1", agentId := "a1" }

theorem freeze_failure_iff_staleCall :
    FailureKeeps SameContents ⟨0, fun _ => ""⟩ .new staleCall ↔
      QueuesNothingRefused ⟨0, fun _ => ""⟩ .new staleCall :=
  (freeze_failure_iff ⟨0, fun _ => ""⟩ .new staleCall trivial).1

theorem refused_freeze_keeps_message :
    ¬ ∀ (draw : Draw) (s : InMemoryStore Unit Unit) (call : StoreCall Unit Unit), call.Freezes →
      FailureKeeps SameContents draw s call := by
  intro h
  have hkeeps := h ⟨0, fun _ => ""⟩ .new staleCall trivial
  have hfreezes : staleCall.Freezes := trivial
  rcases (keepsContents_iff _ _ hfreezes).mp hkeeps with hm | hcheck | hqueue | ⟨hselects, -⟩
  · cases hm
  · exact hcheck (by decide)
  · exact hqueue (by unfold QueueFits; decide)
  · exact absurd hselects (by unfold SelectsExpected; decide)

end Atomicity

end Awaken.Stores.MemoryStore
