import Awaken.Contract.DispatchShape
import Awaken.Stores.MemoryMailbox

/-! What one call does to each stored dispatch and to each thread epoch. Every property of the
runs of the store is derived from `exec_entry` and `exec_epoch`, not from the operations. -/

namespace Awaken.Stores.MemoryMailbox

open Awaken.Lib Awaken.Contract.Mailbox Awaken.Contract.Storage
open Awaken.Stores.MailboxState InMemoryMailboxStore
open RunDispatch (SameIdentity transition_of_eq nacked_same expired_same nacked_epoch expired_epoch)

def interruptedThread : MailboxOp → Option String
  | .interrupt threadId _ => some threadId
  | .interruptDetailed threadId _ => some threadId
  | _ => none

inductive Change (epoch : Nat) (d : RunDispatch) : MailboxOp → RunDispatch → Prop
  | fenced {op : MailboxOp} (now : Nat) (reason : Option String) :
      d.status = .queued ∨ d.status = .claimed → d.dispatchEpoch < epoch →
      Change epoch d op ((d.atEpoch epoch).superseded now reason)
  | claim {consumerId token : String} {leaseMs now limit : Nat} :
      d.status = .queued → epoch ≤ d.dispatchEpoch → d.availableAt ≤ now →
      Change epoch d (.claim d.threadId consumerId leaseMs now limit token)
        (d.claimedFor consumerId token (now + leaseMs) now)
  | claimDispatch {consumerId token : String} {leaseMs now : Nat} :
      d.status = .queued → epoch ≤ d.dispatchEpoch →
      Change epoch d (.claimDispatch d.dispatchId consumerId leaseMs now token)
        (d.claimedFor consumerId token (now + leaseMs) now)
  | ack {token : String} {now : Nat} :
      d.status = .claimed → d.claimToken = some token → epoch ≤ d.dispatchEpoch →
      Change epoch d (.ack d.dispatchId token now) (d.acked now)
  | start {token instanceId : String} {now : Nat} :
      d.status = .claimed → d.claimToken = some token → epoch ≤ d.dispatchEpoch →
      Change epoch d (.recordDispatchStart d.dispatchId token instanceId now)
        (d.started instanceId now)
  | finish {token : String} {result : RunDispatchResult} {now : Nat} :
      d.status = .claimed → d.claimToken = some token → epoch ≤ d.dispatchEpoch →
      result.runId = d.runId →
      Change epoch d (.recordRunResult d.dispatchId token result now) (d.finished result now)
  | nack {token error : String} {retryAt now : Nat} :
      d.status = .claimed → d.claimToken = some token → epoch ≤ d.dispatchEpoch →
      Change epoch d (.nack d.dispatchId token retryAt error now) (d.nacked now retryAt error)
  | deadLetter {token error : String} {now : Nat} :
      d.status = .claimed → d.claimToken = some token → epoch ≤ d.dispatchEpoch →
      Change epoch d (.deadLetter d.dispatchId token error now) (d.deadLettered now error)
  | cancel {now : Nat} :
      d.status = .queued → Change epoch d (.cancel d.dispatchId now) (d.cancelled now)
  | extend {token : String} {extensionMs now : Nat} :
      d.status = .claimed → d.claimToken = some token → epoch ≤ d.dispatchEpoch →
      Change epoch d (.extendLease d.dispatchId token extensionMs now)
        (d.leasedUntil (now + extensionMs) now)
  | interrupt {op : MailboxOp} (now : Nat) :
      interruptedThread op = some d.threadId → d.status = .queued → d.dispatchEpoch ≤ epoch →
      Change epoch d op (d.superseded now (some reasonQueuedSupersededByInterrupt))
  | supersede {token reason : String} {now : Nat} :
      d.status = .claimed → d.claimToken = some token →
      Change epoch d (.supersedeClaimed d.dispatchId token now reason)
        ((d.atEpoch (max d.dispatchEpoch epoch)).superseded now (some reason))
  | expire {now limit : Nat} :
      d.status = .claimed → isExpired now d = true → epoch ≤ d.dispatchEpoch →
      Change epoch d (.reclaimExpiredLeases now limit)
        (d.expired now reasonLeaseExpiredMaxAttempts)

lemma Change.same {epoch : Nat} {d d' : RunDispatch} {op : MailboxOp} (h : Change epoch d op d') :
    SameIdentity d d' := by
  cases h with
  | nack => exact nacked_same _ _ _
  | expire => exact expired_same _ _
  | _ => exact ⟨rfl, rfl, rfl, rfl⟩

lemma Change.wellFormed {epoch : Nat} {d d' : RunDispatch} {op : MailboxOp}
    (h : Change epoch d op d') (hw : d.WellFormed) : d'.WellFormed := by
  cases h with
  | fenced => exact (hw.atEpoch _).superseded _ _
  | claim hs => exact hw.claimedFor hs _ _ _ _
  | claimDispatch hs => exact hw.claimedFor hs _ _ _ _
  | ack => exact hw.acked _
  | start hs => exact hw.started hs _ _
  | finish hs => exact hw.finished hs _ _
  | nack => exact hw.nacked _ _ _
  | deadLetter => exact hw.deadLettered _ _
  | cancel => exact hw.cancelled _
  | extend hs => exact hw.leasedUntil hs _ _
  | interrupt => exact hw.superseded _ _
  | supersede => exact (hw.atEpoch _).superseded _ _
  | expire => exact hw.expired _ _

section Marks

variable {d : RunDispatch}

lemma superseded_valid (hw : d.WellFormed) (ht : d.status.isTerminal = false) (now : Nat)
    (reason : Option String) : (d.superseded now reason).validateForPersist = .ok () :=
  (hw.superseded now reason).validateForPersist (hw.attempts ht) (fun hc => nomatch hc)

lemma markSuperseded_eq (hw : d.WellFormed) (hs : d.status = .queued) (now : Nat)
    (reason : Option String) : markSuperseded d now reason = (.ok (), d.superseded now reason) := by
  have hv := superseded_valid hw (by simp [hs, RunDispatchStatus.isTerminal]) now reason
  simp [markSuperseded, expecting, RunDispatch.markSuperseded, transition_of_eq hs, hv]

lemma markSupersededAtEpoch_eq (hw : d.WellFormed) (hs : d.status = .queued ∨ d.status = .claimed)
    (now epoch : Nat) (reason : Option String) :
    markSupersededAtEpoch d now epoch reason = (.ok (), (d.atEpoch epoch).superseded now reason) := by
  have ht : d.status.isTerminal = false := by
    rcases hs with hs | hs <;> simp [hs, RunDispatchStatus.isTerminal]
  have hv := superseded_valid (hw.atEpoch epoch) ht now reason
  rcases hs with hs | hs
  · have he : (d.atEpoch epoch).status = .queued := hs
    simp [markSupersededAtEpoch, expecting, RunDispatch.markSupersededAtEpoch, he,
      RunDispatch.markSuperseded, transition_of_eq he, hv]
  · have he : (d.atEpoch epoch).status = .claimed := hs
    simp [markSupersededAtEpoch, expecting, RunDispatch.markSupersededAtEpoch, he, hv]

lemma markAcked_eq (hw : d.WellFormed) (hs : d.status = .claimed) (now : Nat) :
    markAcked d now = (.ok (), d.acked now) := by
  have hv := (hw.acked now).validateForPersist (hw.attempts_of_claimed hs) (fun hc => nomatch hc)
  simp [markAcked, expecting, RunDispatch.markAcked, transition_of_eq hs, hv]

lemma markCancelled_eq (hw : d.WellFormed) (hs : d.status = .queued) (now : Nat) :
    markCancelled d now = (.ok (), d.cancelled now) := by
  have hv := (hw.cancelled now).validateForPersist (hw.attempts_of_queued hs)
    (fun hc => nomatch hc)
  simp [markCancelled, expecting, RunDispatch.markCancelled, transition_of_eq hs, hv]

lemma markDeadLetter_eq (hw : d.WellFormed) (hs : d.status = .claimed) (now : Nat)
    (error : String) : markDeadLetter d now error = (.ok (), d.deadLettered now error) := by
  have hv := (hw.deadLettered now error).validateForPersist (hw.attempts_of_claimed hs)
    (fun hc => nomatch hc)
  simp [markDeadLetter, expecting, RunDispatch.markDeadLetter, transition_of_eq hs, hv]

lemma markNackResult_snd (hs : d.status = .claimed) (now retryAt : Nat) (error : String) :
    (markNackResult d now retryAt error).2 = d.nacked now retryAt error := by
  simp [markNackResult, expecting, RunDispatch.markNackResult, transition_of_eq hs]

lemma markExpiredLease_snd (hs : d.status = .claimed) (now : Nat) :
    (markExpiredLease d now).2 = d.expired now reasonLeaseExpiredMaxAttempts := by
  simp [markExpiredLease, expecting, RunDispatch.markExpiredLease, transition_of_eq hs]

lemma claimOne_snd (hs : d.status = .queued) (consumerId token : String) (leaseUntil now : Nat) :
    (claimOne consumerId token leaseUntil now d).2 =
      d.claimedFor consumerId token leaseUntil now := by
  unfold claimOne
  rw [RunDispatch.claim, transition_of_eq hs]
  cases (d.claimedFor consumerId token leaseUntil now).validateForPersist <;> rfl

lemma claimed_of_token (hw : d.WellFormed) {token : String} (ht : d.claimToken = some token) :
    d.status = .claimed := by
  by_contra hs
  have hn := (hw.noLease hs).1
  rw [ht] at hn
  exact nomatch hn

end Marks

structure Inv (s : InMemoryMailboxStore) : Prop where
  key : ∀ k d, s.get k = some d → d.dispatchId = k
  wellFormed : ∀ k d, s.get k = some d → d.WellFormed
  bounded : ∀ k d, s.get k = some d → d.dispatchEpoch ≤ s.epoch d.threadId

inductive EntryStep (s : InMemoryMailboxStore) (op : MailboxOp) (k : String) :
    Option RunDispatch → Option RunDispatch → Prop
  | same (o : Option RunDispatch) : EntryStep s op k o o
  | change {d d' : RunDispatch} :
      Change (s.epoch d.threadId) d op d' → EntryStep s op k (some d) (some d')
  | enqueued {x : RunDispatch} (o : Option RunDispatch) :
      op = .enqueue x → x.dispatchId = k → x.validateForEnqueue = .ok () →
      EntryStep s op k o (some (x.prepareForEnqueue (s.epoch x.threadId)))
  | purged {d : RunDispatch} {olderThan : Nat} :
      op = .purgeTerminal olderThan → isPurgeable olderThan d = true → EntryStep s op k (some d) none

variable {s : InMemoryMailboxStore}

@[simp] lemma epoch_put (k t : String) (d : RunDispatch) : (s.put k d).epoch t = s.epoch t := rfl

lemma get_put {k : String} {d : RunDispatch} (hk : s.get k = some d) (d' : RunDispatch)
    (j : String) : (s.put k d').get j = if j = k then some d' else s.get j := by
  rw [InMemoryMailboxStore.get] at hk
  simp only [InMemoryMailboxStore.get, put, Table.get_modify]
  split
  · next he => simp [he, hk]
  · rfl

lemma EntryStep.put {op : MailboxOp} {k : String} {d d' : RunDispatch} (hk : s.get k = some d)
    (hc : d' = d ∨ Change (s.epoch d.threadId) d op d') (j : String) :
    EntryStep s op j (s.get j) ((s.put k d').get j) := by
  rw [get_put hk]
  split
  · next he =>
    rw [he, hk]
    rcases hc with rfl | hc
    · exact .same _
    · exact .change hc
  · exact .same _

section Holder

variable {op : MailboxOp} {id token reason : String} {now : Nat} {checkStatus : Bool}
  {body : RunDispatch → Outcome StorageError Unit × RunDispatch}

lemma asHolder_entry (hi : Inv s)
    (hbody : ∀ d, s.get id = some d → d.status = .claimed → d.claimToken = some token →
      s.epoch d.threadId ≤ d.dispatchEpoch →
      (body d).2 = d ∨ Change (s.epoch d.threadId) d op (body d).2) (k : String) :
    EntryStep s op k (s.get k) ((s.asHolder id token now checkStatus reason body).2.get k) := by
  unfold asHolder
  split
  · exact .same _
  · next d hd =>
    split
    · exact .same _
    · next hg =>
      rw [not_or, Decidable.not_not] at hg
      have hs : d.status = .claimed := claimed_of_token (hi.wellFormed _ _ hd) hg.2
      dsimp only
      split
      · next he =>
        rw [markSupersededAtEpoch_eq (hi.wellFormed _ _ hd) (.inr hs)]
        exact .put hd (.inr (.fenced _ _ (.inr hs) he)) k
      · next he => exact .put hd (hbody d hd hs hg.2 (Nat.not_lt.mp he)) k

lemma asHolder_state (t : String) :
    (s.asHolder id token now checkStatus reason body).2.epoch t = s.epoch t := by
  unfold asHolder
  split
  · rfl
  · split
    · rfl
    · dsimp only
      split
      · split <;> rfl
      · rfl

lemma ack_entry (hi : Inv s) (k : String) :
    EntryStep s (.ack id token now) k (s.get k) ((s.ack id token now).2.get k) := by
  refine asHolder_entry hi (fun d hd hs ht he => .inr ?_) k
  rw [markAcked_eq (hi.wellFormed _ _ hd) hs, ← hi.key _ _ hd]
  exact .ack hs ht he

lemma recordDispatchStart_entry (hi : Inv s) (instanceId : String) (k : String) :
    EntryStep s (.recordDispatchStart id token instanceId now) k (s.get k)
      ((s.recordDispatchStart id token instanceId now).2.get k) := by
  refine asHolder_entry hi (fun d hd hs ht he => .inr ?_) k
  rw [RunDispatch.recordDispatchStart, transition_of_eq hs, ← hi.key _ _ hd]
  exact .start hs ht he

lemma recordRunResult_entry (hi : Inv s) (result : RunDispatchResult) (k : String) :
    EntryStep s (.recordRunResult id token result now) k (s.get k)
      ((s.recordRunResult id token result now).2.get k) := by
  refine asHolder_entry hi (fun d hd hs ht he => ?_) k
  simp only [RunDispatch.recordRunResult, RunDispatch.requireStatus, hs, ne_eq, not_true_eq_false,
    if_false]
  by_cases hr : result.runId = d.runId
  · refine .inr ?_
    rw [if_neg (not_not.mpr hr), ← hi.key _ _ hd]
    exact .finish hs ht he hr
  · exact .inl (by rw [if_pos hr])

lemma nack_entry (hi : Inv s) (retryAt : Nat) (error : String) (k : String) :
    EntryStep s (.nack id token retryAt error now) k (s.get k)
      ((s.nack id token retryAt error now).2.get k) := by
  refine asHolder_entry hi (fun d hd hs ht he => .inr ?_) k
  rw [markNackResult_snd hs, ← hi.key _ _ hd]
  exact .nack hs ht he

lemma deadLetter_entry (hi : Inv s) (error : String) (k : String) :
    EntryStep s (.deadLetter id token error now) k (s.get k)
      ((s.deadLetter id token error now).2.get k) := by
  refine asHolder_entry hi (fun d hd hs ht he => .inr ?_) k
  rw [markDeadLetter_eq (hi.wellFormed _ _ hd) hs, ← hi.key _ _ hd]
  exact .deadLetter hs ht he

end Holder

section Single

variable {id : String} {now : Nat}

lemma claimDispatch_entry (hi : Inv s) (consumerId : String) (leaseMs : Nat) (token : String)
    (k : String) :
    EntryStep s (.claimDispatch id consumerId leaseMs now token) k (s.get k)
      ((s.claimDispatch id consumerId leaseMs now token).2.get k) := by
  unfold claimDispatch
  split
  · exact .same _
  · next d hd =>
    split
    · exact .same _
    · next hs =>
      rw [ne_eq, not_not] at hs
      dsimp only
      split
      · next he =>
        rw [markSupersededAtEpoch_eq (hi.wellFormed _ _ hd) (.inl hs)]
        exact .put hd (.inr (.fenced _ _ (.inl hs) he)) k
      · next he =>
        split
        · exact .same _
        · rw [claimOne_snd hs]
          refine .put hd (.inr ?_) k
          rw [← hi.key _ _ hd]
          exact .claimDispatch hs (Nat.not_lt.mp he)

lemma cancel_entry (hi : Inv s) (k : String) :
    EntryStep s (.cancel id now) k (s.get k) ((s.cancel id now).2.get k) := by
  unfold cancel
  split
  · exact .same _
  · next d hd =>
    split
    · exact .same _
    · next hs =>
      rw [ne_eq, not_not] at hs
      rw [markCancelled_eq (hi.wellFormed _ _ hd) hs]
      refine .put hd (.inr ?_) k
      rw [← hi.key _ _ hd]
      exact .cancel hs

lemma extendLease_entry (hi : Inv s) (token : String) (extensionMs : Nat) (k : String) :
    EntryStep s (.extendLease id token extensionMs now) k (s.get k)
      ((s.extendLease id token extensionMs now).2.get k) := by
  unfold extendLease
  split
  · exact .same _
  · next d hd =>
    split
    · exact .same _
    · next hg =>
      rw [not_or, ne_eq, not_not, ne_eq, not_not] at hg
      obtain ⟨hs, ht⟩ := hg
      dsimp only
      split
      · next he =>
        rw [markSupersededAtEpoch_eq (hi.wellFormed _ _ hd) (.inr hs)]
        exact .put hd (.inr (.fenced _ _ (.inr hs) he)) k
      · next he =>
        rw [RunDispatch.extendLease, transition_of_eq hs]
        refine .put hd (.inr ?_) k
        rw [← hi.key _ _ hd]
        exact .extend hs ht (Nat.not_lt.mp he)

lemma supersedeClaimed_entry (hi : Inv s) (token reason : String) (k : String) :
    EntryStep s (.supersedeClaimed id token now reason) k (s.get k)
      ((s.supersedeClaimed id token now reason).2.get k) := by
  unfold supersedeClaimed
  split
  · exact .same _
  · next d hd =>
    split
    · exact .same _
    · next hs =>
      split
      · exact .same _
      · next ht =>
        rw [ne_eq, not_not] at hs ht
        dsimp only
        rw [markSupersededAtEpoch_eq (hi.wellFormed _ _ hd) (.inr hs)]
        refine .put hd (.inr ?_) k
        rw [← hi.key _ _ hd]
        exact .supersede hs ht

end Single

section Enqueue

@[simp] lemma touchThread_get (t k : String) : (s.touchThread t).get k = s.get k := by
  unfold touchThread
  split <;> rfl

@[simp] lemma touchThread_epoch (t u : String) : (s.touchThread t).epoch u = s.epoch u := by
  unfold touchThread
  split
  · rfl
  · next hn =>
    rw [Option.not_isSome_iff_eq_none] at hn
    simp only [InMemoryMailboxStore.epoch, currentEpochFromState, Table.get_insert]
    split
    · next he => simp [he, hn]
    · rfl

lemma enqueueFresh_eq {x : RunDispatch} (hv : x.validateForEnqueue = .ok ()) :
    s.enqueueFresh x = (.ok (), { s.touchThread x.threadId with
      dispatches := (s.touchThread x.threadId).dispatches.insert x.dispatchId
        (x.prepareForEnqueue (s.epoch x.threadId)) }) := by
  simp only [enqueueFresh, touchThread_epoch, RunDispatch.prepareForEnqueue_valid hv]
  rfl

lemma enqueueFresh_get {x : RunDispatch} (hv : x.validateForEnqueue = .ok ()) (k : String) :
    (s.enqueueFresh x).2.get k =
      if k = x.dispatchId then some (x.prepareForEnqueue (s.epoch x.threadId)) else s.get k := by
  have hg := Table.get_insert (s.touchThread x.threadId).dispatches x.dispatchId k
    (x.prepareForEnqueue (s.epoch x.threadId))
  rw [← InMemoryMailboxStore.get, touchThread_get] at hg
  rw [enqueueFresh_eq hv]
  exact hg

lemma enqueueFresh_entry {x : RunDispatch} (hv : x.validateForEnqueue = .ok ()) (k : String) :
    EntryStep s (.enqueue x) k (s.get k) ((s.enqueueFresh x).2.get k) := by
  rw [enqueueFresh_get hv]
  split
  · next he => exact .enqueued _ rfl he.symm hv
  · exact .same _

lemma enqueue_entry (x : RunDispatch) (k : String) :
    EntryStep s (.enqueue x) k (s.get k) ((s.enqueue x).2.get k) := by
  unfold enqueue
  split
  · exact .same _
  · next hv =>
    split
    · split
      · exact .same _
      · exact enqueueFresh_entry hv k
    · exact enqueueFresh_entry hv k

end Enqueue

section Claim

variable {threadId : String} {now : Nat}

/-- What the first loop of a claim leaves of a dispatch. -/
def afterFence (threadId : String) (epoch now : Nat) (d : RunDispatch) : RunDispatch :=
  if d.threadId = threadId ∧ d.status = .queued ∧ d.dispatchEpoch < epoch then
    (d.atEpoch epoch).superseded now (some reasonQueuedSupersededByEpoch)
  else d

lemma claim_sweep (hi : Inv s) (threadId : String) (now : Nat) :
    s.dispatches.sweep (supersedeStale threadId (s.epoch threadId) now) () =
      (.ok (), s.dispatches.mapValues (fun _ => afterFence threadId (s.epoch threadId) now)) := by
  refine Table.sweep_eq (h := fun _ _ => ()) (fun _ d hd => ?_) ()
  obtain ⟨k, hk⟩ := Table.mem_values.mp hd
  unfold supersedeStale afterFence
  split
  · next hc => exact markSupersededAtEpoch_eq (hi.wellFormed _ _ hk) (.inl hc.2.1) _ _ _
  · rfl

/-- The store between the two loops of a claim. -/
def fence (s : InMemoryMailboxStore) (threadId : String) (now : Nat) : InMemoryMailboxStore :=
  { s with dispatches :=
      s.dispatches.mapValues (fun _ => afterFence threadId (s.epoch threadId) now) }

lemma claim_eq (hi : Inv s) (consumerId : String) (leaseMs limit : Nat) (token : String) :
    s.claim threadId consumerId leaseMs now limit token =
      if hasClaimed (fence s threadId now).dispatches threadId then (.ok [], fence s threadId now)
      else
        let r := (fence s threadId now).dispatches.updateEach
          (claimOne consumerId token (now + leaseMs) now) .notFound
          (eligible (fence s threadId now).dispatches threadId now limit)
        (r.1, { s with dispatches := r.2 }) := by
  simp only [InMemoryMailboxStore.claim, claim_sweep hi]
  rfl

lemma fence_get (k : String) :
    (fence s threadId now).get k = (s.get k).map (afterFence threadId (s.epoch threadId) now) :=
  Table.get_mapValues _ _ _

lemma afterFence_entry {op : MailboxOp} (d : RunDispatch) (k : String) :
    EntryStep s op k (some d) (some (afterFence threadId (s.epoch threadId) now d)) := by
  unfold afterFence
  split
  · next hc =>
    obtain ⟨rfl, hs, he⟩ := hc
    exact .change (.fenced _ _ (.inl hs) he)
  · exact .same _

lemma fence_entry (op : MailboxOp) (k : String) :
    EntryStep s op k (s.get k) ((fence s threadId now).get k) := by
  rw [fence_get]
  cases s.get k with
  | none => exact .same _
  | some d => exact afterFence_entry d k

lemma queued_afterFence {epoch : Nat} {d : RunDispatch} (ht : (afterFence threadId epoch now d).threadId = threadId)
    (hs : (afterFence threadId epoch now d).status = .queued) :
    afterFence threadId epoch now d = d ∧ epoch ≤ d.dispatchEpoch := by
  unfold afterFence at *
  split at hs
  · exact nomatch hs
  · next hc =>
    rw [if_neg hc] at ht
    exact ⟨if_neg hc, Nat.not_lt.mp (fun hl => hc ⟨ht, hs, hl⟩)⟩

lemma mem_eligible {t : Table String RunDispatch} {limit : Nat} {k : String}
    (hk : k ∈ eligible t threadId now limit) :
    ∃ d, t.get k = some d ∧ d.threadId = threadId ∧ d.status = .queued ∧ d.availableAt ≤ now := by
  obtain ⟨⟨j, d⟩, he, rfl⟩ := List.mem_map.mp (List.mem_of_mem_take hk)
  rw [List.mem_insertionSort, List.mem_filter] at he
  obtain ⟨hm, hd⟩ := he
  simp only [isEligible, Bool.and_eq_true, decide_eq_true_eq] at hd
  exact ⟨d, Table.get_eq_some.mpr hm, hd.1.1, hd.1.2, hd.2⟩

lemma eligible_nodup (t : Table String RunDispatch) (threadId : String) (now limit : Nat) :
    (eligible t threadId now limit).Nodup := by
  refine List.Nodup.sublist (List.take_sublist _ _) ?_
  rw [((List.perm_insertionSort _ _).map Prod.fst).nodup_iff]
  exact t.nodup.sublist (List.filter_sublist.map _)

lemma claim_get (hi : Inv s) (consumerId : String) (leaseMs limit : Nat) (token : String)
    (k : String) :
    (s.claim threadId consumerId leaseMs now limit token).2.get k = (fence s threadId now).get k ∨
      ∃ d, s.get k = some d ∧ d.threadId = threadId ∧ d.status = .queued ∧ d.availableAt ≤ now ∧
        s.epoch threadId ≤ d.dispatchEpoch ∧
        hasClaimed (fence s threadId now).dispatches threadId = false ∧
        k ∈ eligible (fence s threadId now).dispatches threadId now limit ∧
        (s.claim threadId consumerId leaseMs now limit token).2.get k =
          some (d.claimedFor consumerId token (now + leaseMs) now) := by
  rw [claim_eq hi]
  split
  · exact .inl rfl
  · next hc =>
    rcases Table.updateEach_get (claimOne consumerId token (now + leaseMs) now) .notFound
      (eligible_nodup (fence s threadId now).dispatches threadId now limit)
      (fence s threadId now).dispatches k with hu | ⟨hk, hu⟩
    · exact .inl hu
    · refine .inr ?_
      obtain ⟨e, he, ht, hs, ha⟩ := mem_eligible hk
      have hf := he
      rw [← InMemoryMailboxStore.get, fence_get, Option.map_eq_some_iff] at hf
      obtain ⟨d, hd, rfl⟩ := hf
      obtain ⟨hq, hep⟩ := queued_afterFence ht hs
      rw [he, Option.map_some, claimOne_snd hs] at hu
      rw [hq] at ht hs ha hu
      exact ⟨d, hd, ht, hs, ha, hep, by simpa using hc, hk, hu⟩

lemma claim_entry (hi : Inv s) (consumerId : String) (leaseMs limit : Nat) (token : String)
    (k : String) :
    EntryStep s (.claim threadId consumerId leaseMs now limit token) k (s.get k)
      ((s.claim threadId consumerId leaseMs now limit token).2.get k) := by
  have hg := @claim_get s threadId now hi consumerId leaseMs limit token k
  rcases hg with h | ⟨d, hd, rfl, hs, ha, he, _, _, h⟩
  · exact h ▸ fence_entry _ k
  · rw [h, hd]
    exact .change (.claim hs he ha)

end Claim

section Interrupt

variable {threadId : String} {now : Nat}

def afterInterrupt (threadId : String) (epoch now : Nat) (d : RunDispatch) : RunDispatch :=
  if d.threadId = threadId ∧ d.status = .queued ∧ d.dispatchEpoch ≤ epoch then
    d.superseded now (some reasonQueuedSupersededByInterrupt)
  else d

/-- What the loop of an interrupt collects from a dispatch. -/
def collect (threadId : String) (epoch now : Nat) (found : Interrupted) (d : RunDispatch) :
    Interrupted :=
  if d.threadId = threadId ∧ d.status = .queued ∧ d.dispatchEpoch ≤ epoch then
    { found with supersededDispatches :=
        found.supersededDispatches ++ [d.superseded now (some reasonQueuedSupersededByInterrupt)] }
  else if d.threadId = threadId ∧ d.status = .claimed then { found with activeDispatch := some d }
  else found

lemma interruptOne_eq {d : RunDispatch} (hw : d.WellFormed) (threadId : String) (epoch now : Nat)
    (found : Interrupted) :
    interruptOne threadId epoch now found d =
      (.ok (collect threadId epoch now found d), afterInterrupt threadId epoch now d) := by
  unfold interruptOne collect afterInterrupt
  by_cases ht : d.threadId = threadId
  · rw [if_neg (not_not.mpr ht)]
    cases hs : d.status with
    | queued =>
      by_cases he : d.dispatchEpoch ≤ epoch
      · simp [ht, he, markSuperseded_eq hw hs]
      · simp [he]
    | claimed => simp [ht]
    | acked | cancelled | superseded | deadLetter => simp
  · simp [ht]

lemma interrupt_sweep (hi : Inv s) (threadId : String) (epoch now : Nat) (found : Interrupted) :
    s.dispatches.sweep (interruptOne threadId epoch now) found =
      (.ok (s.dispatches.values.foldl (collect threadId epoch now) found),
        s.dispatches.mapValues (fun _ => afterInterrupt threadId epoch now)) := by
  refine Table.sweep_eq (fun b d hd => ?_) found
  obtain ⟨k, hk⟩ := Table.mem_values.mp hd
  exact interruptOne_eq (hi.wellFormed _ _ hk) _ _ _ _

lemma interruptDetailed_snd (hi : Inv s) :
    (s.interruptDetailed threadId now).2 =
      { dispatches :=
          s.dispatches.mapValues (fun _ => afterInterrupt threadId (s.epoch threadId) now)
        state := s.state.insert threadId ⟨s.epoch threadId + 1⟩ } := by
  simp only [interruptDetailed, interrupt_sweep hi]

lemma interruptDetailed_get (hi : Inv s) (k : String) :
    (s.interruptDetailed threadId now).2.get k =
      (s.get k).map (afterInterrupt threadId (s.epoch threadId) now) := by
  rw [interruptDetailed_snd hi]
  exact Table.get_mapValues _ _ _

lemma interruptDetailed_epoch (hi : Inv s) (t : String) :
    (s.interruptDetailed threadId now).2.epoch t =
      if t = threadId then s.epoch t + 1 else s.epoch t := by
  rw [interruptDetailed_snd hi]
  simp only [InMemoryMailboxStore.epoch, currentEpochFromState, Table.get_insert]
  split
  · next he => simp [he]
  · rfl

lemma interruptDetailed_entry (hi : Inv s) {op : MailboxOp}
    (ho : interruptedThread op = some threadId) (k : String) :
    EntryStep s op k (s.get k) ((s.interruptDetailed threadId now).2.get k) := by
  rw [interruptDetailed_get hi]
  cases s.get k with
  | none => exact .same _
  | some d =>
    rw [Option.map_some, afterInterrupt]
    split
    · next hc =>
      obtain ⟨rfl, hs, he⟩ := hc
      exact .change (.interrupt now ho hs he)
    · exact .same _

end Interrupt

section Maintenance

variable {now : Nat}

lemma values_ids (hi : Inv s) : s.dispatches.values.map (·.dispatchId) = s.dispatches.keys := by
  rw [Table.values, Table.keys, List.map_map]
  refine List.map_congr_left (fun e he => ?_)
  exact hi.key e.1 e.2 (Table.get_eq_some.mpr he)

lemma reclaimOne_change {d : RunDispatch} (hw : d.WellFormed) (hx : isExpired now d = true)
    (limit : Nat) :
    Change (s.epoch d.threadId) d (.reclaimExpiredLeases now limit)
      (reclaimOne s.state now d).2 := by
  have hs : d.status = .claimed := by
    simp only [isExpired, Bool.and_eq_true, decide_eq_true_eq] at hx
    exact hx.1
  unfold reclaimOne
  dsimp only
  split
  · next he =>
    rw [markSupersededAtEpoch_eq hw (.inr hs)]
    exact .fenced _ _ (.inr hs) he
  · next he =>
    rw [markExpiredLease_snd hs]
    exact .expire hs hx (Nat.not_lt.mp he)

lemma reclaimExpiredLeases_entry (hi : Inv s) (limit : Nat) (k : String) :
    EntryStep s (.reclaimExpiredLeases now limit) k (s.get k)
      ((s.reclaimExpiredLeases now limit).2.get k) := by
  have hsub : (((s.dispatches.values.filter (isExpired now)).take limit).map
      (·.dispatchId)).Sublist s.dispatches.keys := by
    rw [← values_ids hi]
    exact ((List.take_sublist _ _).trans List.filter_sublist).map _
  rcases Table.updateEach_get (reclaimOne s.state now) .notFound (s.dispatches.nodup.sublist hsub)
    s.dispatches k with hu | ⟨hk, hu⟩
  · rw [show (s.reclaimExpiredLeases now limit).2.get k = s.get k from hu]
    exact .same _
  · rw [show (s.reclaimExpiredLeases now limit).2.get k =
      (s.get k).map (fun v => (reclaimOne s.state now v).2) from hu]
    obtain ⟨d, hd, rfl⟩ := List.mem_map.mp hk
    obtain ⟨hv, hx⟩ := List.mem_filter.mp (List.mem_of_mem_take hd)
    obtain ⟨j, hj⟩ := Table.mem_values.mp hv
    have hg : s.get d.dispatchId = some d := by
      rw [hi.key j d hj]
      exact hj
    rw [hg, Option.map_some]
    exact .change (reclaimOne_change (hi.wellFormed _ _ hj) hx limit)

lemma purgeTerminal_get (olderThan : Nat) (k : String) :
    (s.purgeTerminal olderThan).2.get k = (s.get k).filter (fun d => !isPurgeable olderThan d) :=
  Table.get_filter _ _ _

lemma purgeTerminal_epoch_none {olderThan : Nat} {t : String}
    (ht : ¬ ∃ k d, (s.purgeTerminal olderThan).2.get k = some d ∧ d.threadId = t) :
    (s.purgeTerminal olderThan).2.epoch t = 0 := by
  have hm : t ∉ (s.purgeTerminal olderThan).2.dispatches.values.map (·.threadId) := by
    intro hm
    obtain ⟨d, hd, hdt⟩ := List.mem_map.mp hm
    obtain ⟨k, hk⟩ := Table.mem_values.mp hd
    exact ht ⟨k, d, hk, hdt⟩
  simp only [InMemoryMailboxStore.epoch, currentEpochFromState]
  rw [show (s.purgeTerminal olderThan).2.state.get t = (s.state.get t).filter
    (fun _ => decide (t ∈ (s.purgeTerminal olderThan).2.dispatches.values.map (·.threadId)))
    from Table.get_filter _ _ _]
  simp only [hm, decide_false]
  cases s.state.get t <;> rfl

lemma purgeTerminal_entry (olderThan : Nat) (k : String) :
    EntryStep s (.purgeTerminal olderThan) k (s.get k) ((s.purgeTerminal olderThan).2.get k) := by
  rw [purgeTerminal_get]
  cases s.get k with
  | none => exact .same _
  | some d =>
    cases hp : isPurgeable olderThan d with
    | false =>
      rw [Option.filter_some, hp]
      exact .same _
    | true =>
      rw [Option.filter_some, hp]
      exact .purged rfl hp

end Maintenance

theorem exec_entry (hi : Inv s) (op : MailboxOp) (k : String) :
    EntryStep s op k (s.get k) ((exec op s).2.get k) := by
  cases op with
  | enqueue x => exact enqueue_entry x k
  | claim => exact claim_entry hi _ _ _ _ k
  | claimDispatch => exact claimDispatch_entry hi _ _ _ k
  | ack => exact ack_entry hi k
  | recordDispatchStart => exact recordDispatchStart_entry hi _ k
  | recordRunResult => exact recordRunResult_entry hi _ k
  | nack => exact nack_entry hi _ _ k
  | deadLetter => exact deadLetter_entry hi _ k
  | cancel => exact cancel_entry hi k
  | extendLease => exact extendLease_entry hi _ _ k
  | interrupt => exact interruptDetailed_entry hi rfl k
  | interruptDetailed => exact interruptDetailed_entry hi rfl k
  | supersedeClaimed => exact supersedeClaimed_entry hi _ _ k
  | reclaimExpiredLeases => exact reclaimExpiredLeases_entry hi _ k
  | purgeTerminal => exact purgeTerminal_entry _ k
  | _ => exact .same _

section Epochs

lemma enqueue_epoch (x : RunDispatch) (t : String) : (s.enqueue x).2.epoch t = s.epoch t := by
  have hf : (s.enqueueFresh x).2.epoch t = s.epoch t := by
    unfold enqueueFresh
    dsimp only
    split <;> exact touchThread_epoch _ _
  unfold enqueue
  split
  · rfl
  · split
    · split
      · rfl
      · exact hf
    · exact hf

lemma claim_epoch (hi : Inv s) (threadId consumerId : String) (leaseMs now limit : Nat)
    (token t : String) : (s.claim threadId consumerId leaseMs now limit token).2.epoch t = s.epoch t := by
  rw [claim_eq hi]
  split <;> rfl

lemma claimDispatch_epoch (id consumerId : String) (leaseMs now : Nat) (token t : String) :
    (s.claimDispatch id consumerId leaseMs now token).2.epoch t = s.epoch t := by
  unfold claimDispatch
  split
  · rfl
  · split
    · rfl
    · dsimp only
      split
      · rfl
      · split <;> rfl

lemma cancel_epoch (id : String) (now : Nat) (t : String) :
    (s.cancel id now).2.epoch t = s.epoch t := by
  unfold cancel
  split
  · rfl
  · split <;> rfl

lemma extendLease_epoch (id token : String) (extensionMs now : Nat) (t : String) :
    (s.extendLease id token extensionMs now).2.epoch t = s.epoch t := by
  unfold extendLease
  split
  · rfl
  · split
    · rfl
    · dsimp only
      split <;> rfl

lemma supersedeClaimed_epoch (id token : String) (now : Nat) (reason t : String) :
    (s.supersedeClaimed id token now reason).2.epoch t = s.epoch t := by
  unfold supersedeClaimed
  split
  · rfl
  · split
    · rfl
    · split <;> rfl

lemma purgeTerminal_epoch (olderThan : Nat) {k : String} {d : RunDispatch}
    (hd : (s.purgeTerminal olderThan).2.get k = some d) :
    (s.purgeTerminal olderThan).2.epoch d.threadId = s.epoch d.threadId := by
  have hm : d.threadId ∈ (s.purgeTerminal olderThan).2.dispatches.values.map (·.threadId) :=
    List.mem_map_of_mem (Table.mem_values.mpr ⟨k, hd⟩)
  simp only [InMemoryMailboxStore.epoch, currentEpochFromState]
  rw [show (s.purgeTerminal olderThan).2.state.get d.threadId = (s.state.get d.threadId).filter
    (fun _ => decide (d.threadId ∈
      (s.purgeTerminal olderThan).2.dispatches.values.map (·.threadId))) from Table.get_filter _ _ _]
  simp only [hm, decide_true]
  cases s.state.get d.threadId <;> rfl

def epochAfter (s : InMemoryMailboxStore) (op : MailboxOp) (t : String) : Nat :=
  if interruptedThread op = some t then s.epoch t + 1 else s.epoch t

lemma le_epochAfter (op : MailboxOp) (t : String) : s.epoch t ≤ epochAfter s op t := by
  unfold epochAfter
  split <;> omega

lemma interrupt_epoch (hi : Inv s) {threadId : String} {now : Nat} {op : MailboxOp}
    (ho : interruptedThread op = some threadId) (t : String) :
    (s.interruptDetailed threadId now).2.epoch t = epochAfter s op t := by
  rw [interruptDetailed_epoch hi, epochAfter, ho]
  simp only [Option.some.injEq, eq_comm]

theorem exec_epoch (hi : Inv s) (op : MailboxOp) (t : String)
    (hp : (∀ olderThan, op ≠ .purgeTerminal olderThan) ∨
      ∃ k d, (exec op s).2.get k = some d ∧ d.threadId = t) :
    (exec op s).2.epoch t = epochAfter s op t := by
  cases op with
  | enqueue x => exact enqueue_epoch x t
  | claim => exact claim_epoch hi _ _ _ _ _ _ t
  | claimDispatch => exact claimDispatch_epoch _ _ _ _ _ t
  | ack | recordDispatchStart | recordRunResult | nack | deadLetter => exact asHolder_state t
  | cancel => exact cancel_epoch _ _ t
  | extendLease => exact extendLease_epoch _ _ _ _ t
  | interrupt => exact interrupt_epoch hi rfl t
  | interruptDetailed => exact interrupt_epoch hi rfl t
  | supersedeClaimed => exact supersedeClaimed_epoch _ _ _ _ t
  | purgeTerminal olderThan =>
    obtain hp | ⟨k, d, hd, rfl⟩ := hp
    · exact absurd rfl (hp olderThan)
    · exact purgeTerminal_epoch olderThan hd
  | _ => rfl

end Epochs

section Invariant

lemma Change.epoch_le {epoch : Nat} {d d' : RunDispatch} {op : MailboxOp} (h : Change epoch d op d')
    (hb : d.dispatchEpoch ≤ epoch) : d'.dispatchEpoch ≤ epoch := by
  cases h with
  | fenced => exact Nat.le_refl _
  | supersede => exact Nat.max_le.mpr ⟨hb, Nat.le_refl _⟩
  | nack => rwa [nacked_epoch]
  | expire => rwa [expired_epoch]
  | _ => exact hb

lemma inv_new : Inv new where
  key := fun _ _ h => nomatch h
  wellFormed := fun _ _ h => nomatch h
  bounded := fun _ _ h => nomatch h

lemma EntryStep.good {op : MailboxOp} {k : String} {d' : RunDispatch} {o : Option RunDispatch}
    (h : EntryStep s op k o (some d')) (ho : ∀ d, o = some d →
      d.dispatchId = k ∧ d.WellFormed ∧ d.dispatchEpoch ≤ s.epoch d.threadId) :
    d'.dispatchId = k ∧ d'.WellFormed ∧ d'.dispatchEpoch ≤ s.epoch d'.threadId := by
  cases h with
  | same => exact ho _ rfl
  | @change d _ hc =>
    obtain ⟨hk, hw, hb⟩ := ho d rfl
    refine ⟨hc.same.dispatchId.trans hk, hc.wellFormed hw, ?_⟩
    rw [hc.same.threadId]
    exact hc.epoch_le hb
  | @enqueued x _ _ hk hv =>
    exact ⟨hk, RunDispatch.wellFormed_prepareForEnqueue hv _, Nat.le_refl _⟩

theorem Inv.exec (hi : Inv s) (op : MailboxOp) : Inv (exec op s).2 := by
  have hg : ∀ k d, (InMemoryMailboxStore.exec op s).2.get k = some d →
      d.dispatchId = k ∧ d.WellFormed ∧ d.dispatchEpoch ≤ s.epoch d.threadId := by
    intro k d hd
    have he := exec_entry hi op k
    rw [hd] at he
    exact he.good (fun d hd => ⟨hi.key _ _ hd, hi.wellFormed _ _ hd, hi.bounded _ _ hd⟩)
  refine ⟨fun k d hd => (hg k d hd).1, fun k d hd => (hg k d hd).2.1, fun k d hd => ?_⟩
  rw [exec_epoch hi op d.threadId (.inr ⟨k, d, hd, rfl⟩)]
  exact (hg k d hd).2.2.trans (le_epochAfter op d.threadId)

lemma Inv.put {op : MailboxOp} {k : String} {d d' : RunDispatch} (hi : Inv s)
    (hd : s.get k = some d) (hc : Change (s.epoch d.threadId) d op d') : Inv (s.put k d') := by
  have hg : ∀ j e, (s.put k d').get j = some e →
      e.dispatchId = j ∧ e.WellFormed ∧ e.dispatchEpoch ≤ s.epoch e.threadId := by
    intro j e he
    have hs := EntryStep.put hd (.inr hc) j
    rw [he] at hs
    exact hs.good (fun d hd => ⟨hi.key _ _ hd, hi.wellFormed _ _ hd, hi.bounded _ _ hd⟩)
  exact ⟨fun j e he => (hg j e he).1, fun j e he => (hg j e he).2.1,
    fun j e he => (hg j e he).2.2⟩

lemma InMemoryMailboxStore.Reorders.get {t : InMemoryMailboxStore} (h : s.Reorders t) (k : String) :
    t.get k = s.get k := (Table.Reorders.get h.1 k).symm

lemma InMemoryMailboxStore.Reorders.epoch {t : InMemoryMailboxStore} (h : s.Reorders t) (u : String) :
    t.epoch u = s.epoch u := by
  rw [InMemoryMailboxStore.epoch, ← h.2]
  rfl

lemma Inv.reorders {t : InMemoryMailboxStore} (hi : Inv s) (h : s.Reorders t) : Inv t where
  key := fun k d hd => hi.key k d (h.get k ▸ hd)
  wellFormed := fun k d hd => hi.wellFormed k d (h.get k ▸ hd)
  bounded := fun k d hd => h.epoch d.threadId ▸ hi.bounded k d (h.get k ▸ hd)

theorem Inv.step {s' : InMemoryMailboxStore} {call : Call} (hi : Inv s) (h : Step s call s') :
    Inv s' := by
  obtain ⟨t, ht, he⟩ := h
  have hs := (hi.reorders ht).exec call.op
  rwa [he] at hs

theorem inv_reachable (h : Reachable Step new s) : Inv s :=
  h.invariant inv_new (fun _ _ _ hs hi => hi.step hs)

end Invariant

section Steps

variable {s' : InMemoryMailboxStore} {call : Call}

lemma EntryStep.reorders {t : InMemoryMailboxStore} (h : s.Reorders t) {op : MailboxOp} {k : String}
    {o o' : Option RunDispatch} (he : EntryStep t op k o o') : EntryStep s op k o o' := by
  cases he with
  | same => exact .same _
  | change hc => exact .change (h.epoch _ ▸ hc)
  | enqueued _ ho hk hv => exact h.epoch _ ▸ .enqueued _ ho hk hv
  | purged ho hp => exact .purged ho hp

theorem step_entry (hi : Inv s) (h : Step s call s') (k : String) :
    EntryStep s call.op k (s.get k) (s'.get k) := by
  obtain ⟨t, ht, he⟩ := h
  have hs := exec_entry (hi.reorders ht) call.op k
  rw [he, ht.get] at hs
  exact hs.reorders ht

theorem step_epoch (hi : Inv s) (h : Step s call s') (t : String)
    (hp : (∀ olderThan, call.op ≠ .purgeTerminal olderThan) ∨
      ∃ k d, s'.get k = some d ∧ d.threadId = t) :
    s'.epoch t = epochAfter s call.op t := by
  obtain ⟨u, hu, he⟩ := h
  have hs := exec_epoch (hi.reorders hu) call.op t
  rw [he] at hs
  rw [hs hp, epochAfter, hu.epoch]
  rfl

end Steps

end Awaken.Stores.MemoryMailbox
