import Awaken.Stores.MemoryMailbox.Changes

namespace Awaken.Stores.MemoryMailbox

open Awaken.Lib Awaken.Contract.Mailbox Awaken.Contract.Storage
open Awaken.Stores.MailboxState InMemoryMailboxStore

def Exhausted (d : RunDispatch) : Prop := d.maxAttempts < saturatingSucc d.attemptCount

instance (d : RunDispatch) : Decidable (Exhausted d) :=
  inferInstanceAs (Decidable (d.maxAttempts < saturatingSucc d.attemptCount))

def Current (s : InMemoryMailboxStore) (d : RunDispatch) : Prop :=
  s.epoch d.threadId ≤ d.dispatchEpoch

/-- The call counts a failed attempt of an exhausted dispatch: its holder gives it back, or its
lease has run out. -/
def Overruns (s : InMemoryMailboxStore) : MailboxOp → Prop
  | .nack id token _ _ _ =>
    ∃ d, s.get id = some d ∧ d.claimToken = some token ∧ Current s d ∧ Exhausted d
  | .reclaimExpiredLeases now limit =>
    0 < limit ∧ ∃ k d, s.get k = some d ∧ isExpired now d = true ∧ Current s d ∧ Exhausted d
  | _ => False

section Marks

variable {d : RunDispatch}

lemma expect_panic {d' : RunDispatch} (hs : RunDispatch.SameIdentity d d') (hw : d'.WellFormed)
    (ha : d'.attemptCount = saturatingSucc d.attemptCount) (hn : d'.status ≠ .claimed) :
    (Outcome.expect d'.validateForPersist : Outcome StorageError Unit) = .panic ↔ Exhausted d := by
  rw [Exhausted, ← ha, ← hs.maxAttempts]
  by_cases hl : d'.attemptCount ≤ d'.maxAttempts
  · rw [hw.validateForPersist hl (fun hc => absurd hc hn)]
    simpa using hl
  · cases hv : d'.validateForPersist with
    | error e => simpa using hl
    | ok u =>
      have hp := ((RunDispatch.validateForPersist_ok d').mp hv).1
      exact absurd ((RunDispatch.validateIdentityAndRetry_ok d').mp hp).2.2.2.2 hl

lemma nacked_attempts (now retryAt : Nat) (error : String) :
    (d.nacked now retryAt error).attemptCount = saturatingSucc d.attemptCount := by
  by_cases hl : d.lastAttempt
  · rw [RunDispatch.nacked_last hl]
  · rw [RunDispatch.nacked_retry hl]

lemma expired_attempts (now : Nat) (error : String) :
    (d.expired now error).attemptCount = saturatingSucc d.attemptCount := by
  by_cases hl : d.lastAttempt
  · rw [RunDispatch.expired_last hl]
  · rw [RunDispatch.expired_retry hl]

lemma markNackResult_panic (hw : d.WellFormed) (hs : d.status = .claimed) (now retryAt : Nat)
    (error : String) : (markNackResult d now retryAt error).1 = .panic ↔ Exhausted d := by
  rw [markNackResult, expecting, RunDispatch.markNackResult, RunDispatch.transition_of_eq hs]
  refine expect_panic (RunDispatch.nacked_same _ _ _) (hw.nacked _ _ _) (nacked_attempts _ _ _) ?_
  rw [RunDispatch.nacked_status]
  split <;> simp

lemma markExpiredLease_panic (hw : d.WellFormed) (hs : d.status = .claimed) (now : Nat) :
    (markExpiredLease d now).1 = .panic ↔ Exhausted d := by
  rw [markExpiredLease, expecting, RunDispatch.markExpiredLease, RunDispatch.transition_of_eq hs]
  refine expect_panic (RunDispatch.expired_same _ _) (hw.expired _ _) (expired_attempts _ _) ?_
  rw [RunDispatch.expired_status]
  split <;> simp

lemma claimOne_ne_panic (consumerId token : String) (leaseUntil now : Nat) :
    (claimOne consumerId token leaseUntil now d).1 ≠ .panic := by
  unfold claimOne
  split <;> simp

end Marks

variable {s : InMemoryMailboxStore}

section Operations

lemma asHolder_panic (hi : Inv s) {id token reason : String} {now : Nat} {checkStatus : Bool}
    {body : RunDispatch → Outcome StorageError Unit × RunDispatch} :
    (s.asHolder id token now checkStatus reason body).1 = .panic ↔
      ∃ d, s.get id = some d ∧ d.claimToken = some token ∧ Current s d ∧ (body d).1 = .panic := by
  unfold asHolder
  split
  · next hn => simp [hn]
  · next d hd =>
    simp only [hd, Option.some.injEq, exists_eq_left']
    split
    · next hg =>
      simp only [reduceCtorEq, false_iff]
      rintro ⟨ht, -, -⟩
      have hs := claimed_of_token (hi.wellFormed _ _ hd) ht
      simp [hs, ht] at hg
    · next hg =>
      rw [not_or, Decidable.not_not] at hg
      have hs : d.status = .claimed := claimed_of_token (hi.wellFormed _ _ hd) hg.2
      split
      · next he =>
        rw [markSupersededAtEpoch_eq (hi.wellFormed _ _ hd) (.inr hs)]
        simp [Current, Nat.not_le.mpr he]
      · next he => simp [hg.2, Current, Nat.not_lt.mp he]

lemma enqueueFresh_ne_panic (x : RunDispatch) : (s.enqueueFresh x).1 ≠ .panic := by
  unfold enqueueFresh
  dsimp only
  split <;> simp

lemma enqueue_ne_panic (x : RunDispatch) : (s.enqueue x).1 ≠ .panic := by
  unfold enqueue
  split
  · simp
  · split
    · split
      · simp
      · exact enqueueFresh_ne_panic x
    · exact enqueueFresh_ne_panic x

lemma claim_ne_panic (hi : Inv s) (threadId consumerId : String) (leaseMs now limit : Nat)
    (token : String) : (s.claim threadId consumerId leaseMs now limit token).1 ≠ .panic := by
  rw [claim_eq hi]
  split
  · simp
  · intro hp
    obtain ⟨k, -, d, -, hd⟩ := Table.updateEach_panic (eligible_nodup _ _ _ _) hp
    exact claimOne_ne_panic _ _ _ _ hd

lemma claimDispatch_ne_panic (hi : Inv s) (id consumerId : String) (leaseMs now : Nat)
    (token : String) : (s.claimDispatch id consumerId leaseMs now token).1 ≠ .panic := by
  unfold claimDispatch
  split
  · simp
  · next d hd =>
    split
    · simp
    · next hs =>
      rw [ne_eq, not_not] at hs
      dsimp only
      split
      · simp [markSupersededAtEpoch_eq (hi.wellFormed _ _ hd) (.inl hs)]
      · split
        · simp
        · exact claimOne_ne_panic _ _ _ _

lemma cancel_ne_panic (hi : Inv s) (id : String) (now : Nat) : (s.cancel id now).1 ≠ .panic := by
  unfold cancel
  split
  · simp
  · next d hd =>
    split
    · simp
    · next hs =>
      rw [ne_eq, not_not] at hs
      simp [markCancelled_eq (hi.wellFormed _ _ hd) hs]

lemma extendLease_ne_panic (hi : Inv s) (id token : String) (extensionMs now : Nat) :
    (s.extendLease id token extensionMs now).1 ≠ .panic := by
  unfold extendLease
  split
  · simp
  · next d hd =>
    split
    · simp
    · next hg =>
      rw [not_or, ne_eq, not_not, ne_eq, not_not] at hg
      dsimp only
      split
      · simp [markSupersededAtEpoch_eq (hi.wellFormed _ _ hd) (.inr hg.1)]
      · simp

lemma supersedeClaimed_ne_panic (hi : Inv s) (id token : String) (now : Nat) (reason : String) :
    (s.supersedeClaimed id token now reason).1 ≠ .panic := by
  unfold supersedeClaimed
  split
  · simp
  · next d hd =>
    split
    · simp
    · next hs =>
      rw [ne_eq, not_not] at hs
      split
      · simp
      · simp [markSupersededAtEpoch_eq (hi.wellFormed _ _ hd) (.inr hs)]

lemma interruptDetailed_ne_panic (hi : Inv s) (threadId : String) (now : Nat) :
    (s.interruptDetailed threadId now).1 ≠ .panic := by
  simp [interruptDetailed, interrupt_sweep hi]

lemma reclaimOne_panic {d : RunDispatch} {now : Nat} (hw : d.WellFormed)
    (hx : isExpired now d = true) :
    (reclaimOne s.state now d).1 = .panic ↔ Current s d ∧ Exhausted d := by
  have hs : d.status = .claimed := by
    simp only [isExpired, Bool.and_eq_true, decide_eq_true_eq] at hx
    exact hx.1
  unfold reclaimOne
  dsimp only
  split
  · next he =>
    have hc : ¬ Current s d := Nat.not_le.mpr he
    simp [markSupersededAtEpoch_eq hw (.inr hs), hc]
  · next he =>
    have hc : Current s d := Nat.not_lt.mp he
    simp [markExpiredLease_panic hw hs, hc]

lemma reclaimExpiredLeases_panic (hi : Inv s) {now limit : Nat}
    (hp : (s.reclaimExpiredLeases now limit).1 = .panic) :
    Overruns s (.reclaimExpiredLeases now limit) := by
  have hsub : (((s.dispatches.values.filter (isExpired now)).take limit).map
      (·.dispatchId)).Sublist s.dispatches.keys := by
    rw [← values_ids hi]
    exact ((List.take_sublist _ _).trans List.filter_sublist).map _
  obtain ⟨k, hk, v, hv, hpanic⟩ := Table.updateEach_panic (s.dispatches.nodup.sublist hsub) hp
  obtain ⟨d, hd, rfl⟩ := List.mem_map.mp hk
  obtain ⟨hm, hx⟩ := List.mem_filter.mp (List.mem_of_mem_take hd)
  obtain ⟨j, hj⟩ := Table.mem_values.mp hm
  have hkey : d.dispatchId = j := hi.key j d hj
  rw [hkey, hj, Option.some.injEq] at hv
  rw [← hv] at hpanic
  refine ⟨?_, j, d, hj, hx, (reclaimOne_panic (hi.wellFormed _ _ hj) hx).mp hpanic⟩
  by_contra h0
  rw [Nat.le_zero.mp (Nat.not_lt.mp h0), List.take_zero] at hd
  exact absurd hd List.not_mem_nil

lemma reclaimExpiredLeases_overruns (hi : Inv s) {now limit : Nat}
    (ho : Overruns s (.reclaimExpiredLeases now limit)) :
    ∃ t, s.Reorders t ∧ (t.reclaimExpiredLeases now limit).1 = .panic := by
  obtain ⟨hl, k, d, hd, hx, hc, hex⟩ := ho
  obtain ⟨u, hu, es, hes⟩ := Table.exists_first hd
  have ht : s.Reorders { s with dispatches := u } := ⟨hu, rfl⟩
  have hget : u.get k = some d := (Table.Reorders.get hu k).symm.trans hd
  refine ⟨_, ht, ?_⟩
  obtain ⟨n, rfl⟩ := Nat.exists_eq_succ_of_ne_zero hl.ne'
  simp only [reclaimExpiredLeases, Table.values, hes, List.map_cons, List.filter_cons, hx, if_true,
    List.take_succ_cons, hi.key _ _ hd]
  exact Table.updateEach_panic_head hget
    ((reclaimOne_panic (hi.wellFormed _ _ hd) hx).mpr ⟨hc, hex⟩)

end Operations

lemma nack_panic (hi : Inv s) (id token : String) (retryAt : Nat) (error : String) (now : Nat) :
    (s.nack id token retryAt error now).1 = .panic ↔
      Overruns s (.nack id token retryAt error now) := by
  rw [nack, asHolder_panic hi]
  refine exists_congr fun d => and_congr_right fun hd => and_congr_right fun ht => ?_
  have hs := claimed_of_token (hi.wellFormed _ _ hd) ht
  rw [markNackResult_panic (hi.wellFormed _ _ hd) hs]

lemma holder_ne_panic (hi : Inv s) {id token reason : String} {now : Nat} {checkStatus : Bool}
    {body : RunDispatch → Outcome StorageError Unit × RunDispatch}
    (hb : ∀ d, s.get id = some d → d.claimToken = some token → (body d).1 ≠ .panic) :
    (s.asHolder id token now checkStatus reason body).1 ≠ .panic := by
  rw [ne_eq, asHolder_panic hi]
  rintro ⟨d, hd, ht, -, hp⟩
  exact hb d hd ht hp

lemma ack_ne_panic (hi : Inv s) (id token : String) (now : Nat) :
    (s.ack id token now).1 ≠ .panic := by
  refine holder_ne_panic hi (fun d hd ht => ?_)
  have hw := hi.wellFormed _ _ hd
  rw [markAcked_eq hw (claimed_of_token hw ht)]
  simp

lemma deadLetter_ne_panic (hi : Inv s) (id token error : String) (now : Nat) :
    (s.deadLetter id token error now).1 ≠ .panic := by
  refine holder_ne_panic hi (fun d hd ht => ?_)
  have hw := hi.wellFormed _ _ hd
  rw [markDeadLetter_eq hw (claimed_of_token hw ht)]
  simp

lemma exec_panic (hi : Inv s) {op : MailboxOp} (hp : (exec op s).1 = .panic) : Overruns s op := by
  cases op with
  | nack => exact (nack_panic hi _ _ _ _ _).mp (Outcome.map_eq_panic.mp hp)
  | reclaimExpiredLeases => exact reclaimExpiredLeases_panic hi (Outcome.map_eq_panic.mp hp)
  | enqueue => exact absurd (Outcome.map_eq_panic.mp hp) (enqueue_ne_panic _)
  | claim => exact absurd (Outcome.map_eq_panic.mp hp) (claim_ne_panic hi _ _ _ _ _ _)
  | claimDispatch =>
    exact absurd (Outcome.map_eq_panic.mp hp) (claimDispatch_ne_panic hi _ _ _ _ _)
  | ack => exact absurd (Outcome.map_eq_panic.mp hp) (ack_ne_panic hi _ _ _)
  | recordDispatchStart =>
    exact absurd (Outcome.map_eq_panic.mp hp)
      (holder_ne_panic hi (fun _ _ _ => Outcome.ofExcept_ne_panic _))
  | recordRunResult =>
    exact absurd (Outcome.map_eq_panic.mp hp)
      (holder_ne_panic hi (fun _ _ _ => Outcome.ofExcept_ne_panic _))
  | deadLetter => exact absurd (Outcome.map_eq_panic.mp hp) (deadLetter_ne_panic hi _ _ _ _)
  | cancel => exact absurd (Outcome.map_eq_panic.mp hp) (cancel_ne_panic hi _ _)
  | extendLease => exact absurd (Outcome.map_eq_panic.mp hp) (extendLease_ne_panic hi _ _ _ _)
  | interrupt =>
    exact absurd (Outcome.map_eq_panic.mp (Outcome.map_eq_panic.mp hp))
      (interruptDetailed_ne_panic hi _ _)
  | interruptDetailed =>
    exact absurd (Outcome.map_eq_panic.mp hp) (interruptDetailed_ne_panic hi _ _)
  | supersedeClaimed =>
    exact absurd (Outcome.map_eq_panic.mp hp) (supersedeClaimed_ne_panic hi _ _ _ _)
  | currentDispatchEpoch => cases hp
  | loadDispatch => cases hp
  | listDispatches => cases hp
  | countDispatchesByStatus => cases hp
  | listTerminalDispatches => cases hp
  | purgeTerminal => cases hp
  | queuedThreadIds => cases hp

/-- Some iteration order of the map makes the call panic. -/
def Panics (s : InMemoryMailboxStore) (op : MailboxOp) : Prop :=
  ∃ t, s.Reorders t ∧ (exec op t).1 = .panic

lemma Current.reorders {t : InMemoryMailboxStore} (h : s.Reorders t) (d : RunDispatch) :
    Current t d ↔ Current s d := by
  rw [Current, Current, h.epoch]

lemma Overruns.of_reorders {t : InMemoryMailboxStore} (h : s.Reorders t) {op : MailboxOp}
    (ho : Overruns t op) : Overruns s op := by
  cases op with
  | nack =>
    obtain ⟨d, hd, ht, hc, hx⟩ := ho
    exact ⟨d, (h.get _).symm.trans hd, ht, (Current.reorders h d).mp hc, hx⟩
  | reclaimExpiredLeases =>
    obtain ⟨hl, k, d, hd, he, hc, hx⟩ := ho
    exact ⟨hl, k, d, (h.get _).symm.trans hd, he, (Current.reorders h d).mp hc, hx⟩
  | _ => exact ho

theorem panics_iff (hi : Inv s) (op : MailboxOp) : Panics s op ↔ Overruns s op := by
  constructor
  · rintro ⟨t, ht, hp⟩
    exact .of_reorders ht (exec_panic (hi.reorders ht) hp)
  · intro ho
    cases op with
    | nack =>
      exact ⟨s, ⟨.refl _, rfl⟩, Outcome.map_eq_panic.mpr ((nack_panic hi _ _ _ _ _).mpr ho)⟩
    | reclaimExpiredLeases =>
      obtain ⟨t, ht, hp⟩ := reclaimExpiredLeases_overruns hi ho
      exact ⟨t, ht, Outcome.map_eq_panic.mpr hp⟩
    | _ => exact ho.elim

section Runs

def AttemptsLeft (s : InMemoryMailboxStore) : Prop :=
  ∀ k d, s.get k = some d → d.status.isTerminal = false → ¬ Exhausted d

/-- The call stores no dispatch whose attempts are used up. -/
def EnqueuesFresh : MailboxOp → Prop
  | .enqueue x => ¬ Exhausted x
  | _ => True

lemma not_exhausted_retry {d d' : RunDispatch} (hl : ¬ d.lastAttempt)
    (hs : RunDispatch.SameIdentity d d') (ha : d'.attemptCount = saturatingSucc d.attemptCount) :
    ¬ Exhausted d' := by
  rw [RunDispatch.lastAttempt, Nat.not_le] at hl
  rw [Exhausted, ha, hs.maxAttempts, Nat.not_lt]
  exact (Nat.min_le_left _ _).trans hl

lemma Change.attemptsLeft {epoch : Nat} {d d' : RunDispatch} {op : MailboxOp}
    (h : Change epoch d op d') (hd : d.status.isTerminal = false → ¬ Exhausted d)
    (ht : d'.status.isTerminal = false) : ¬ Exhausted d' := by
  have hq : d.status = .queued → ¬ Exhausted d :=
    fun hs => hd (by rw [hs]; rfl)
  have hc : d.status = .claimed → ¬ Exhausted d :=
    fun hs => hd (by rw [hs]; rfl)
  cases h with
  | claim hs => exact hq hs
  | claimDispatch hs => exact hq hs
  | start hs => exact hc hs
  | finish hs => exact hc hs
  | extend hs => exact hc hs
  | nack hs =>
    by_cases hl : d.lastAttempt
    · rw [RunDispatch.nacked_last hl] at ht
      cases ht
    · exact not_exhausted_retry hl (RunDispatch.nacked_same _ _ _) (nacked_attempts _ _ _)
  | expire hs =>
    by_cases hl : d.lastAttempt
    · rw [RunDispatch.expired_last hl] at ht
      cases ht
    · exact not_exhausted_retry hl (RunDispatch.expired_same _ _) (expired_attempts _ _)
  | fenced => cases ht
  | ack => cases ht
  | deadLetter => cases ht
  | cancel => cases ht
  | interrupt => cases ht
  | supersede => cases ht

lemma AttemptsLeft.step {s' : InMemoryMailboxStore} {call : Call} (hi : Inv s)
    (ha : AttemptsLeft s) (hs : Step s call s') (he : EnqueuesFresh call.op) : AttemptsLeft s' := by
  intro k d' hd' ht
  have hstep := step_entry hi hs k
  rw [hd'] at hstep
  cases hk : s.get k with
  | none =>
    rw [hk] at hstep
    cases hstep with
    | enqueued _ ho => rw [ho] at he; exact he
  | some d =>
    rw [hk] at hstep
    cases hstep with
    | same => exact ha k d' hk ht
    | change hc => exact hc.attemptsLeft (ha k d hk) ht
    | enqueued _ ho => rw [ho] at he; exact he

lemma AttemptsLeft.not_overruns (hi : Inv s) (ha : AttemptsLeft s) (op : MailboxOp) :
    ¬ Overruns s op := by
  cases op with
  | nack =>
    rintro ⟨d, hd, ht, -, hx⟩
    have hs := claimed_of_token (hi.wellFormed _ _ hd) ht
    exact ha _ d hd (by rw [hs]; rfl) hx
  | reclaimExpiredLeases =>
    rintro ⟨-, k, d, hd, he, -, hx⟩
    simp only [isExpired, Bool.and_eq_true, decide_eq_true_eq] at he
    exact ha k d hd (by rw [he.1]; rfl) hx
  | _ => exact id

/-- No call of a run panics exactly when none counts a failed attempt of an exhausted dispatch, and
none does as long as no dispatch is enqueued with its attempts used up. -/
theorem leases_never_panic {tr : List (Transition InMemoryMailboxStore Call)}
    (hr : Run Step new tr s) :
    ((∀ τ ∈ tr, ¬ Panics τ.pre τ.label.op) ↔ ∀ τ ∈ tr, ¬ Overruns τ.pre τ.label.op) ∧
      ((∀ τ ∈ tr, EnqueuesFresh τ.label.op) → ∀ τ ∈ tr, ¬ Panics τ.pre τ.label.op) := by
  have hiff : ∀ τ ∈ tr, (Panics τ.pre τ.label.op ↔ Overruns τ.pre τ.label.op) :=
    fun τ hτ => panics_iff (inv_reachable (hr.reachable_of_mem hτ)) τ.label.op
  refine ⟨forall₂_congr (fun τ hτ => not_congr (hiff τ hτ)), fun hf τ hτ => ?_⟩
  have hinv := hr.invariant (I := fun s => Inv s ∧ AttemptsLeft s)
    (fun _ hs he hi => ⟨hi.1.step hs, hi.2.step hi.1 hs he⟩) hf
    ⟨inv_new, fun _ _ h => by cases h⟩
  obtain ⟨hi, ha⟩ := (hinv.2 τ hτ).1
  exact mt (hiff τ hτ).mp (ha.not_overruns hi _)

def exhaustedOps : List MailboxOp :=
  [.enqueue { RunDispatch.queued "d" "t" "r" 0 with attemptCount := 5 },
    .claim "t" "worker" 10 0 1 "token", .nack "d" "token" 0 "failed" 1]

theorem leases_never_panic_exhausted :
    ((∀ τ ∈ callTrace new exhaustedOps, ¬ Panics τ.pre τ.label.op) ↔
        ∀ τ ∈ callTrace new exhaustedOps, ¬ Overruns τ.pre τ.label.op) ∧
      ((∀ τ ∈ callTrace new exhaustedOps, EnqueuesFresh τ.label.op) →
        ∀ τ ∈ callTrace new exhaustedOps, ¬ Panics τ.pre τ.label.op) :=
  leases_never_panic (run_callTrace new exhaustedOps)

theorem exhausted_nack_panics :
    ¬ ∀ tr s, Run Step new tr s → ∀ τ ∈ tr, τ.label.resp ≠ .panic := by
  intro h
  refine h _ _ (run_callTrace new exhaustedOps) _
    (List.mem_cons_of_mem _ (List.mem_cons_of_mem _ List.mem_cons_self)) ?_
  decide

end Runs

end Awaken.Stores.MemoryMailbox
