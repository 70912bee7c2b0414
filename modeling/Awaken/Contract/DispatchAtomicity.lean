import Awaken.Contract.DispatchShape

/-! Which failing transitions leave a dispatch as it was. A transition updates the dispatch before
it validates it, so a failing validation leaves the update behind. -/

namespace Awaken.Contract.Mailbox.RunDispatch

open Awaken.Lib.Text Awaken.Contract.Lifecycle Awaken.Contract.Storage

inductive Mark where
  | claim (consumerId claimToken : String) (leaseUntil now : Nat)
  | extendLease (leaseUntil now : Nat)
  | recordDispatchStart (dispatchInstanceId : String) (now : Nat)
  | recordRunResult (result : RunDispatchResult) (now : Nat)
  | markAcked (now : Nat)
  | markCancelled (now : Nat)
  | markSuperseded (now : Nat) (reason : Option String)
  | markSupersededAtEpoch (now epoch : Nat) (reason : Option String)
  | markDeadLetter (now : Nat) (error : String)
  | markNackResult (now retryAt : Nat) (error : String)
  | markExpiredLease (now : Nat) (maxAttemptsError : String)

def mark (self : RunDispatch) : Mark → Except StorageError Unit × RunDispatch
  | .claim consumerId claimToken leaseUntil now => self.claim consumerId claimToken leaseUntil now
  | .extendLease leaseUntil now => self.extendLease leaseUntil now
  | .recordDispatchStart dispatchInstanceId now => self.recordDispatchStart dispatchInstanceId now
  | .recordRunResult result now => self.recordRunResult result now
  | .markAcked now => self.markAcked now
  | .markCancelled now => self.markCancelled now
  | .markSuperseded now reason => self.markSuperseded now reason
  | .markSupersededAtEpoch now epoch reason => self.markSupersededAtEpoch now epoch reason
  | .markDeadLetter now error => self.markDeadLetter now error
  | .markNackResult now retryAt error => self.markNackResult now retryAt error
  | .markExpiredLease now maxAttemptsError => self.markExpiredLease now maxAttemptsError

/-- Identity and retry fields that pass validation with the given number of attempts. -/
def Sound (d : RunDispatch) (attempts : Nat) : Prop :=
  isBlank d.dispatchId = false ∧ isBlank d.threadId = false ∧ isBlank d.runId = false ∧
    0 < d.maxAttempts ∧ attempts ≤ d.maxAttempts

def Named (d : RunDispatch) : Prop :=
  d.claimToken.all isBlank = false ∧ d.claimedBy.all isBlank = false

/-- The transition passes its status check, writes a changed dispatch and only then fails. -/
def Spoils (d : RunDispatch) : Mark → Prop
  | .claim consumerId claimToken _ _ =>
    d.status = .queued ∧
      ¬ (d.Sound d.attemptCount ∧ isBlank claimToken = false ∧ isBlank consumerId = false)
  | .extendLease leaseUntil now =>
    d.status = .claimed ∧ ¬ (d.Sound d.attemptCount ∧ d.Named) ∧
      ¬ (d.leaseUntil = some leaseUntil ∧ d.updatedAt = now)
  | .recordDispatchStart dispatchInstanceId now =>
    d.status = .claimed ∧ ¬ (d.Sound d.attemptCount ∧ d.Named ∧ d.leaseUntil.isSome) ∧
      ¬ (d.dispatchInstanceId = some dispatchInstanceId ∧ d.runStatus = some .running ∧
        d.termination = none ∧ d.runResponse = none ∧ d.runError = none ∧ d.completedAt = none ∧
        d.updatedAt = now)
  | .recordRunResult result now =>
    d.status = .claimed ∧ result.runId = d.runId ∧
      ¬ (d.Sound d.attemptCount ∧ d.Named ∧ d.leaseUntil.isSome) ∧
      ¬ (d.dispatchInstanceId = some result.dispatchInstanceId ∧ d.runStatus = some result.status ∧
        d.termination = result.termination ∧ d.runResponse = result.response ∧
        d.runError = result.error ∧ d.completedAt = some now ∧ d.updatedAt = now)
  | .markAcked _ => d.status = .claimed ∧ ¬ d.Sound d.attemptCount
  | .markCancelled _ => d.status = .queued ∧ ¬ d.Sound d.attemptCount
  | .markSuperseded _ _ => d.status = .queued ∧ ¬ d.Sound d.attemptCount
  | .markSupersededAtEpoch _ epoch _ =>
    d.status.isTerminal = false ∧ ¬ d.Sound d.attemptCount ∨
      d.status.isTerminal = true ∧ d.dispatchEpoch ≠ epoch
  | .markDeadLetter _ _ => d.status = .claimed ∧ ¬ d.Sound d.attemptCount
  | .markNackResult _ _ _ => d.status = .claimed ∧ ¬ d.Sound (saturatingSucc d.attemptCount)
  | .markExpiredLease _ _ => d.status = .claimed ∧ ¬ d.Sound (saturatingSucc d.attemptCount)

section Validity

variable (d : RunDispatch)

lemma claimedFor_valid (consumerId claimToken : String) (leaseUntil now : Nat) :
    (d.claimedFor consumerId claimToken leaseUntil now).validateForPersist = .ok () ↔
      d.Sound d.attemptCount ∧ isBlank claimToken = false ∧ isBlank consumerId = false := by
  rw [validateForPersist_ok, validateIdentityAndRetry_ok]
  simp [claimedFor, Sound, RunDispatchStatus.isTerminal]

lemma ended_valid {d d' : RunDispatch} (ht : d'.status.isTerminal = true) (hn : d'.NoLease)
    (hc : d'.completedAt.isSome) (hs : SameIdentity d d') :
    d'.validateForPersist = .ok () ↔ d.Sound d'.attemptCount := by
  rw [validateForPersist_ok, validateIdentityAndRetry_ok, hs.dispatchId, hs.threadId, hs.runId,
    hs.maxAttempts]
  have hq : d'.status ≠ .queued := fun h => by rw [h] at ht; cases ht
  have hcl : d'.status ≠ .claimed := fun h => by rw [h] at ht; cases ht
  simp [hq, hcl, hn, hc, Sound]

lemma queued_valid {d d' : RunDispatch} (hs : d'.status = .queued) (hn : d'.NoLease)
    (hc : d'.completedAt = none) (hp : d'.NoProjection) (hi : SameIdentity d d') :
    d'.validateForPersist = .ok () ↔ d.Sound d'.attemptCount := by
  rw [validateForPersist_ok, validateIdentityAndRetry_ok, hi.dispatchId, hi.threadId, hi.runId,
    hi.maxAttempts]
  simp [hs, hn, hc, hp, Sound, RunDispatchStatus.isTerminal]

lemma claimed_valid (d d' : RunDispatch) (hs : d'.status = .claimed) (hi : SameIdentity d d') :
    d'.validateForPersist = .ok () ↔
      d.Sound d'.attemptCount ∧ d'.Named ∧ d'.leaseUntil.isSome := by
  rw [validateForPersist_ok, validateIdentityAndRetry_ok, hi.dispatchId, hi.threadId, hi.runId,
    hi.maxAttempts]
  simp [hs, Sound, Named, RunDispatchStatus.isTerminal, and_assoc]

end Validity

section Failures

variable {d : RunDispatch}

lemma transition_spoils (expected : RunDispatchStatus) (name : String)
    (update : RunDispatch → RunDispatch) :
    ((d.transition expected name update).1 ≠ .ok () ∧ (d.transition expected name update).2 ≠ d) ↔
      d.status = expected ∧ (update d).validateForPersist ≠ .ok () ∧ update d ≠ d := by
  by_cases hs : d.status = expected
  · rw [transition_of_eq hs]
    simp [hs]
  · obtain ⟨e, he⟩ := transition_of_ne hs name update
    simp [he, hs]

lemma ne_of_status {d' : RunDispatch} (h : d'.status ≠ d.status) : d' ≠ d :=
  fun he => h (by rw [he])

lemma moving_spoils {expected : RunDispatchStatus} {name : String}
    {update : RunDispatch → RunDispatch} {attempts : Nat}
    (hv : d.status = expected → ((update d).validateForPersist = .ok () ↔ d.Sound attempts))
    (hm : (update d).status ≠ expected) :
    ((d.transition expected name update).1 ≠ .ok () ∧ (d.transition expected name update).2 ≠ d) ↔
      d.status = expected ∧ ¬ d.Sound attempts := by
  rw [transition_spoils]
  refine and_congr_right fun hs => ?_
  rw [ne_eq, hv hs]
  exact and_iff_left (ne_of_status (hs ▸ hm))

lemma leasedUntil_eq (leaseUntil now : Nat) :
    d.leasedUntil leaseUntil now = d ↔ d.leaseUntil = some leaseUntil ∧ d.updatedAt = now := by
  cases d
  simp [leasedUntil, eq_comm]

lemma started_eq (hs : d.status = .claimed) (instanceId : String) (now : Nat) :
    d.started instanceId now = d ↔
      d.dispatchInstanceId = some instanceId ∧ d.runStatus = some .running ∧
        d.termination = none ∧ d.runResponse = none ∧ d.runError = none ∧ d.completedAt = none ∧
        d.updatedAt = now := by
  cases d
  simp [started, eq_comm]

lemma finished_eq (result : RunDispatchResult) (now : Nat) :
    d.finished result now = d ↔
      d.dispatchInstanceId = some result.dispatchInstanceId ∧ d.runStatus = some result.status ∧
        d.termination = result.termination ∧ d.runResponse = result.response ∧
        d.runError = result.error ∧ d.completedAt = some now ∧ d.updatedAt = now := by
  cases d
  simp [finished, eq_comm]

lemma nacked_valid (now retryAt : Nat) (error : String) :
    (d.nacked now retryAt error).validateForPersist = .ok () ↔
      d.Sound (saturatingSucc d.attemptCount) := by
  have hsame := nacked_same (d := d) now retryAt error
  by_cases hl : d.lastAttempt
  · rw [nacked_last hl] at hsame ⊢
    exact ended_valid rfl ⟨rfl, rfl, rfl⟩ rfl hsame
  · rw [nacked_retry hl] at hsame ⊢
    exact queued_valid rfl ⟨rfl, rfl, rfl⟩ rfl ⟨rfl, rfl, rfl, rfl, rfl⟩ hsame

lemma expired_valid (now : Nat) (error : String) :
    (d.expired now error).validateForPersist = .ok () ↔
      d.Sound (saturatingSucc d.attemptCount) := by
  have hsame := expired_same (d := d) now error
  by_cases hl : d.lastAttempt
  · rw [expired_last hl] at hsame ⊢
    exact ended_valid rfl ⟨rfl, rfl, rfl⟩ rfl hsame
  · rw [expired_retry hl] at hsame ⊢
    exact queued_valid rfl ⟨rfl, rfl, rfl⟩ rfl ⟨rfl, rfl, rfl, rfl, rfl⟩ hsame

lemma superseded_valid (now : Nat) (reason : Option String) :
    (d.superseded now reason).validateForPersist = .ok () ↔ d.Sound d.attemptCount :=
  ended_valid rfl ⟨rfl, rfl, rfl⟩ rfl ⟨rfl, rfl, rfl, rfl⟩

lemma atEpoch_spoils (now epoch : Nat) (reason : Option String) :
    ((d.markSupersededAtEpoch now epoch reason).1 ≠ .ok () ∧
        (d.markSupersededAtEpoch now epoch reason).2 ≠ d) ↔
      d.Spoils (.markSupersededAtEpoch now epoch reason) := by
  have hv : ((d.atEpoch epoch).superseded now reason).validateForPersist = .ok () ↔
      d.Sound d.attemptCount := superseded_valid now reason
  have hne : d.status.isTerminal = false → (d.atEpoch epoch).superseded now reason ≠ d := by
    intro ht he
    rw [← he] at ht
    cases ht
  have hstatus : (d.atEpoch epoch).status = d.status := rfl
  unfold markSupersededAtEpoch Spoils
  dsimp only
  cases hs : d.status with
  | queued =>
    rw [hs] at hne
    simp [hstatus, hs, RunDispatch.markSuperseded, transition_of_eq (hstatus.trans hs), hv,
      RunDispatchStatus.isTerminal, hne rfl]
  | claimed =>
    rw [hs] at hne
    simp [hstatus, hs, hv, RunDispatchStatus.isTerminal, hne rfl]
  | acked | cancelled | superseded | deadLetter =>
    have hsame : d.atEpoch epoch = d ↔ d.dispatchEpoch = epoch := by
      cases d
      simp [atEpoch, eq_comm]
    simp [hstatus, hs, RunDispatchStatus.isTerminal, hsame]

theorem mark_spoils (m : Mark) :
    ((d.mark m).1 ≠ .ok () ∧ (d.mark m).2 ≠ d) ↔ d.Spoils m := by
  cases m with
  | claim consumerId claimToken leaseUntil now =>
    refine (transition_spoils _ _ _).trans (and_congr_right fun hs => ?_)
    rw [ne_eq, claimedFor_valid]
    exact and_iff_left (ne_of_status (by simp [hs, claimedFor]))
  | extendLease leaseUntil now =>
    refine (transition_spoils _ _ _).trans (and_congr_right fun hs => ?_)
    have hv := claimed_valid d (d.leasedUntil leaseUntil now) hs ⟨rfl, rfl, rfl, rfl⟩
    rw [ne_eq, hv, ne_eq, leasedUntil_eq]
    simp [leasedUntil, Named]
  | recordDispatchStart instanceId now =>
    refine (transition_spoils _ _ _).trans (and_congr_right fun hs => ?_)
    have hv := claimed_valid d (d.started instanceId now) hs ⟨rfl, rfl, rfl, rfl⟩
    rw [ne_eq, hv, ne_eq, started_eq hs]
    rfl
  | recordRunResult result now =>
    unfold mark RunDispatch.recordRunResult Spoils
    by_cases hs : d.status = .claimed
    · have hv := claimed_valid d (d.finished result now) hs ⟨rfl, rfl, rfl, rfl⟩
      by_cases hr : result.runId = d.runId
      · simp only [requireStatus, hs, hr, ne_eq, not_true_eq_false, if_false, hv, finished_eq,
          true_and]
        rfl
      · simp [requireStatus, hs, hr]
    · simp [requireStatus, hs]
  | markAcked now =>
    exact moving_spoils (fun _ => ended_valid rfl ⟨rfl, rfl, rfl⟩ rfl ⟨rfl, rfl, rfl, rfl⟩)
      (fun h => by cases h)
  | markCancelled now =>
    exact moving_spoils (fun _ => ended_valid rfl ⟨rfl, rfl, rfl⟩ rfl ⟨rfl, rfl, rfl, rfl⟩)
      (fun h => by cases h)
  | markSuperseded now reason =>
    exact moving_spoils (fun _ => superseded_valid now reason) (fun h => by cases h)
  | markSupersededAtEpoch now epoch reason => exact atEpoch_spoils now epoch reason
  | markDeadLetter now error =>
    exact moving_spoils (fun _ => ended_valid rfl ⟨rfl, rfl, rfl⟩ rfl ⟨rfl, rfl, rfl, rfl⟩)
      (fun h => by cases h)
  | markNackResult now retryAt error =>
    refine moving_spoils (fun _ => nacked_valid now retryAt error) ?_
    rw [nacked_status]
    split <;> simp
  | markExpiredLease now error =>
    refine moving_spoils (fun _ => expired_valid now error) ?_
    rw [expired_status]
    split <;> simp

end Failures

end Awaken.Contract.Mailbox.RunDispatch
