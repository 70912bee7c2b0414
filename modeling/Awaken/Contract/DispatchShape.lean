import Mathlib.Tactic.Lemma
import Awaken.Contract.Mailbox

/-! The shape every stored dispatch keeps, and what the transitions do to a dispatch of that
shape. The shape is weaker than `validateForPersist`: a claim with a blank consumer id and a last
attempt over the limit leave dispatches behind that fail validation. -/

namespace Awaken.Contract.Mailbox.RunDispatch

open Awaken.Lib.Text Awaken.Contract.Lifecycle Awaken.Contract.Storage

def NoLease (d : RunDispatch) : Prop :=
  d.claimToken = none ∧ d.claimedBy = none ∧ d.leaseUntil = none

def NoProjection (d : RunDispatch) : Prop :=
  d.dispatchInstanceId = none ∧ d.runStatus = none ∧ d.termination = none ∧
    d.runResponse = none ∧ d.runError = none

structure WellFormed (d : RunDispatch) : Prop where
  dispatchId : isBlank d.dispatchId = false
  threadId : isBlank d.threadId = false
  runId : isBlank d.runId = false
  maxAttempts : 0 < d.maxAttempts
  attempts : d.status.isTerminal = false → d.attemptCount ≤ d.maxAttempts
  lease : d.status = .claimed → d.claimToken.isSome ∧ d.claimedBy.isSome ∧ d.leaseUntil.isSome
  noLease : d.status ≠ .claimed → d.NoLease
  queued : d.status = .queued → d.completedAt = none ∧ d.NoProjection
  ended : d.status.isTerminal = true → d.completedAt.isSome

def NamedLease (d : RunDispatch) : Prop :=
  d.status = .claimed → d.claimToken.all isBlank = false ∧ d.claimedBy.all isBlank = false

section Validation

lemma requireNonEmpty_ok (field value : String) :
    requireNonEmpty field value = .ok () ↔ isBlank value = false := by
  unfold requireNonEmpty
  split <;> simp_all

lemma bind_ok {α : Type} {x : Except StorageError Unit} {f : Unit → Except StorageError α} {a : α} :
    (x >>= f) = .ok a ↔ x = .ok () ∧ f () = .ok a := by
  cases x <;> simp [bind, Except.bind]

lemma throwIf_ok {c : Prop} [Decidable c] {e : StorageError} :
    (if c then throw e else pure () : Except StorageError Unit) = .ok () ↔ ¬ c := by
  split <;> simp_all [throw, throwThe, MonadExceptOf.throw, pure, Except.pure]

lemma throwIf_bind_ok {α : Type} {c : Prop} [Decidable c] {e : StorageError}
    {f : Unit → Except StorageError α} {y : Except StorageError α} {a : α} :
    (if c then (throw e >>= f) else y) = .ok a ↔ ¬ c ∧ y = .ok a := by
  split <;> simp_all [throw, throwThe, MonadExceptOf.throw, bind, Except.bind]

lemma validateIdentityAndRetry_ok (d : RunDispatch) :
    d.validateIdentityAndRetry = .ok () ↔ isBlank d.dispatchId = false ∧ isBlank d.threadId = false ∧
      isBlank d.runId = false ∧ 0 < d.maxAttempts ∧ d.attemptCount ≤ d.maxAttempts := by
  simp only [validateIdentityAndRetry, bind_ok, requireNonEmpty_ok, throwIf_bind_ok, throwIf_ok,
    gt_iff_lt, Nat.not_lt, Nat.pos_iff_ne_zero, ne_eq]

lemma validateQueued_ok (d : RunDispatch) :
    d.validateQueued = .ok () ↔ d.NoLease ∧ d.completedAt = none ∧ d.NoProjection := by
  simp only [validateQueued, throwIf_bind_ok, throwIf_ok]
  simp [NoLease, NoProjection, and_assoc]

lemma validateForEnqueue_ok (d : RunDispatch) :
    d.validateForEnqueue = .ok () ↔ d.validateIdentityAndRetry = .ok () ∧ d.status = .queued ∧
      d.validateQueued = .ok () := by
  simp only [validateForEnqueue, bind_ok, throwIf_bind_ok, ne_eq, Decidable.not_not]

lemma validateForPersist_ok (d : RunDispatch) :
    d.validateForPersist = .ok () ↔ d.validateIdentityAndRetry = .ok () ∧
      (d.status = .queued → d.NoLease ∧ d.completedAt = none ∧ d.NoProjection) ∧
      (d.status = .claimed → d.claimToken.all isBlank = false ∧ d.claimedBy.all isBlank = false ∧
        d.leaseUntil.isSome) ∧
      (d.status.isTerminal = true → d.NoLease ∧ d.completedAt.isSome) := by
  simp only [validateForPersist, bind_ok]
  refine and_congr_right fun _ => ?_
  cases hs : d.status with
  | queued => simp [validateQueued_ok, RunDispatchStatus.isTerminal]
  | claimed =>
    simp only [throwIf_ok]
    simp [RunDispatchStatus.isTerminal, and_assoc, Option.isSome_iff_ne_none]
  | acked | cancelled | superseded | deadLetter =>
    simp only [throwIf_bind_ok, throwIf_ok]
    simp [NoLease, RunDispatchStatus.isTerminal, and_assoc, Option.isSome_iff_ne_none]

end Validation

variable {d : RunDispatch}

theorem WellFormed.validateForPersist (h : d.WellFormed) (ha : d.attemptCount ≤ d.maxAttempts)
    (hn : d.NamedLease) : d.validateForPersist = .ok () := by
  refine (validateForPersist_ok d).mpr ⟨(validateIdentityAndRetry_ok d).mpr
    ⟨h.dispatchId, h.threadId, h.runId, h.maxAttempts, ha⟩, ?_, ?_, ?_⟩
  · intro hs
    exact ⟨h.noLease (by simp [hs]), h.queued hs⟩
  · intro hs
    exact ⟨(hn hs).1, (hn hs).2, (h.lease hs).2.2⟩
  · intro hs
    exact ⟨h.noLease (by rintro hc; simp [hc, RunDispatchStatus.isTerminal] at hs), h.ended hs⟩

theorem wellFormed_prepareForEnqueue (h : d.validateForEnqueue = .ok ()) (epoch : Nat) :
    (d.prepareForEnqueue epoch).WellFormed := by
  obtain ⟨hi, hs, hq⟩ := (validateForEnqueue_ok d).mp h
  obtain ⟨h₁, h₂, h₃, h₄, h₅⟩ := (validateIdentityAndRetry_ok d).mp hi
  exact {
    dispatchId := h₁
    threadId := h₂
    runId := h₃
    maxAttempts := h₄
    attempts := fun _ => h₅
    lease := by simp [prepareForEnqueue]
    noLease := fun _ => ⟨rfl, rfl, rfl⟩
    queued := fun _ => ⟨rfl, rfl, rfl, rfl, rfl, rfl⟩
    ended := by simp [prepareForEnqueue, RunDispatchStatus.isTerminal] }

lemma prepareForEnqueue_valid (h : d.validateForEnqueue = .ok ()) (epoch : Nat) :
    (d.prepareForEnqueue epoch).validateForPersist = .ok () := by
  obtain ⟨hi, _⟩ := (validateForEnqueue_ok d).mp h
  refine (wellFormed_prepareForEnqueue h epoch).validateForPersist ?_ ?_
  · exact ((validateIdentityAndRetry_ok d).mp hi).2.2.2.2
  · simp [NamedLease, prepareForEnqueue]

section Transitions

lemma transition_of_eq {expected : RunDispatchStatus} (hs : d.status = expected) (name : String)
    (update : RunDispatch → RunDispatch) :
    d.transition expected name update = ((update d).validateForPersist, update d) := by
  simp [transition, requireStatus, hs]

lemma transition_of_ne {expected : RunDispatchStatus} (hs : d.status ≠ expected) (name : String)
    (update : RunDispatch → RunDispatch) :
    ∃ e, d.transition expected name update = (.error e, d) := by
  simp [transition, requireStatus, hs]

structure SameIdentity (d d' : RunDispatch) : Prop where
  dispatchId : d'.dispatchId = d.dispatchId
  threadId : d'.threadId = d.threadId
  runId : d'.runId = d.runId
  maxAttempts : d'.maxAttempts = d.maxAttempts

lemma WellFormed.of_same {d' : RunDispatch} (h : d.WellFormed) (hi : SameIdentity d d')
    (attempts : d'.status.isTerminal = false → d'.attemptCount ≤ d.maxAttempts)
    (lease : d'.status = .claimed →
      d'.claimToken.isSome ∧ d'.claimedBy.isSome ∧ d'.leaseUntil.isSome)
    (noLease : d'.status ≠ .claimed → d'.NoLease)
    (queued : d'.status = .queued → d'.completedAt = none ∧ d'.NoProjection)
    (ended : d'.status.isTerminal = true → d'.completedAt.isSome) : d'.WellFormed where
  dispatchId := hi.dispatchId ▸ h.dispatchId
  threadId := hi.threadId ▸ h.threadId
  runId := hi.runId ▸ h.runId
  maxAttempts := hi.maxAttempts ▸ h.maxAttempts
  attempts := fun ht => hi.maxAttempts ▸ attempts ht
  lease := lease
  noLease := noLease
  queued := queued
  ended := ended

lemma WellFormed.attempts_of_queued (h : d.WellFormed) (hs : d.status = .queued) :
    d.attemptCount ≤ d.maxAttempts := h.attempts (by simp [hs, RunDispatchStatus.isTerminal])

lemma WellFormed.attempts_of_claimed (h : d.WellFormed) (hs : d.status = .claimed) :
    d.attemptCount ≤ d.maxAttempts := h.attempts (by simp [hs, RunDispatchStatus.isTerminal])

lemma WellFormed.claimedFor (h : d.WellFormed) (hs : d.status = .queued)
    (consumerId claimToken : String) (leaseUntil now : Nat) :
    (d.claimedFor consumerId claimToken leaseUntil now).WellFormed :=
  h.of_same ⟨rfl, rfl, rfl, rfl⟩ (fun _ => h.attempts_of_queued hs) (fun _ => ⟨rfl, rfl, rfl⟩)
    (fun hc => absurd rfl hc) (by simp [RunDispatch.claimedFor])
    (by simp [RunDispatch.claimedFor, RunDispatchStatus.isTerminal])

lemma WellFormed.leasedUntil (h : d.WellFormed) (hs : d.status = .claimed) (leaseUntil now : Nat) :
    (d.leasedUntil leaseUntil now).WellFormed :=
  h.of_same ⟨rfl, rfl, rfl, rfl⟩ (fun _ => h.attempts_of_claimed hs)
    (fun _ => ⟨(h.lease hs).1, (h.lease hs).2.1, rfl⟩) (fun hc => absurd hs hc)
    (by simp [RunDispatch.leasedUntil, hs])
    (by simp [RunDispatch.leasedUntil, hs, RunDispatchStatus.isTerminal])

lemma WellFormed.started (h : d.WellFormed) (hs : d.status = .claimed) (instanceId : String)
    (now : Nat) : (d.started instanceId now).WellFormed :=
  h.of_same ⟨rfl, rfl, rfl, rfl⟩ (fun _ => h.attempts_of_claimed hs) (fun _ => h.lease hs)
    (fun hc => absurd hs hc) (by simp [RunDispatch.started, hs])
    (by simp [RunDispatch.started, hs, RunDispatchStatus.isTerminal])

lemma WellFormed.finished (h : d.WellFormed) (hs : d.status = .claimed) (result : RunDispatchResult)
    (now : Nat) : (d.finished result now).WellFormed :=
  h.of_same ⟨rfl, rfl, rfl, rfl⟩ (fun _ => h.attempts_of_claimed hs) (fun _ => h.lease hs)
    (fun hc => absurd hs hc) (by simp [RunDispatch.finished, hs])
    (by simp [RunDispatch.finished, hs, RunDispatchStatus.isTerminal])

lemma WellFormed.acked (h : d.WellFormed) (now : Nat) : (d.acked now).WellFormed :=
  h.of_same ⟨rfl, rfl, rfl, rfl⟩ (by simp [RunDispatch.acked, clearClaimFields,
    RunDispatchStatus.isTerminal]) (by simp [RunDispatch.acked, clearClaimFields])
    (fun _ => ⟨rfl, rfl, rfl⟩) (by simp [RunDispatch.acked, clearClaimFields]) (fun _ => rfl)

lemma WellFormed.cancelled (h : d.WellFormed) (now : Nat) : (d.cancelled now).WellFormed :=
  h.of_same ⟨rfl, rfl, rfl, rfl⟩ (by simp [RunDispatch.cancelled, clearClaimFields,
    RunDispatchStatus.isTerminal]) (by simp [RunDispatch.cancelled, clearClaimFields])
    (fun _ => ⟨rfl, rfl, rfl⟩) (by simp [RunDispatch.cancelled, clearClaimFields]) (fun _ => rfl)

lemma WellFormed.atEpoch (h : d.WellFormed) (epoch : Nat) : (d.atEpoch epoch).WellFormed :=
  h.of_same ⟨rfl, rfl, rfl, rfl⟩ h.attempts h.lease h.noLease h.queued h.ended

lemma WellFormed.superseded (h : d.WellFormed) (now : Nat) (reason : Option String) :
    (d.superseded now reason).WellFormed :=
  h.of_same ⟨rfl, rfl, rfl, rfl⟩
    (by simp [RunDispatch.superseded, clearRuntimeProjection, clearClaimFields,
      RunDispatchStatus.isTerminal])
    (by simp [RunDispatch.superseded, clearRuntimeProjection, clearClaimFields])
    (fun _ => ⟨rfl, rfl, rfl⟩)
    (by simp [RunDispatch.superseded, clearRuntimeProjection, clearClaimFields]) (fun _ => rfl)

lemma WellFormed.deadLettered (h : d.WellFormed) (now : Nat) (error : String) :
    (d.deadLettered now error).WellFormed :=
  h.of_same ⟨rfl, rfl, rfl, rfl⟩ (by simp [RunDispatch.deadLettered, clearClaimFields,
    RunDispatchStatus.isTerminal]) (by simp [RunDispatch.deadLettered, clearClaimFields])
    (fun _ => ⟨rfl, rfl, rfl⟩) (by simp [RunDispatch.deadLettered, clearClaimFields]) (fun _ => rfl)

def lastAttempt (d : RunDispatch) : Prop := d.maxAttempts ≤ saturatingSucc d.attemptCount

instance (d : RunDispatch) : Decidable d.lastAttempt :=
  inferInstanceAs (Decidable (d.maxAttempts ≤ saturatingSucc d.attemptCount))

lemma nacked_last (h : d.lastAttempt) (now retryAt : Nat) (error : String) :
    d.nacked now retryAt error =
      { d.clearClaimFields with
        attemptCount := saturatingSucc d.attemptCount, lastError := some error, updatedAt := now,
        status := .deadLetter, completedAt := some now } := if_pos h

lemma nacked_retry (h : ¬ d.lastAttempt) (now retryAt : Nat) (error : String) :
    d.nacked now retryAt error =
      { d.clearClaimFields.clearRuntimeProjection with
        attemptCount := saturatingSucc d.attemptCount, lastError := some error, updatedAt := now,
        status := .queued, availableAt := retryAt, completedAt := none } := if_neg h

lemma expired_last (h : d.lastAttempt) (now : Nat) (error : String) :
    d.expired now error =
      { d.clearClaimFields.clearRuntimeProjection with
        attemptCount := saturatingSucc d.attemptCount, availableAt := now, updatedAt := now,
        status := .deadLetter, lastError := some error, completedAt := some now } := if_pos h

lemma expired_retry (h : ¬ d.lastAttempt) (now : Nat) (error : String) :
    d.expired now error =
      { d.clearClaimFields.clearRuntimeProjection with
        attemptCount := saturatingSucc d.attemptCount, availableAt := now, updatedAt := now,
        status := .queued, completedAt := none } := if_neg h

lemma nacked_status (now retryAt : Nat) (error : String) :
    (d.nacked now retryAt error).status = if d.lastAttempt then .deadLetter else .queued := by
  split
  · next h => rw [nacked_last h]
  · next h => rw [nacked_retry h]

lemma expired_status (now : Nat) (error : String) :
    (d.expired now error).status = if d.lastAttempt then .deadLetter else .queued := by
  split
  · next h => rw [expired_last h]
  · next h => rw [expired_retry h]

lemma nacked_same (now retryAt : Nat) (error : String) :
    SameIdentity d (d.nacked now retryAt error) := by
  by_cases h : d.lastAttempt
  · rw [nacked_last h]
    exact ⟨rfl, rfl, rfl, rfl⟩
  · rw [nacked_retry h]
    exact ⟨rfl, rfl, rfl, rfl⟩

lemma expired_same (now : Nat) (error : String) : SameIdentity d (d.expired now error) := by
  by_cases h : d.lastAttempt
  · rw [expired_last h]
    exact ⟨rfl, rfl, rfl, rfl⟩
  · rw [expired_retry h]
    exact ⟨rfl, rfl, rfl, rfl⟩

lemma nacked_epoch (now retryAt : Nat) (error : String) :
    (d.nacked now retryAt error).dispatchEpoch = d.dispatchEpoch := by
  by_cases h : d.lastAttempt
  · rw [nacked_last h]
    rfl
  · rw [nacked_retry h]
    rfl

lemma expired_epoch (now : Nat) (error : String) :
    (d.expired now error).dispatchEpoch = d.dispatchEpoch := by
  by_cases h : d.lastAttempt
  · rw [expired_last h]
    rfl
  · rw [expired_retry h]
    rfl

lemma WellFormed.nacked (h : d.WellFormed) (now retryAt : Nat) (error : String) :
    (d.nacked now retryAt error).WellFormed := by
  by_cases hl : d.lastAttempt
  · rw [nacked_last hl]
    exact h.of_same ⟨rfl, rfl, rfl, rfl⟩ (by simp [RunDispatchStatus.isTerminal]) (by simp)
      (fun _ => ⟨rfl, rfl, rfl⟩) (by simp) (fun _ => rfl)
  · rw [nacked_retry hl]
    exact h.of_same ⟨rfl, rfl, rfl, rfl⟩ (fun _ => Nat.le_of_lt (Nat.not_le.mp hl)) (by simp)
      (fun _ => ⟨rfl, rfl, rfl⟩) (fun _ => ⟨rfl, rfl, rfl, rfl, rfl, rfl⟩)
      (by simp [RunDispatchStatus.isTerminal])

lemma WellFormed.expired (h : d.WellFormed) (now : Nat) (error : String) :
    (d.expired now error).WellFormed := by
  by_cases hl : d.lastAttempt
  · rw [expired_last hl]
    exact h.of_same ⟨rfl, rfl, rfl, rfl⟩ (by simp [RunDispatchStatus.isTerminal]) (by simp)
      (fun _ => ⟨rfl, rfl, rfl⟩) (by simp) (fun _ => rfl)
  · rw [expired_retry hl]
    exact h.of_same ⟨rfl, rfl, rfl, rfl⟩ (fun _ => Nat.le_of_lt (Nat.not_le.mp hl)) (by simp)
      (fun _ => ⟨rfl, rfl, rfl⟩) (fun _ => ⟨rfl, rfl, rfl, rfl, rfl, rfl⟩)
      (by simp [RunDispatchStatus.isTerminal])

end Transitions

end Awaken.Contract.Mailbox.RunDispatch
