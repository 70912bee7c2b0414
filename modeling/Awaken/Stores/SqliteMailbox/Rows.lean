import Awaken.Contract.DispatchShape
import Awaken.Stores.SqliteMailbox

namespace Awaken.Stores.SqliteMailbox

open Awaken.Lib Awaken.Lib.Text Awaken.Contract.Lifecycle Awaken.Contract.Mailbox
open Awaken.Contract.Storage Awaken.Stores.MailboxState
open RunDispatch (clearClaimFields clearRuntimeProjection)

variable {J : Type}

section Casts

lemma asI64_of_lt {n : Nat} (h : n < 2 ^ 63) : asI64 n = n := by
  unfold asI64
  rw [Nat.mod_eq_of_lt (h.trans (by decide)), if_pos h]

lemma asU64_natCast {n : Nat} (h : n < 2 ^ 64) : asU64 n = n := by
  unfold asU64
  omega

lemma asU32_natCast {n : Nat} (h : n < 2 ^ 32) : asU32 n = n := by
  unfold asU32
  omega

lemma asU8_natCast {n : Nat} (h : n < 2 ^ 8) : asU8 n = n := by
  unfold asU8
  omega

end Casts

section Texts

@[simp] lemma strToStatus_statusToStr (s : RunDispatchStatus) :
    strToStatus (statusToStr s) = .ok s := by
  cases s <;> rfl

@[simp] lemma strToRunStatus_runStatusToStr (s : RunStatus) :
    strToRunStatus (runStatusToStr s) = .ok s := by
  cases s <;> rfl

@[simp] lemma statusToStr_queued (s : RunDispatchStatus) :
    statusToStr s = "Queued" ↔ s = .queued := by
  cases s <;> decide

@[simp] lemma statusToStr_claimed (s : RunDispatchStatus) :
    statusToStr s = "Claimed" ↔ s = .claimed := by
  cases s <;> decide

@[simp] lemma statusToStr_terminal (s : RunDispatchStatus) :
    statusToStr s ∈ terminalStatuses ↔ s.isTerminal = true := by
  cases s <;> decide

end Texts

def rowOf (codec : Codec J) (d : RunDispatch) : Row J where
  dispatchId := d.dispatchId
  threadId := d.threadId
  runId := d.runId
  priority := d.priority
  dedupeKey := d.dedupeKey
  dispatchEpoch := d.dispatchEpoch
  status := statusToStr d.status
  availableAt := d.availableAt
  attemptCount := d.attemptCount
  maxAttempts := d.maxAttempts
  lastError := d.lastError
  claimToken := d.claimToken
  claimedBy := d.claimedBy
  leaseUntil := d.leaseUntil.map (fun n : Nat => (n : Int))
  dispatchInstanceId := d.dispatchInstanceId
  runStatus := d.runStatus.map runStatusToStr
  termination := d.termination.map codec.toJson
  runResponse := d.runResponse
  runError := d.runError
  completedAt := d.completedAt.map (fun n : Nat => (n : Int))
  createdAt := d.createdAt
  updatedAt := d.updatedAt

structure Fits (d : RunDispatch) : Prop where
  priority : d.priority < 2 ^ 8
  availableAt : d.availableAt < 2 ^ 63
  maxAttempts : d.maxAttempts < 2 ^ 32
  leaseUntil : ∀ n, d.leaseUntil = some n → n < 2 ^ 63
  completedAt : ∀ n, d.completedAt = some n → n < 2 ^ 63
  createdAt : d.createdAt < 2 ^ 63
  updatedAt : d.updatedAt < 2 ^ 63

structure Sound (d : RunDispatch) : Prop where
  valid : d.validateForPersist = .ok ()
  fits : Fits d

lemma Sound.attempts {d : RunDispatch} (h : Sound d) : d.attemptCount ≤ d.maxAttempts :=
  ((RunDispatch.validateIdentityAndRetry_ok d).mp
    ((RunDispatch.validateForPersist_ok d).mp h.valid).1).2.2.2.2

lemma Sound.namedLease {d : RunDispatch} (h : Sound d) : d.NamedLease := fun hs =>
  ⟨(((RunDispatch.validateForPersist_ok d).mp h.valid).2.2.1 hs).1,
    (((RunDispatch.validateForPersist_ok d).mp h.valid).2.2.1 hs).2.1⟩

section Decoding

variable {codec : Codec J}

lemma map_asU64 {o : Option Nat} (h : ∀ n, o = some n → n < 2 ^ 63) :
    (o.map (fun n : Nat => (n : Int))).map asU64 = o := by
  cases o with
  | none => rfl
  | some n =>
    have hn : n < 2 ^ 64 := (h n rfl).trans (by decide)
    simp [asU64_natCast hn]

lemma column_map {α β : Type} {read : β → Except StorageError α} {write : α → β}
    (h : ∀ a, read (write a) = .ok a) (o : Option α) : column read (o.map write) = .ok o := by
  cases o with
  | none => rfl
  | some a =>
    simp only [Option.map_some, column, h]
    rfl

theorem rowToDispatch_rowOf (hj : ∀ t, codec.fromJson (codec.toJson t) = .ok t) {d : RunDispatch}
    (hs : Sound d) (he : d.dispatchEpoch < 2 ^ 63) : rowToDispatch codec (rowOf codec d) = .ok d := by
  have hterm : column (fun j => (codec.fromJson j).mapError StorageError.serialization)
      (d.termination.map codec.toJson) = .ok d.termination :=
    column_map (fun t => by rw [hj t]; rfl) d.termination
  have hf := hs.fits
  have hattempt : d.attemptCount < 2 ^ 32 := Nat.lt_of_le_of_lt hs.attempts hf.maxAttempts
  have h64 : ∀ n : Nat, n < 2 ^ 63 → asU64 n = n := fun n hn => asU64_natCast (hn.trans (by decide))
  simp only [rowToDispatch, rowOf, strToStatus_statusToStr, column_map strToRunStatus_runStatusToStr,
    hterm, map_asU64 hf.leaseUntil, map_asU64 hf.completedAt, asU8_natCast hf.priority,
    h64 _ hf.availableAt, h64 _ hf.createdAt, h64 _ hf.updatedAt, h64 _ he,
    asU32_natCast hattempt, asU32_natCast hf.maxAttempts, bind, Except.bind]
  exact congrArg (fun r => r >>= fun _ => Except.ok d) hs.valid

end Decoding

section Updates

variable {codec : Codec J} {d : RunDispatch} {now : Nat}

lemma setSuperseded_rowOf (hp : d.NoProjection) (hn : now < 2 ^ 63) (reason : String) :
    setSuperseded now reason (rowOf codec d) = rowOf codec (d.superseded now (some reason)) := by
  obtain ⟨h₁, h₂, h₃, h₄, h₅⟩ := hp
  simp [setSuperseded, rowOf, RunDispatch.superseded, clearClaimFields, clearRuntimeProjection,
    asI64_of_lt hn, statusToStr, h₁, h₂, h₃, h₄, h₅]

lemma setSupersededAtEpoch_rowOf (hp : d.NoProjection) (hn : now < 2 ^ 63) {epoch : Nat}
    (he : epoch < 2 ^ 63) (reason : String) :
    setSupersededAtEpoch (asI64 epoch) now reason (rowOf codec d) =
      rowOf codec ((d.atEpoch epoch).superseded now (some reason)) := by
  rw [setSupersededAtEpoch, setSuperseded_rowOf hp hn reason, asI64_of_lt he]
  rfl

lemma setClaimed_rowOf {leaseUntil : Nat} (hn : now < 2 ^ 63) (hl : leaseUntil < 2 ^ 63)
    (token consumerId : String) :
    setClaimed token consumerId leaseUntil now (rowOf codec d) =
      rowOf codec (d.claimedFor consumerId token leaseUntil now) := by
  simp [setClaimed, rowOf, RunDispatch.claimedFor, asI64_of_lt hn, asI64_of_lt hl, statusToStr]

lemma setAcked_rowOf (hn : now < 2 ^ 63) :
    setAcked now (rowOf codec d) = rowOf codec (d.acked now) := by
  simp [setAcked, rowOf, RunDispatch.acked, clearClaimFields, asI64_of_lt hn, statusToStr]

lemma setStarted_rowOf (hn : now < 2 ^ 63) (instanceId : String) :
    setStarted instanceId now (rowOf codec d) =
      rowOf codec (d.started instanceId now) := by
  simp [setStarted, rowOf, RunDispatch.started, asI64_of_lt hn]

lemma setFinished_rowOf (hn : now < 2 ^ 63) (result : RunDispatchResult) :
    setFinished codec result now (rowOf codec d) =
      rowOf codec (d.finished result now) := by
  simp [setFinished, rowOf, RunDispatch.finished, asI64_of_lt hn]

lemma setDeadLettered_rowOf (hn : now < 2 ^ 63) (error : String) :
    setDeadLettered error now (rowOf codec d) =
      rowOf codec (d.deadLettered now error) := by
  simp [setDeadLettered, rowOf, RunDispatch.deadLettered, clearClaimFields, asI64_of_lt hn,
    statusToStr]

lemma setCancelled_rowOf (hn : now < 2 ^ 63) :
    setCancelled now (rowOf codec d) = rowOf codec (d.cancelled now) := by
  simp [setCancelled, rowOf, RunDispatch.cancelled, clearClaimFields, asI64_of_lt hn, statusToStr]

lemma setLease_rowOf {leaseUntil : Nat} (hn : now < 2 ^ 63) (hl : leaseUntil < 2 ^ 63) :
    setLease leaseUntil now (rowOf codec d) =
      rowOf codec (d.leasedUntil leaseUntil now) := by
  simp [setLease, rowOf, RunDispatch.leasedUntil, asI64_of_lt hn, asI64_of_lt hl]

lemma saturatingSucc_of_lt {n : Nat} (h : n + 1 < 2 ^ 32) : saturatingSucc n = n + 1 := by
  unfold saturatingSucc
  omega

lemma lastAttempt_iff (h : d.attemptCount + 1 < 2 ^ 32) :
    d.lastAttempt ↔ d.maxAttempts ≤ d.attemptCount + 1 := by
  rw [RunDispatch.lastAttempt, saturatingSucc_of_lt h]

lemma setNackDeadLettered_rowOf (hn : now < 2 ^ 63) (hl : d.lastAttempt)
    (ha : d.attemptCount + 1 < 2 ^ 32) (retryAt : Nat) (error : String) :
    setNackDeadLettered (d.attemptCount + 1) error now (rowOf codec d) =
      rowOf codec (d.nacked now retryAt error) := by
  rw [RunDispatch.nacked_last hl]
  simp [setNackDeadLettered, rowOf, clearClaimFields, asI64_of_lt hn, statusToStr,
    saturatingSucc_of_lt ha]

lemma setNackRequeued_rowOf (hn : now < 2 ^ 63) {retryAt : Nat} (hr : retryAt < 2 ^ 63)
    (hl : ¬ d.lastAttempt) (ha : d.attemptCount + 1 < 2 ^ 32) (hc : d.completedAt = none)
    (error : String) :
    setNackRequeued (d.attemptCount + 1) error retryAt now (rowOf codec d) =
      rowOf codec (d.nacked now retryAt error) := by
  rw [RunDispatch.nacked_retry hl]
  simp [setNackRequeued, rowOf, clearClaimFields, clearRuntimeProjection, asI64_of_lt hn,
    asI64_of_lt hr, statusToStr, saturatingSucc_of_lt ha, hc]

lemma setReclaimDeadLettered_rowOf (hn : now < 2 ^ 63) (hl : d.lastAttempt)
    (ha : d.attemptCount + 1 < 2 ^ 32) (hv : d.availableAt = now) {error : String}
    (he : d.lastError = some error) :
    setReclaimDeadLettered (d.attemptCount + 1) now (rowOf codec d) =
      rowOf codec (d.expired now error) := by
  rw [RunDispatch.expired_last hl]
  simp [setReclaimDeadLettered, rowOf, clearClaimFields, clearRuntimeProjection, asI64_of_lt hn,
    statusToStr, saturatingSucc_of_lt ha, hv, he]

lemma setReclaimRequeued_rowOf (hn : now < 2 ^ 63) (hl : ¬ d.lastAttempt)
    (ha : d.attemptCount + 1 < 2 ^ 32) (hv : d.availableAt = now) (hc : d.completedAt = none)
    (error : String) :
    setReclaimRequeued (d.attemptCount + 1) now (rowOf codec d) =
      rowOf codec (d.expired now error) := by
  rw [RunDispatch.expired_retry hl]
  simp [setReclaimRequeued, rowOf, clearClaimFields, clearRuntimeProjection, asI64_of_lt hn,
    statusToStr, saturatingSucc_of_lt ha, hv, hc]

end Updates

end Awaken.Stores.SqliteMailbox
