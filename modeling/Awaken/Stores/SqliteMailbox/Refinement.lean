import Awaken.Stores.MemoryMailbox.Changes
import Awaken.Stores.SqliteMailbox.Rows

namespace Awaken.Stores.SqliteMailbox

open Awaken.Lib Awaken.Lib.Text Awaken.Contract.Lifecycle Awaken.Contract.Mailbox
open Awaken.Contract.Storage Awaken.Stores.MailboxState
open Awaken.Stores.MemoryMailbox (InMemoryMailboxStore Inv markSupersededAtEpoch_eq claimed_of_token
  get_put epoch_put)
open SqliteMailboxStore

variable {J : Type}

section Condition

def StaleRow (q : SqliteMailboxStore J) (row : Row J) : Prop :=
  row.dispatchEpoch < (q.threadDispatchEpochs.get row.threadId).getD 0

def BareRow (row : Row J) : Prop :=
  row.dispatchInstanceId = none ∧ row.runStatus = none ∧ row.termination = none ∧
    row.runResponse = none ∧ row.runError = none

def RetryableRow (row : Row J) : Prop :=
  row.attemptCount < row.maxAttempts ∧
    (row.attemptCount + 1 < row.maxAttempts → row.completedAt = none)

def ExpirableRow (now : Nat) (row : Row J) : Prop :=
  row.availableAt = now ∧ RetryableRow row ∧
    (row.maxAttempts ≤ row.attemptCount + 1 → row.lastError = some reasonLeaseExpiredMaxAttempts)

def HolderCondition (q : SqliteMailboxStore J) (id token : String) (P : Row J → Prop) : Prop :=
  ∀ row, q.get id = some row → row.claimToken = some token →
    (StaleRow q row → BareRow row) ∧ (¬ StaleRow q row → P row)

def Admits (q : SqliteMailboxStore J) (x : RunDispatch) : Prop :=
  x.validateForEnqueue = .ok () ∧ ∀ key, x.dedupeKey = some key → q.isDuplicate x key = false

def NothingToClaim (q : SqliteMailboxStore J) (threadId : String) (now limit : Nat) : Prop :=
  limit = 0 ∨ q.hasClaimed threadId = true ∨
    ∀ k row, q.get k = some row → row.threadId = threadId → row.status = "Queued" →
      ¬ StaleRow q row → ¬ row.availableAt ≤ now

/-- The calls, in a state of the database, on which its statements do what the transitions do. -/
def Faithful (q : SqliteMailboxStore J) : MailboxOp → Prop
  | .enqueue x => Fits x ∧ (Admits q x → q.get x.dispatchId = none)
  | .claim threadId consumerId leaseMs now limit token =>
    now + leaseMs < 2 ^ 63 ∧ limit < 2 ^ 63 ∧ isBlank token = false ∧
      (isBlank consumerId = false ∨ NothingToClaim q threadId now limit)
  | .claimDispatch dispatchId consumerId leaseMs now token =>
    now + leaseMs < 2 ^ 63 ∧ isBlank token = false ∧
      (isBlank consumerId = false ∨ ∀ row, q.get dispatchId = some row → row.status = "Queued" →
        StaleRow q row ∨ q.hasOtherClaimed row.threadId dispatchId = true)
  | .ack dispatchId claimToken now =>
    -- the two stores give a stale ack different reasons
    now < 2 ^ 63 ∧ ∀ row, q.get dispatchId = some row → row.claimToken = some claimToken →
      ¬ StaleRow q row
  | .recordDispatchStart dispatchId claimToken _ now =>
    now < 2 ^ 63 ∧ HolderCondition q dispatchId claimToken (fun _ => True)
  | .recordRunResult dispatchId claimToken result now =>
    now < 2 ^ 63 ∧ HolderCondition q dispatchId claimToken (fun row => result.runId = row.runId)
  | .nack dispatchId claimToken retryAt _ now =>
    now < 2 ^ 63 ∧ retryAt < 2 ^ 63 ∧ HolderCondition q dispatchId claimToken RetryableRow
  | .deadLetter dispatchId claimToken _ now =>
    now < 2 ^ 63 ∧ HolderCondition q dispatchId claimToken (fun _ => True)
  | .cancel _ now => now < 2 ^ 63
  | .extendLease dispatchId claimToken extensionMs now =>
    now + extensionMs < 2 ^ 63 ∧ HolderCondition q dispatchId claimToken (fun _ => True)
  | .interrupt threadId now =>
    now < 2 ^ 63 ∧ (q.threadDispatchEpochs.get threadId).getD 0 + 1 < 2 ^ 63
  | .interruptDetailed threadId now =>
    now < 2 ^ 63 ∧ (q.threadDispatchEpochs.get threadId).getD 0 + 1 < 2 ^ 63
  | .supersedeClaimed dispatchId claimToken now _ =>
    now < 2 ^ 63 ∧
      ∀ row, q.get dispatchId = some row → row.claimToken = some claimToken → BareRow row
  | .reclaimExpiredLeases now limit =>
    now < 2 ^ 63 ∧ limit < 2 ^ 63 ∧
      (limit = 0 ∨ ∀ k row, q.get k = some row → isExpired now row = true →
        (StaleRow q row → BareRow row) ∧
        (¬ StaleRow q row → ExpirableRow now row))
  | .purgeTerminal olderThan =>
    -- the in-memory store forgets the epoch of a thread without dispatches
    olderThan < 2 ^ 63 ∧ ∀ t, (q.threadDispatchEpochs.get t).getD 0 ≠ 0 →
      ∃ k row, q.get k = some row ∧ row.threadId = t ∧ isPurgeable olderThan row = false
  | _ => True

end Condition

structure Sim (codec : Codec J) (q : SqliteMailboxStore J) (m : InMemoryMailboxStore) : Prop where
  rows : ∀ k, q.get k = (m.get k).map (rowOf codec)
  epochs : ∀ t, (q.threadDispatchEpochs.get t).getD 0 = m.epoch t
  epochFits : ∀ t, m.epoch t < 2 ^ 63
  sound : ∀ k d, m.get k = some d → Sound d

variable {codec : Codec J} {q : SqliteMailboxStore J} {m : InMemoryMailboxStore} {k : String}
  {d d' : RunDispatch}

section Basics

lemma Sim.row (h : Sim codec q m) (hd : m.get k = some d) : q.get k = some (rowOf codec d) := by
  rw [h.rows, hd, Option.map_some]

lemma Sim.epoch (h : Sim codec q m) (t : String) : q.currentEpochForConn t = m.epoch t := by
  rw [currentEpochForConn, h.epochs, asU64_natCast ((h.epochFits t).trans (by decide))]

lemma Sim.dispatchEpoch_fits (h : Sim codec q m) (hi : Inv m) (hd : m.get k = some d) :
    d.dispatchEpoch < 2 ^ 63 :=
  Nat.lt_of_le_of_lt (hi.bounded k d hd) (h.epochFits d.threadId)

lemma Sim.load_some (hj : ∀ t, codec.fromJson (codec.toJson t) = .ok t) (h : Sim codec q m)
    (hd : m.get k = some d) (he : d.dispatchEpoch < 2 ^ 63) (label : String) :
    q.load codec label k = .ok (some d) := by
  unfold SqliteMailboxStore.load
  rw [h.row hd]
  simp only [rowToDispatch_rowOf hj (h.sound k d hd) he]

lemma Sim.load_none (h : Sim codec q m) (hd : m.get k = none) (label : String) :
    q.load codec label k = .ok none := by
  unfold SqliteMailboxStore.load
  rw [h.rows, hd]
  rfl

lemma Sim.stale (h : Sim codec q m) (d : RunDispatch) :
    StaleRow q (rowOf codec d) ↔ d.dispatchEpoch < m.epoch d.threadId := by
  rw [StaleRow, show (rowOf codec d).threadId = d.threadId from rfl, h.epochs]
  simp only [rowOf]
  omega

lemma bareRow_rowOf (d : RunDispatch) :
    BareRow (rowOf codec d) ↔ d.NoProjection := by
  simp only [BareRow, rowOf, Option.map_eq_none_iff, RunDispatch.NoProjection]

lemma retryableRow_rowOf (d : RunDispatch) :
    RetryableRow (rowOf codec d) ↔ d.attemptCount < d.maxAttempts ∧
      (d.attemptCount + 1 < d.maxAttempts → d.completedAt = none) := by
  simp only [RetryableRow, rowOf, Option.map_eq_none_iff]
  norm_cast

lemma expirableRow_rowOf (d : RunDispatch) (now : Nat) :
    ExpirableRow now (rowOf codec d) ↔ d.availableAt = now ∧ d.attemptCount < d.maxAttempts ∧
      (d.attemptCount + 1 < d.maxAttempts → d.completedAt = none) ∧
      (d.maxAttempts ≤ d.attemptCount + 1 → d.lastError = some reasonLeaseExpiredMaxAttempts) := by
  rw [ExpirableRow, retryableRow_rowOf, and_assoc]
  simp only [rowOf]
  norm_cast

lemma Sim.update (h : Sim codec q m) (hd : m.get k = some d) {set : Row J → Row J}
    (hset : set (rowOf codec d) = rowOf codec d') (hs : Sound d') :
    Sim codec (q.update k set) (m.put k d') where
  rows := by
    intro j
    rw [get_put hd, SqliteMailboxStore.get, SqliteMailboxStore.update, Table.get_modify]
    by_cases hj : j = k
    · rw [if_pos hj, if_pos hj, hj, ← SqliteMailboxStore.get, h.row hd, Option.map_some, hset,
        Option.map_some]
    · rw [if_neg hj, if_neg hj, ← SqliteMailboxStore.get, h.rows]
  epochs := h.epochs
  epochFits := h.epochFits
  sound := by
    intro j e' he
    rw [get_put hd] at he
    split at he
    · cases he
      exact hs
    · exact h.sound j e' he

end Basics

section Soundness

variable {now : Nat}

lemma fits_none (n : Nat) (h : none = some n) : n < 2 ^ 63 := nomatch h

lemma fits_some (hn : now < 2 ^ 63) (n : Nat) (h : some now = some n) : n < 2 ^ 63 :=
  Option.some.inj h ▸ hn

lemma Sound.superseded (h : Sound d) (hw : d.WellFormed) (hn : now < 2 ^ 63) (epoch : Nat)
    (reason : Option String) : Sound ((d.atEpoch epoch).superseded now reason) where
  valid := ((hw.atEpoch epoch).superseded now reason).validateForPersist h.attempts
    (fun hc => nomatch hc)
  fits := ⟨h.fits.priority, h.fits.availableAt, h.fits.maxAttempts, fits_none,
    fits_some hn, h.fits.createdAt, hn⟩

lemma Sound.acked (h : Sound d) (hw : d.WellFormed) (hn : now < 2 ^ 63) : Sound (d.acked now) where
  valid := (hw.acked now).validateForPersist h.attempts (fun hc => nomatch hc)
  fits := ⟨h.fits.priority, h.fits.availableAt, h.fits.maxAttempts, fits_none,
    fits_some hn, h.fits.createdAt, hn⟩

lemma Sound.cancelled (h : Sound d) (hw : d.WellFormed) (hn : now < 2 ^ 63) :
    Sound (d.cancelled now) where
  valid := (hw.cancelled now).validateForPersist h.attempts (fun hc => nomatch hc)
  fits := ⟨h.fits.priority, h.fits.availableAt, h.fits.maxAttempts, fits_none,
    fits_some hn, h.fits.createdAt, hn⟩

lemma Sound.deadLettered (h : Sound d) (hw : d.WellFormed) (hn : now < 2 ^ 63) (error : String) :
    Sound (d.deadLettered now error) where
  valid := (hw.deadLettered now error).validateForPersist h.attempts (fun hc => nomatch hc)
  fits := ⟨h.fits.priority, h.fits.availableAt, h.fits.maxAttempts, fits_none,
    fits_some hn, h.fits.createdAt, hn⟩

lemma Sound.claimedFor (h : Sound d) (hw : d.WellFormed) (hs : d.status = .queued)
    {consumerId token : String} {leaseUntil : Nat} (hc : isBlank consumerId = false)
    (ht : isBlank token = false) (hl : leaseUntil < 2 ^ 63) (hn : now < 2 ^ 63) :
    Sound (d.claimedFor consumerId token leaseUntil now) where
  valid := (hw.claimedFor hs consumerId token leaseUntil now).validateForPersist h.attempts
    (fun _ => ⟨ht, hc⟩)
  fits := ⟨h.fits.priority, h.fits.availableAt, h.fits.maxAttempts,
    fits_some hl, h.fits.completedAt, h.fits.createdAt, hn⟩

lemma Sound.leasedUntil (h : Sound d) (hw : d.WellFormed) (hs : d.status = .claimed)
    {leaseUntil : Nat} (hl : leaseUntil < 2 ^ 63) (hn : now < 2 ^ 63) :
    Sound (d.leasedUntil leaseUntil now) where
  valid := (hw.leasedUntil hs leaseUntil now).validateForPersist h.attempts
    (fun _ => h.namedLease hs)
  fits := ⟨h.fits.priority, h.fits.availableAt, h.fits.maxAttempts,
    fits_some hl, h.fits.completedAt, h.fits.createdAt, hn⟩

lemma Sound.started (h : Sound d) (hw : d.WellFormed) (hs : d.status = .claimed)
    (hn : now < 2 ^ 63) (instanceId : String) : Sound (d.started instanceId now) where
  valid := (hw.started hs instanceId now).validateForPersist h.attempts (fun _ => h.namedLease hs)
  fits := ⟨h.fits.priority, h.fits.availableAt, h.fits.maxAttempts, h.fits.leaseUntil,
    fits_none, h.fits.createdAt, hn⟩

lemma Sound.finished (h : Sound d) (hw : d.WellFormed) (hs : d.status = .claimed)
    (hn : now < 2 ^ 63) (result : RunDispatchResult) : Sound (d.finished result now) where
  valid := (hw.finished hs result now).validateForPersist h.attempts (fun _ => h.namedLease hs)
  fits := ⟨h.fits.priority, h.fits.availableAt, h.fits.maxAttempts, h.fits.leaseUntil,
    fits_some hn, h.fits.createdAt, hn⟩

lemma Sound.succ_fits (h : Sound d) (ha : d.attemptCount < d.maxAttempts) :
    d.attemptCount + 1 < 2 ^ 32 := Nat.lt_of_le_of_lt ha h.fits.maxAttempts

lemma Sound.nacked (h : Sound d) (hw : d.WellFormed) (ha : d.attemptCount < d.maxAttempts)
    {retryAt : Nat} (hr : retryAt < 2 ^ 63) (hn : now < 2 ^ 63) (error : String) :
    Sound (d.nacked now retryAt error) := by
  have hsat := saturatingSucc_of_lt (h.succ_fits ha)
  have hwn := hw.nacked now retryAt error
  by_cases hl : d.lastAttempt
  · rw [RunDispatch.nacked_last hl] at hwn ⊢
    refine ⟨hwn.validateForPersist (hsat ▸ ha) (fun hc => nomatch hc), ?_⟩
    exact ⟨h.fits.priority, h.fits.availableAt, h.fits.maxAttempts, fits_none,
      fits_some hn, h.fits.createdAt, hn⟩
  · rw [RunDispatch.nacked_retry hl] at hwn ⊢
    refine ⟨hwn.validateForPersist (hsat ▸ ha) (fun hc => nomatch hc), ?_⟩
    exact ⟨h.fits.priority, hr, h.fits.maxAttempts, fits_none,
      fits_none, h.fits.createdAt, hn⟩

lemma Sound.expired (h : Sound d) (hw : d.WellFormed) (ha : d.attemptCount < d.maxAttempts)
    (hn : now < 2 ^ 63) (error : String) : Sound (d.expired now error) := by
  have hsat := saturatingSucc_of_lt (h.succ_fits ha)
  have hwx := hw.expired now error
  by_cases hl : d.lastAttempt
  · rw [RunDispatch.expired_last hl] at hwx ⊢
    refine ⟨hwx.validateForPersist (hsat ▸ ha) (fun hc => nomatch hc), ?_⟩
    exact ⟨h.fits.priority, hn, h.fits.maxAttempts, fits_none,
      fits_some hn, h.fits.createdAt, hn⟩
  · rw [RunDispatch.expired_retry hl] at hwx ⊢
    refine ⟨hwx.validateForPersist (hsat ▸ ha) (fun hc => nomatch hc), ?_⟩
    exact ⟨h.fits.priority, hn, h.fits.maxAttempts, fits_none,
      fits_none, h.fits.createdAt, hn⟩

end Soundness

end Awaken.Stores.SqliteMailbox
