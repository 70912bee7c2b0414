import Awaken.Stores.SqliteMailbox.Refinement

namespace Awaken.Stores.SqliteMailbox

open Awaken.Lib Awaken.Lib.Text Awaken.Contract.Lifecycle Awaken.Contract.Mailbox
open Awaken.Contract.Storage Awaken.Stores.MailboxState
open Awaken.Stores.MemoryMailbox (InMemoryMailboxStore Inv markSupersededAtEpoch_eq markAcked_eq
  markDeadLetter_eq markNackResult_snd markExpiredLease_snd markCancelled_eq claimOne_snd
  claimed_of_token get_put epoch_put)
open RunDispatch (transition_of_eq nacked_same)
open SqliteMailboxStore

variable {J : Type} {codec : Codec J} {q : SqliteMailboxStore J} {m : InMemoryMailboxStore}
  {k : String} {d d' : RunDispatch}

section Holder

variable {id token : String} {now : Nat}

lemma Sim.supersede (hj : ∀ t, codec.fromJson (codec.toJson t) = .ok t)
    (h : Sim codec q m) (hi : Inv m) (hd : m.get k = some d) (hs : d.status = .claimed)
    (ht : d.claimToken = some token) (hp : d.NoProjection) (hn : now < 2 ^ 63) (reason : String) :
    ∃ x q', q.supersedeClaimedLoaded codec d token now reason = (.ok x, q') ∧
      Sim codec q'
        (m.put k ((d.atEpoch (m.epoch d.threadId)).superseded now (some reason))) := by
  have hw := hi.wellFormed k d hd
  have hk : d.dispatchId = k := hi.key k d hd
  have hup := h.update hd (setSupersededAtEpoch_rowOf hp hn (h.epochFits d.threadId) reason)
    ((h.sound k d hd).superseded hw hn _ _)
  have hget : (m.put k ((d.atEpoch (m.epoch d.threadId)).superseded now (some reason))).get k =
      some ((d.atEpoch (m.epoch d.threadId)).superseded now (some reason)) := by
    rw [get_put hd, if_pos rfl]
  have hload := hup.load_some hj hget (h.epochFits d.threadId) "supersede claimed reload"
  have hmax : max d.dispatchEpoch (q.currentEpochForConn d.threadId) = m.epoch d.threadId := by
    rw [h.epoch]
    exact max_eq_right (hi.bounded k d hd)
  have hclaimed : (q.get k).any (isStillClaimed token) = true := by
    rw [h.row hd]
    simp [isStillClaimed, rowOf, hs, ht]
  have he : q.supersedeClaimedLoaded codec d token now reason =
      ((q.update k (setSupersededAtEpoch (asI64 (m.epoch d.threadId)) now reason)).load codec
          "supersede claimed reload" k,
        q.update k (setSupersededAtEpoch (asI64 (m.epoch d.threadId)) now reason)) := by
    simp only [SqliteMailboxStore.supersedeClaimedLoaded, hmax, hk, hclaimed, hs, ht, ne_eq,
      not_true_eq_false, if_false, if_true]
  rw [hload] at he
  exact ⟨_, _, he, hup⟩

lemma Sim.supersedeStale (hj : ∀ t, codec.fromJson (codec.toJson t) = .ok t)
    (h : Sim codec q m) (hi : Inv m) (hd : m.get k = some d) (hs : d.status = .claimed)
    (ht : d.claimToken = some token) (hp : d.dispatchEpoch < m.epoch d.threadId → d.NoProjection)
    (hn : now < 2 ^ 63) (reason : String) :
    if d.dispatchEpoch < m.epoch d.threadId then
      ∃ q', q.supersedeStaleClaimedIfNeeded codec d token now reason = (.ok true, q') ∧
        Sim codec q' (m.put k ((d.atEpoch (m.epoch d.threadId)).superseded now (some reason)))
    else q.supersedeStaleClaimedIfNeeded codec d token now reason = (.ok false, q) := by
  have hep : d.dispatchEpoch ≥ q.currentEpochForConn d.threadId ↔
      ¬ d.dispatchEpoch < m.epoch d.threadId := by
    rw [h.epoch, Nat.not_lt]
  rw [SqliteMailboxStore.supersedeStaleClaimedIfNeeded]
  split
  · next hst =>
    obtain ⟨x, q', he, hsim⟩ := h.supersede hj hi hd hs ht (hp hst) hn reason
    refine ⟨q', ?_, hsim⟩
    rw [if_neg (hep.not.mpr (not_not.mpr hst)), he]
    rfl
  · next hst => rw [if_pos (hep.mpr hst)]

def SameReason (q : SqliteMailboxStore J) (id token reason reason' : String) : Prop :=
  reason' = reason ∨ ∀ row, q.get id = some row → row.claimToken = some token → ¬ StaleRow q row

lemma Sim.asHolder (hj : ∀ t, codec.fromJson (codec.toJson t) = .ok t)
    (h : Sim codec q m) (hi : Inv m) (hn : now < 2 ^ 63) {P : Row J → Prop}
    (hc : HolderCondition q id token P) (label : String) {reason reason' : String}
    (hreason : SameReason q id token reason reason') (checkStatus : Bool)
    {set : RunDispatch → Row J → Row J}
    {body : RunDispatch → Outcome StorageError Unit × RunDispatch}
    (hbody : ∀ d, m.get id = some d → d.status = .claimed → Sound d → d.WellFormed →
      P (rowOf codec d) → set d (rowOf codec d) = rowOf codec (body d).2 ∧ Sound (body d).2) :
    Sim codec (q.asHolder codec label id token now checkStatus reason set).2
      (m.asHolder id token now checkStatus reason' body).2 := by
  unfold SqliteMailboxStore.asHolder InMemoryMailboxStore.asHolder
  cases hd : m.get id with
  | none =>
    rw [h.load_none hd]
    exact h
  | some d =>
    have hw := hi.wellFormed id d hd
    rw [h.load_some hj hd (h.dispatchEpoch_fits hi hd)]
    by_cases hg : (checkStatus ∧ d.status ≠ .claimed) ∨ d.claimToken ≠ some token
    · simp only [if_pos hg]
      exact h
    · have ht : d.claimToken = some token := not_not.mp (not_or.mp hg).2
      have hs := claimed_of_token hw ht
      obtain ⟨hbare, hP⟩ := hc _ (h.row hd) ht
      rw [h.stale] at hbare hP
      rw [bareRow_rowOf] at hbare
      have hsup := h.supersedeStale hj hi hd hs ht hbare hn reason
      simp only [if_neg hg]
      by_cases hst : d.dispatchEpoch < m.epoch d.threadId
      · have he : reason' = reason :=
          hreason.resolve_right (fun hno => hno _ (h.row hd) ht ((h.stale d).mpr hst))
        rw [if_pos hst] at hsup ⊢
        obtain ⟨q', hq', hsim⟩ := hsup
        rw [hq', he, markSupersededAtEpoch_eq hw (.inr hs)]
        exact hsim
      · rw [if_neg hst] at hsup ⊢
        rw [hsup]
        obtain ⟨hset, hsound⟩ := hbody d hd hs (h.sound id d hd) hw (hP hst)
        exact h.update hd hset hsound

lemma Sim.ack (hj : ∀ t, codec.fromJson (codec.toJson t) = .ok t) (h : Sim codec q m)
    (hi : Inv m) (hf : Faithful q (.ack id token now)) :
    Sim codec (q.ack codec id token now).2 (m.ack id token now).2 := by
  obtain ⟨hn, hstale⟩ := hf
  have hc : HolderCondition q id token (fun _ => True) := fun row hrow ht =>
    ⟨fun hst => absurd hst (hstale row hrow ht), fun _ => trivial⟩
  refine h.asHolder hj hi hn hc _ (.inr hstale) _ (fun d _ hs hsound hw _ => ?_)
  rw [markAcked_eq hw hs]
  exact ⟨setAcked_rowOf hn, hsound.acked hw hn⟩

lemma Sim.recordDispatchStart (hj : ∀ t, codec.fromJson (codec.toJson t) = .ok t)
    (h : Sim codec q m) (hi : Inv m) {instanceId : String}
    (hf : Faithful q (.recordDispatchStart id token instanceId now)) :
    Sim codec (q.recordDispatchStart codec id token instanceId now).2
      (m.recordDispatchStart id token instanceId now).2 := by
  refine h.asHolder hj hi hf.1 hf.2 _ (.inl rfl) _ (fun d _ hs hsound hw _ => ?_)
  rw [RunDispatch.recordDispatchStart, transition_of_eq hs]
  exact ⟨setStarted_rowOf hf.1 _, hsound.started hw hs hf.1 _⟩

lemma Sim.recordRunResult (hj : ∀ t, codec.fromJson (codec.toJson t) = .ok t)
    (h : Sim codec q m) (hi : Inv m) {result : RunDispatchResult}
    (hf : Faithful q (.recordRunResult id token result now)) :
    Sim codec (q.recordRunResult codec id token result now).2
      (m.recordRunResult id token result now).2 := by
  refine h.asHolder hj hi hf.1 hf.2 _ (.inl rfl) _ (fun d _ hs hsound hw hP => ?_)
  have hrun : result.runId = d.runId := hP
  have he : (d.recordRunResult result now).2 = d.finished result now := by
    simp [RunDispatch.recordRunResult, RunDispatch.requireStatus, hs, hrun]
  exact ⟨(setFinished_rowOf hf.1 result).trans (by rw [← he]),
    by rw [he]; exact hsound.finished hw hs hf.1 result⟩

lemma Sim.deadLetter (hj : ∀ t, codec.fromJson (codec.toJson t) = .ok t)
    (h : Sim codec q m) (hi : Inv m) {error : String}
    (hf : Faithful q (.deadLetter id token error now)) :
    Sim codec (q.deadLetter codec id token error now).2 (m.deadLetter id token error now).2 := by
  refine h.asHolder hj hi hf.1 hf.2 _ (.inl rfl) _ (fun d _ hs hsound hw _ => ?_)
  rw [markDeadLetter_eq hw hs]
  exact ⟨setDeadLettered_rowOf hf.1 error, hsound.deadLettered hw hf.1 error⟩

lemma Sim.nack (hj : ∀ t, codec.fromJson (codec.toJson t) = .ok t) (h : Sim codec q m)
    (hi : Inv m) {retryAt : Nat} {error : String}
    (hf : Faithful q (.nack id token retryAt error now)) :
    Sim codec (q.nack codec id token retryAt error now).2
      (m.nack id token retryAt error now).2 := by
  obtain ⟨hn, hr, hc⟩ := hf
  refine h.asHolder hj hi hn hc _ (.inl rfl) _ (fun d _ hs hsound hw hP => ?_)
  obtain ⟨ha, hcompleted⟩ := (retryableRow_rowOf _).mp hP
  have hfit := hsound.succ_fits ha
  rw [markNackResult_snd hs]
  refine ⟨?_, hsound.nacked hw ha hr hn error⟩
  by_cases hl : d.maxAttempts ≤ d.attemptCount + 1
  · exact (congrFun (if_pos hl) _).trans (setNackDeadLettered_rowOf hn
      ((lastAttempt_iff hfit).mpr hl) hfit retryAt error)
  · exact (congrFun (if_neg hl) _).trans (setNackRequeued_rowOf hn hr
      (mt (lastAttempt_iff hfit).mp hl) hfit (hcompleted (Nat.not_le.mp hl)) error)

lemma Sim.extendLease (hj : ∀ t, codec.fromJson (codec.toJson t) = .ok t)
    (h : Sim codec q m) (hi : Inv m) {extensionMs : Nat}
    (hf : Faithful q (.extendLease id token extensionMs now)) :
    Sim codec (q.extendLease codec id token extensionMs now).2
      (m.extendLease id token extensionMs now).2 := by
  obtain ⟨hl, hc⟩ := hf
  have hn : now < 2 ^ 63 := Nat.lt_of_le_of_lt (Nat.le_add_right _ _) hl
  unfold SqliteMailboxStore.extendLease InMemoryMailboxStore.extendLease
  cases hd : m.get id with
  | none =>
    rw [h.load_none hd]
    exact h
  | some d =>
    have hw := hi.wellFormed id d hd
    rw [h.load_some hj hd (h.dispatchEpoch_fits hi hd)]
    by_cases hg : d.status ≠ .claimed ∨ d.claimToken ≠ some token
    · simp only [if_pos hg]
      exact h
    · simp only [if_neg hg]
      obtain ⟨hs, ht⟩ := not_or.mp hg
      rw [ne_eq, not_not] at hs ht
      obtain ⟨hbare, _⟩ := hc _ (h.row hd) ht
      rw [h.stale, bareRow_rowOf] at hbare
      have hsup := h.supersedeStale hj hi hd hs ht hbare hn
        reasonClaimedSupersededDuringLeaseRenewal
      by_cases hst : d.dispatchEpoch < m.epoch d.threadId
      · rw [if_pos hst] at hsup ⊢
        obtain ⟨q', he, hsim⟩ := hsup
        rw [he, markSupersededAtEpoch_eq hw (.inr hs)]
        exact hsim
      · rw [if_neg hst] at hsup ⊢
        rw [hsup, RunDispatch.extendLease, transition_of_eq hs]
        have hclaimed : isStillClaimed token (rowOf codec d) = true := by
          simp [isStillClaimed, rowOf, hs, ht]
        exact h.update hd ((if_pos hclaimed).trans (setLease_rowOf hn hl))
          ((h.sound id d hd).leasedUntil hw hs hl hn)

lemma Sim.supersedeClaimed (hj : ∀ t, codec.fromJson (codec.toJson t) = .ok t)
    (h : Sim codec q m) (hi : Inv m) {reason : String}
    (hf : Faithful q (.supersedeClaimed id token now reason)) :
    Sim codec (q.supersedeClaimed codec id token now reason).2
      (m.supersedeClaimed id token now reason).2 := by
  obtain ⟨hn, hc⟩ := hf
  unfold SqliteMailboxStore.supersedeClaimed InMemoryMailboxStore.supersedeClaimed
  cases hd : m.get id with
  | none =>
    rw [h.load_none hd]
    exact h
  | some d =>
    have hw := hi.wellFormed id d hd
    rw [h.load_some hj hd (h.dispatchEpoch_fits hi hd)]
    by_cases hs : d.status = .claimed
    · by_cases ht : d.claimToken = some token
      · have hp := (bareRow_rowOf _).mp (hc _ (h.row hd) ht)
        obtain ⟨x, q', he, hsim⟩ := h.supersede hj hi hd hs ht hp hn reason
        simp only [he, if_neg (not_not.mpr hs), if_neg (not_not.mpr ht),
          max_eq_right (hi.bounded id d hd), markSupersededAtEpoch_eq hw (.inr hs)]
        exact hsim
      · simp only [SqliteMailboxStore.supersedeClaimedLoaded, hs, ht, ne_eq, not_true_eq_false,
          not_false_eq_true, if_false, if_true]
        exact h
    · simp only [SqliteMailboxStore.supersedeClaimedLoaded, hs, ne_eq, not_false_eq_true, if_true]
      exact h

end Holder

section Queued

variable {id : String} {now : Nat}

lemma queued_noProjection (hw : d.WellFormed) (hs : d.status = .queued) : d.NoProjection :=
  (hw.queued hs).2

lemma Sim.cancel (hj : ∀ t, codec.fromJson (codec.toJson t) = .ok t) (h : Sim codec q m)
    (hi : Inv m) (hf : Faithful q (.cancel id now)) :
    Sim codec (q.cancel codec id now).2 (m.cancel id now).2 := by
  have hn : now < 2 ^ 63 := hf
  unfold SqliteMailboxStore.cancel InMemoryMailboxStore.cancel
  cases hd : m.get id with
  | none =>
    rw [h.load_none hd]
    exact h
  | some d =>
    have hw := hi.wellFormed id d hd
    rw [h.load_some hj hd (h.dispatchEpoch_fits hi hd)]
    by_cases hs : d.status ≠ .queued
    · simp only [if_pos hs]
      exact h
    · simp only [if_neg hs, markCancelled_eq hw (not_not.mp hs)]
      exact h.update hd (setCancelled_rowOf hn) ((h.sound id d hd).cancelled hw hn)

lemma Sim.hasOtherClaimed (h : Sim codec q m) (threadId id : String) :
    q.hasOtherClaimed threadId id = m.hasOtherClaimed threadId id := by
  rw [SqliteMailboxStore.hasOtherClaimed, InMemoryMailboxStore.hasOtherClaimed, Bool.eq_iff_iff,
    Table.any_values, Table.any_values]
  refine exists_congr (fun k => ?_)
  rw [show q.runDispatches.get k = _ from h.rows k]
  cases hd : m.dispatches.get k with
  | none => simp [InMemoryMailboxStore.get, hd]
  | some d => simp [InMemoryMailboxStore.get, hd, rowOf]

lemma Sim.claimDispatch (hj : ∀ t, codec.fromJson (codec.toJson t) = .ok t)
    (h : Sim codec q m) (hi : Inv m) {consumerId token : String} {leaseMs : Nat}
    (hf : Faithful q (.claimDispatch id consumerId leaseMs now token)) :
    Sim codec (q.claimDispatch codec id consumerId leaseMs now token).2
      (m.claimDispatch id consumerId leaseMs now token).2 := by
  obtain ⟨hl, htoken, hconsumer⟩ := hf
  have hn : now < 2 ^ 63 := Nat.lt_of_le_of_lt (Nat.le_add_right _ _) hl
  unfold SqliteMailboxStore.claimDispatch InMemoryMailboxStore.claimDispatch
  cases hd : m.get id with
  | none =>
    rw [h.load_none hd]
    exact h
  | some d =>
    have hw := hi.wellFormed id d hd
    rw [h.load_some hj hd (h.dispatchEpoch_fits hi hd)]
    by_cases hs : d.status ≠ .queued
    · simp only [if_pos hs]
      exact h
    · have hq := not_not.mp hs
      simp only [if_neg hs, h.epoch, h.hasOtherClaimed]
      by_cases hst : d.dispatchEpoch < m.epoch d.threadId
      · rw [if_pos hst, if_pos hst, markSupersededAtEpoch_eq hw (.inl hq)]
        refine h.update hd ?_ ((h.sound id d hd).superseded hw hn _ _)
        exact (if_pos ((statusToStr_queued _).mpr hq)).trans
          (setSupersededAtEpoch_rowOf (queued_noProjection hw hq) hn (h.epochFits _) _)
      · rw [if_neg hst, if_neg hst]
        by_cases ho : m.hasOtherClaimed d.threadId id = true
        · rw [if_pos ho, if_pos ho]
          exact h
        · rw [if_neg ho, if_neg ho, claimOne_snd hq]
          have hblank : isBlank consumerId = false := by
            refine hconsumer.resolve_right (fun hno => ?_)
            rcases hno _ (h.row hd) ((statusToStr_queued _).mpr hq) with hstale | hclaimed
            · exact hst ((h.stale _).mp hstale)
            · exact ho ((h.hasOtherClaimed _ _).symm.trans hclaimed)
          exact h.update hd (setClaimed_rowOf hn hl token consumerId)
            ((h.sound id d hd).claimedFor hw hq hblank htoken hl hn)

end Queued

section Sweeps

variable {threadId : String} {now : Nat}

lemma Sim.updateWhere (h : Sim codec q m) {m' : InMemoryMailboxStore}
    {p : Row J → Bool} {set : Row J → Row J} (changed : RunDispatch → Bool)
    (f : RunDispatch → RunDispatch)
    (hget : ∀ k, m'.get k = (m.get k).map (fun d => if changed d then f d else d))
    (hep : ∀ t, m'.epoch t = m.epoch t)
    (hp : ∀ k d, m.get k = some d → p (rowOf codec d) = changed d)
    (hset : ∀ k d, m.get k = some d → changed d = true →
      set (rowOf codec d) = rowOf codec (f d) ∧ Sound (f d)) :
    Sim codec (q.updateWhere p set) m' where
  rows := by
    intro k
    rw [show (q.updateWhere p set).get k = (q.get k).map (fun row => if p row then set row else row)
      from Table.get_mapValues _ _ _, hget]
    cases hd : m.get k with
    | none =>
      rw [h.rows, hd]
      rfl
    | some d =>
      rw [h.row hd]
      simp only [Option.map_some, hp k d hd]
      split
      · next hc => rw [(hset k d hd hc).1]
      · rfl
  epochs := fun t => by rw [hep]; exact h.epochs t
  epochFits := fun t => by rw [hep]; exact h.epochFits t
  sound := by
    intro k d' hd'
    rw [hget] at hd'
    obtain ⟨d, hd, rfl⟩ := Option.map_eq_some_iff.mp hd'
    split
    · next hc => exact (hset k d hd hc).2
    · exact h.sound k d hd

lemma asI64_epoch (h : Sim codec q m) (t : String) :
    asI64 (q.currentEpochForConn t) = m.epoch t := by
  rw [h.epoch, asI64_of_lt (h.epochFits t)]

lemma Sim.supersedeStaleQueued (h : Sim codec q m) (hi : Inv m) (hn : now < 2 ^ 63) :
    Sim codec (q.supersedeStaleQueuedForThread threadId now)
      (MemoryMailbox.fence m threadId now) := by
  refine h.updateWhere
    (fun d => decide (d.threadId = threadId ∧ d.status = .queued ∧
      d.dispatchEpoch < m.epoch threadId))
    (fun d => (d.atEpoch (m.epoch threadId)).superseded now (some reasonQueuedSupersededByEpoch))
    (fun k => ?_) (fun _ => rfl) (fun k d hd => ?_) (fun k d hd hc => ?_)
  · rw [MemoryMailbox.fence_get]
    simp only [decide_eq_true_eq]
    rfl
  · rw [asI64_epoch h, Bool.eq_iff_iff]
    simp only [Bool.and_eq_true, decide_eq_true_eq, and_assoc]
    simp only [rowOf, statusToStr_queued, Int.ofNat_lt]
  · obtain ⟨ht, hs, _⟩ := decide_eq_true_eq.mp hc
    subst ht
    rw [h.epoch]
    have hw := hi.wellFormed k d hd
    exact ⟨setSupersededAtEpoch_rowOf (queued_noProjection hw hs) hn (h.epochFits _) _,
      (h.sound k d hd).superseded hw hn _ _⟩

lemma Sim.bumpEpoch (h : Sim codec q m) (t : String) :
    ((q.bumpEpoch threadId).threadDispatchEpochs.get t).getD 0 =
      (if t = threadId then m.epoch t + 1 else m.epoch t : Nat) := by
  rw [SqliteMailboxStore.bumpEpoch, Table.get_insert]
  split
  · next ht =>
    rw [Option.getD_some, h.epochs, ht]
    rfl
  · exact h.epochs t

lemma collect_ok {P : RunDispatch → Prop} (label : String) {rows : List (Row J)}
    (hr : ∀ row ∈ rows, ∃ d, rowToDispatch codec row = .ok d ∧ P d) :
    ∃ ds, collect codec label rows = .ok ds ∧ ∀ d ∈ ds, P d := by
  induction rows with
  | nil => exact ⟨[], rfl, by simp⟩
  | cons row rows ih =>
    obtain ⟨d, hd, hp⟩ := hr row List.mem_cons_self
    obtain ⟨ds, hc, hall⟩ := ih (fun row hm => hr row (List.mem_cons_of_mem _ hm))
    exact ⟨d :: ds, by simp [collect, hd, hc, Except.map], List.forall_mem_cons.mpr ⟨hp, hall⟩⟩

lemma markAllSuperseded_ok {ds : List RunDispatch}
    (h : ∀ d ∈ ds, d.WellFormed ∧ d.status = .queued) : ∃ r, markAllSuperseded now ds = .ok r := by
  induction ds with
  | nil => exact ⟨[], rfl⟩
  | cons d ds ih =>
    obtain ⟨hw, hs⟩ := h d List.mem_cons_self
    obtain ⟨r, hr⟩ := ih (fun d hm => h d (List.mem_cons_of_mem _ hm))
    exact ⟨d.superseded now (some reasonQueuedSupersededByInterrupt) :: r, by
      simp [markAllSuperseded, MemoryMailbox.markSuperseded_eq hw hs, hr]⟩

lemma interruptDetailed_snd {ds r : List RunDispatch}
    (hc : collect codec "interrupt superseded collect"
      ((q.bumpEpoch threadId).runDispatches.values.filter (isInterruptible threadId
        (((q.bumpEpoch threadId).threadDispatchEpochs.get threadId).getD 0))) = .ok ds)
    (hm : markAllSuperseded now ds = .ok r) :
    (q.interruptDetailed codec threadId now).2 = (q.bumpEpoch threadId).updateWhere
      (isInterruptible threadId
        (((q.bumpEpoch threadId).threadDispatchEpochs.get threadId).getD 0))
      (setSuperseded now reasonQueuedSupersededByInterrupt) := by
  simp only [SqliteMailboxStore.interruptDetailed, hc, hm]
  split <;> rfl

def bumped (m : InMemoryMailboxStore) (threadId : String) : InMemoryMailboxStore :=
  { m with state := m.state.insert threadId ⟨m.epoch threadId + 1⟩ }

lemma bumped_epoch (m : InMemoryMailboxStore) (threadId t : String) :
    (bumped m threadId).epoch t = if t = threadId then m.epoch t + 1 else m.epoch t := by
  simp only [bumped, InMemoryMailboxStore.epoch, MemoryMailbox.currentEpochFromState,
    Table.get_insert]
  split
  · next ht => rw [ht, Option.map_some, Option.getD_some]
  · rfl

lemma Sim.bumped (h : Sim codec q m)
    (hb : (q.threadDispatchEpochs.get threadId).getD 0 + 1 < 2 ^ 63) :
    Sim codec (q.bumpEpoch threadId) (bumped m threadId) where
  rows := h.rows
  epochs := by
    intro t
    rw [h.bumpEpoch, bumped_epoch]
  epochFits := by
    intro t
    rw [bumped_epoch]
    split
    · next ht =>
      rw [h.epochs] at hb
      rw [ht]
      omega
    · exact h.epochFits t
  sound := h.sound

lemma Sim.interruptDetailed (hj : ∀ t, codec.fromJson (codec.toJson t) = .ok t)
    (h : Sim codec q m) (hi : Inv m) (hn : now < 2 ^ 63)
    (hb : (q.threadDispatchEpochs.get threadId).getD 0 + 1 < 2 ^ 63) :
    Sim codec (q.interruptDetailed codec threadId now).2
      (m.interruptDetailed threadId now).2 := by
  have hcond : ∀ k d, m.get k = some d →
      isInterruptible threadId (((q.bumpEpoch threadId).threadDispatchEpochs.get threadId).getD 0)
        (rowOf codec d) =
      decide (d.threadId = threadId ∧ d.status = .queued ∧ d.dispatchEpoch ≤ m.epoch threadId) := by
    intro k d _
    rw [h.bumpEpoch, if_pos rfl, Bool.eq_iff_iff]
    simp only [isInterruptible, Bool.and_eq_true, decide_eq_true_eq, and_assoc]
    simp only [rowOf, statusToStr_queued]
    refine and_congr_right (fun _ => and_congr_right (fun _ => ?_))
    omega
  have hrows : ∀ row ∈ (q.bumpEpoch threadId).runDispatches.values.filter (isInterruptible threadId
      (((q.bumpEpoch threadId).threadDispatchEpochs.get threadId).getD 0)),
      ∃ d, rowToDispatch codec row = .ok d ∧ d.WellFormed ∧ d.status = .queued := by
    intro row hrow
    obtain ⟨hv, hp⟩ := List.mem_filter.mp hrow
    obtain ⟨k, hk⟩ := Table.mem_values.mp hv
    rw [show (q.bumpEpoch threadId).runDispatches.get k = _ from h.rows k,
      Option.map_eq_some_iff] at hk
    obtain ⟨d, hd, rfl⟩ := hk
    rw [hcond k d hd, decide_eq_true_eq] at hp
    exact ⟨d, rowToDispatch_rowOf hj (h.sound k d hd) (h.dispatchEpoch_fits hi hd),
      hi.wellFormed k d hd, hp.2.1⟩
  obtain ⟨ds, hds, hwell⟩ := collect_ok "interrupt superseded collect" hrows
  obtain ⟨r, hr⟩ := markAllSuperseded_ok hwell
  rw [interruptDetailed_snd hds hr]
  refine (h.bumped hb).updateWhere
    (fun d => decide (d.threadId = threadId ∧ d.status = .queued ∧
      d.dispatchEpoch ≤ m.epoch threadId))
    (fun d => d.superseded now (some reasonQueuedSupersededByInterrupt))
    (fun k => ?_) (fun t => ?_) hcond (fun k d hd hc => ?_)
  · rw [MemoryMailbox.interruptDetailed_get hi]
    simp only [decide_eq_true_eq]
    rfl
  · rw [MemoryMailbox.interruptDetailed_epoch hi, bumped_epoch]
  · obtain ⟨_, hs, _⟩ := decide_eq_true_eq.mp hc
    have hw := hi.wellFormed k d hd
    exact ⟨setSuperseded_rowOf (queued_noProjection hw hs) hn _,
      (h.sound k d hd).superseded hw hn d.dispatchEpoch _⟩

end Sweeps

section Enqueue

lemma Sim.isDuplicate (h : Sim codec q m) (x : RunDispatch) (key : String) :
    q.isDuplicate x key = m.isDuplicate x key := by
  rw [SqliteMailboxStore.isDuplicate, InMemoryMailboxStore.isDuplicate, Bool.eq_iff_iff,
    Table.any_values, Table.any_values]
  refine exists_congr (fun k => ?_)
  rw [show q.runDispatches.get k = _ from h.rows k]
  cases hd : m.dispatches.get k with
  | none => simp [InMemoryMailboxStore.get, hd]
  | some d => simp [InMemoryMailboxStore.get, hd, rowOf]

lemma touchThread_epochs (t u : String) :
    ((q.touchThread t).threadDispatchEpochs.get u).getD 0 =
      (q.threadDispatchEpochs.get u).getD 0 := by
  unfold SqliteMailboxStore.touchThread
  split
  · rfl
  · next hn =>
    rw [Option.not_isSome_iff_eq_none] at hn
    rw [Table.get_insert]
    split
    · next he => rw [he, hn, Option.getD_some, Option.getD_none]
    · rfl

lemma touchThread_rows (t : String) : (q.touchThread t).runDispatches = q.runDispatches := by
  unfold SqliteMailboxStore.touchThread
  split <;> rfl

lemma insertedRow_eq (codec : Codec J) {x : RunDispatch} {epoch : Nat}
    (hv : x.validateForEnqueue = .ok ()) (hf : Fits x) :
    insertedRow epoch x = rowOf codec (x.prepareForEnqueue epoch) := by
  obtain ⟨_, _, hq⟩ := (RunDispatch.validateForEnqueue_ok x).mp hv
  obtain ⟨⟨h₁, h₂, h₃⟩, _, _⟩ := (RunDispatch.validateQueued_ok x).mp hq
  simp [insertedRow, rowOf, RunDispatch.prepareForEnqueue, asI64_of_lt hf.availableAt,
    asI64_of_lt hf.createdAt, asI64_of_lt hf.updatedAt, h₁, h₂, h₃]

lemma Sim.insertDispatch (h : Sim codec q m) {x : RunDispatch}
    (hv : x.validateForEnqueue = .ok ()) (hf : Fits x) (hx : q.get x.dispatchId = none) :
    Sim codec (q.insertDispatch x).2 (m.enqueueFresh x).2 := by
  have hq : (q.insertDispatch x).2 = { q.touchThread x.threadId with
      runDispatches := q.runDispatches.insert x.dispatchId
        (insertedRow (m.epoch x.threadId) x) } := by
    have hnone : (q.touchThread x.threadId).get x.dispatchId = none := by
      rw [SqliteMailboxStore.get, touchThread_rows]
      exact hx
    simp only [SqliteMailboxStore.insertDispatch, hnone, Option.isSome_none, Bool.false_eq_true,
      if_false, touchThread_epochs, h.epochs, touchThread_rows]
  refine ⟨fun k => ?_, fun t => ?_, fun t => ?_, fun k d hd => ?_⟩
  · rw [MemoryMailbox.enqueueFresh_get hv, hq, SqliteMailboxStore.get, Table.get_insert]
    by_cases hk : k = x.dispatchId
    · rw [if_pos hk, if_pos hk, Option.map_some, insertedRow_eq codec hv hf]
    · rw [if_neg hk, if_neg hk, ← SqliteMailboxStore.get, h.rows]
  · rw [hq, MemoryMailbox.enqueueFresh_eq hv]
    exact (touchThread_epochs x.threadId t).trans
      ((h.epochs t).trans (by rw [← MemoryMailbox.touchThread_epoch x.threadId t]; rfl))
  · rw [MemoryMailbox.enqueueFresh_eq hv]
    exact lt_of_eq_of_lt (MemoryMailbox.touchThread_epoch x.threadId t) (h.epochFits t)
  · rw [MemoryMailbox.enqueueFresh_get hv] at hd
    split at hd
    · cases hd
      exact ⟨RunDispatch.prepareForEnqueue_valid hv _, ⟨hf.priority, hf.availableAt, hf.maxAttempts,
        fits_none, fits_none, hf.createdAt, hf.updatedAt⟩⟩
    · exact h.sound k d hd

lemma Sim.enqueue (h : Sim codec q m) {x : RunDispatch} (hf : Faithful q (.enqueue x)) :
    Sim codec (q.enqueue x).2 (m.enqueue x).2 := by
  obtain ⟨hfit, hfree⟩ := hf
  unfold SqliteMailboxStore.enqueue InMemoryMailboxStore.enqueue
  cases hv : x.validateForEnqueue with
  | error e => exact h
  | ok =>
    cases hk : x.dedupeKey with
    | none => exact h.insertDispatch hv hfit (hfree ⟨hv, fun key hk' => nomatch hk.symm.trans hk'⟩)
    | some key =>
      cases hd : m.isDuplicate x key with
      | true =>
        simp only [h.isDuplicate, hd, if_true]
        exact h
      | false =>
        simp only [h.isDuplicate, hd, Bool.false_eq_true, if_false]
        refine h.insertDispatch hv hfit (hfree ⟨hv, fun key' hk' => ?_⟩)
        rw [hk, Option.some.injEq] at hk'
        rw [h.isDuplicate, ← hk', hd]

end Enqueue

section Purge

lemma Sim.purgeTerminal (h : Sim codec q m) {olderThan : Nat}
    (hf : Faithful q (.purgeTerminal olderThan)) :
    Sim codec (q.purgeTerminal olderThan).2 (m.purgeTerminal olderThan).2 := by
  obtain ⟨hn, hkept⟩ := hf
  have hp : ∀ d : RunDispatch,
      isPurgeable olderThan (rowOf codec d) = InMemoryMailboxStore.isPurgeable olderThan d := by
    intro d
    rw [isPurgeable, InMemoryMailboxStore.isPurgeable, asI64_of_lt hn, Bool.eq_iff_iff]
    simp [rowOf]
  have hepoch : ∀ t, (m.purgeTerminal olderThan).2.epoch t = m.epoch t := by
    intro t
    by_cases hs : ∃ k d, (m.purgeTerminal olderThan).2.get k = some d ∧ d.threadId = t
    · obtain ⟨k, d, hd, rfl⟩ := hs
      exact MemoryMailbox.purgeTerminal_epoch olderThan hd
    · rw [MemoryMailbox.purgeTerminal_epoch_none hs]
      by_contra hne
      rw [← ne_eq, ne_comm] at hne
      obtain ⟨k, row, hrow, ht, hrp⟩ := hkept t (by rw [h.epochs]; exact Int.natCast_ne_zero.mpr hne)
      rw [h.rows, Option.map_eq_some_iff] at hrow
      obtain ⟨d, hd, rfl⟩ := hrow
      refine hs ⟨k, d, ?_, ht⟩
      rw [MemoryMailbox.purgeTerminal_get, hd, Option.filter_some, if_pos]
      rw [← hp d, hrp]
      rfl
  refine ⟨fun k => ?_, fun t => ?_, fun t => ?_, fun k d hd => ?_⟩
  · rw [MemoryMailbox.purgeTerminal_get]
    rw [show (q.purgeTerminal olderThan).2.get k =
      (q.get k).filter (fun row => !isPurgeable olderThan row) from Table.get_filter _ _ _, h.rows]
    cases m.get k with
    | none => rfl
    | some d =>
      simp only [Option.map_some, Option.filter_some, hp]
      split <;> rfl
  · rw [hepoch]
    exact h.epochs t
  · rw [hepoch]
    exact h.epochFits t
  · rw [MemoryMailbox.purgeTerminal_get, Option.filter_eq_some_iff] at hd
    exact h.sound k d hd.1

end Purge

end Awaken.Stores.SqliteMailbox
