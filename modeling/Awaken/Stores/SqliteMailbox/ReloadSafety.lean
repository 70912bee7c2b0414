import Awaken.Stores.SqliteMailbox.Simulation

namespace Awaken.Stores.SqliteMailbox

open Awaken.Lib Awaken.Lib.Text Awaken.Contract.Lifecycle Awaken.Contract.Mailbox
open Awaken.Contract.Storage Awaken.Stores.MailboxState
open Awaken.Stores.MemoryMailbox (InMemoryMailboxStore Inv markSupersededAtEpoch_eq
  markExpiredLease_snd claimOne_snd fence fence_get mem_eligible eligible_nodup queued_afterFence
  afterFence get_put)
open RunDispatch (transition_of_eq expired_same)
open SqliteMailboxStore

variable {J : Type} {codec : Codec J} {q : SqliteMailboxStore J} {m : InMemoryMailboxStore}
  {k : String} {d d' : RunDispatch}

def Aligned (q : SqliteMailboxStore J) (m : InMemoryMailboxStore) : Prop :=
  m.dispatches.keys = q.runDispatches.keys

lemma Sim.table (h : Sim codec q m) (ha : Aligned q m) :
    q.runDispatches = m.dispatches.mapValues (fun _ => rowOf codec) :=
  Table.eq_mapValues ha h.rows

lemma limited_of_lt {α : Type} {limit : Nat} (hl : limit < 2 ^ 63) (l : List α) :
    limited limit l = l.take limit := by
  rw [limited, asI64_of_lt hl, if_neg (by omega)]
  rfl

section Claim

variable {threadId consumerId token : String} {now leaseMs limit : Nat}

lemma Sim.hasClaimed (h : Sim codec q m) (threadId : String) :
    q.hasClaimed threadId = InMemoryMailboxStore.hasClaimed m.dispatches threadId := by
  rw [SqliteMailboxStore.hasClaimed, InMemoryMailboxStore.hasClaimed, Bool.eq_iff_iff,
    Table.any_values, Table.any_values]
  refine exists_congr (fun k => ?_)
  rw [show q.runDispatches.get k = _ from h.rows k]
  cases hd : m.dispatches.get k with
  | none => simp [InMemoryMailboxStore.get, hd]
  | some d => simp [InMemoryMailboxStore.get, hd, rowOf]

lemma Sim.eligible (h : Sim codec q m) (ha : Aligned q m) (hn : now < 2 ^ 63)
    (hl : limit < 2 ^ 63) :
    q.eligible threadId now limit =
      InMemoryMailboxStore.eligible m.dispatches threadId now limit := by
  have hp : ((fun e : String × Row J => SqliteMailboxStore.isEligible threadId now e.2) ∘
      fun e : String × RunDispatch => (e.1, rowOf codec e.2)) =
      fun e => InMemoryMailboxStore.isEligible threadId now e.2 := by
    funext e
    rw [Function.comp_apply, SqliteMailboxStore.isEligible, InMemoryMailboxStore.isEligible,
      asI64_of_lt hn, Bool.eq_iff_iff]
    simp only [Bool.and_eq_true, decide_eq_true_eq]
    simp [rowOf]
  have hsort : ∀ l : List (String × RunDispatch),
      (l.map fun e => (e.1, rowOf codec e.2)).insertionSort
        (fun a b => servedBefore a.2 b.2) =
      (l.insertionSort (fun a b => InMemoryMailboxStore.servedBefore a.2 b.2)).map
        fun e => (e.1, rowOf codec e.2) := by
    intro l
    refine (List.map_insertionSort _ _ _ l (fun a _ b _ => ?_)).symm
    simp only [servedBefore, InMemoryMailboxStore.servedBefore, Bool.or_eq_true,
      Bool.and_eq_true, decide_eq_true_eq]
    simp only [rowOf]
    omega
  rw [SqliteMailboxStore.eligible, InMemoryMailboxStore.eligible, limited_of_lt hl, h.table ha,
    Table.mapValues, List.filter_map, hp, hsort, List.map_map]
  rfl

lemma get_foldl_update {ids : List String} (hn : ids.Nodup) (set : Row J → Row J)
    (q : SqliteMailboxStore J) (k : String) :
    (ids.foldl (fun self id => self.update id set) q).get k =
      if k ∈ ids then (q.get k).map set else q.get k := by
  have hrows : (ids.foldl (fun self id => self.update id set) q).runDispatches =
      ids.foldl (fun t j => t.modify j set) q.runDispatches := by
    clear hn
    induction ids generalizing q with
    | nil => rfl
    | cons id ids ih => exact ih _
  rw [SqliteMailboxStore.get, hrows, Table.get_foldl_modify hn]
  rfl

lemma foldl_update_epochs (ids : List String) (set : Row J → Row J) (q : SqliteMailboxStore J) :
    (ids.foldl (fun self id => self.update id set) q).threadDispatchEpochs =
      q.threadDispatchEpochs := by
  induction ids generalizing q with
  | nil => rfl
  | cons id ids ih => exact ih _

lemma claimOne_ok (hs : d.status = .queued) (hw : d.WellFormed) (hsound : Sound d)
    (hc : isBlank consumerId = false) (ht : isBlank token = false) {leaseUntil : Nat}
    (hl : leaseUntil < 2 ^ 63) (hn : now < 2 ^ 63) :
    (InMemoryMailboxStore.claimOne consumerId token leaseUntil now d).1 =
      .ok (some (d.claimedFor consumerId token leaseUntil now)) := by
  rw [InMemoryMailboxStore.claimOne, RunDispatch.claim, transition_of_eq hs,
    (hsound.claimedFor hw hs hc ht hl hn).valid]

lemma fence_inv (hi : Inv m) : Inv (fence m threadId now) := by
  have hg : ∀ k d', (fence m threadId now).get k = some d' →
      d'.dispatchId = k ∧ d'.WellFormed ∧ d'.dispatchEpoch ≤ m.epoch d'.threadId := by
    intro k d' hd'
    have he := @MemoryMailbox.fence_entry m threadId now .queuedThreadIds k
    rw [hd'] at he
    exact he.good (fun d hd => ⟨hi.key _ _ hd, hi.wellFormed _ _ hd, hi.bounded _ _ hd⟩)
  exact ⟨fun k d hd => (hg k d hd).1, fun k d hd => (hg k d hd).2.1,
    fun k d hd => (hg k d hd).2.2⟩

lemma hasClaimed_fence (hc : InMemoryMailboxStore.hasClaimed m.dispatches threadId = true) :
    InMemoryMailboxStore.hasClaimed (fence m threadId now).dispatches threadId = true := by
  obtain ⟨k, d, hd, hp⟩ := Table.any_values.mp hc
  refine Table.any_values.mpr ⟨k, d, ?_, hp⟩
  simp only [Bool.and_eq_true, decide_eq_true_eq] at hp
  rw [show (fence m threadId now).dispatches.get k = _ from fence_get k,
    show m.get k = some d from hd, Option.map_some, afterFence, if_neg (by simp [hp.2])]

lemma claims_named (h : Sim codec q m)
    (hc : isBlank consumerId = false ∨ NothingToClaim q threadId now limit)
    (hfree : InMemoryMailboxStore.hasClaimed (fence m threadId now).dispatches threadId = false)
    (hk : k ∈ InMemoryMailboxStore.eligible (fence m threadId now).dispatches threadId now limit) :
    isBlank consumerId = false := by
  refine hc.resolve_right ?_
  rintro (hl | hclaimed | hnone)
  · subst hl
    exact absurd hk (by simp [InMemoryMailboxStore.eligible])
  · rw [h.hasClaimed] at hclaimed
    rw [hasClaimed_fence hclaimed] at hfree
    exact nomatch hfree
  · obtain ⟨e, he, ht, hs, hav⟩ := mem_eligible hk
    rw [← InMemoryMailboxStore.get, fence_get, Option.map_eq_some_iff] at he
    obtain ⟨d, hd, rfl⟩ := he
    obtain ⟨hq, hep⟩ := queued_afterFence ht hs
    rw [hq] at ht hs hav
    refine hnone k _ (h.row hd) ht ((statusToStr_queued _).mpr hs) ?_ ?_
    · rw [h.stale, ht]
      exact Nat.not_lt.mpr hep
    · exact Int.ofNat_le.mpr hav

lemma Sim.claim (h : Sim codec q m) (ha : Aligned q m) (hi : Inv m)
    (hf : Faithful q (.claim threadId consumerId leaseMs now limit token)) :
    Sim codec (q.claim codec threadId consumerId leaseMs now limit token).2
      (m.claim threadId consumerId leaseMs now limit token).2 := by
  obtain ⟨hl, hlimit, htoken, hconsumer⟩ := hf
  have hn : now < 2 ^ 63 := Nat.lt_of_le_of_lt (Nat.le_add_right _ _) hl
  have h₁ : Sim codec (q.supersedeStaleQueuedForThread threadId now) (fence m threadId now) :=
    h.supersedeStaleQueued hi hn
  have ha₁ : Aligned (q.supersedeStaleQueuedForThread threadId now) (fence m threadId now) := by
    rw [Aligned, fence, Table.keys_mapValues]
    exact ha.trans (Table.keys_mapValues _ _).symm
  have hi₁ : Inv (fence m threadId now) := fence_inv hi
  rw [MemoryMailbox.claim_eq hi]
  simp only [SqliteMailboxStore.claim, h₁.hasClaimed, h₁.eligible ha₁ hn hlimit]
  cases hfree : InMemoryMailboxStore.hasClaimed (fence m threadId now).dispatches threadId with
  | true => exact h₁
  | false =>
    simp only [Bool.false_eq_true, if_false]
    have hnodup := eligible_nodup (fence m threadId now).dispatches threadId now limit
    have hmem : ∀ k ∈ InMemoryMailboxStore.eligible (fence m threadId now).dispatches threadId
        now limit, ∃ d, (fence m threadId now).get k = some d ∧ d.status = .queued ∧ Sound d ∧
          d.WellFormed ∧ isBlank consumerId = false := by
      intro k hk
      obtain ⟨d, hd, _, hs, _⟩ := mem_eligible hk
      exact ⟨d, hd, hs, h₁.sound k d hd, hi₁.wellFormed k d hd,
        claims_named h hconsumer hfree hk⟩
    have hget := Table.updateEach_get_ok
      (InMemoryMailboxStore.claimOne consumerId token (now + leaseMs) now)
      StorageError.notFound hnodup (fun k hk => by
        obtain ⟨d, hd, hs, hsound, hw, hc⟩ := hmem k hk
        exact ⟨d, _, hd, claimOne_ok hs hw hsound hc htoken hl hn⟩)
    refine ⟨fun k => ?_, fun t => ?_, h.epochFits, fun k d' hd' => ?_⟩
    · rw [get_foldl_update hnodup]
      refine Eq.trans ?_ (congrArg (Option.map _) (hget k)).symm
      split
      · next hk =>
        obtain ⟨d, hd, hs, _⟩ := hmem k hk
        rw [h₁.row hd, show (fence m threadId now).dispatches.get k = some d from hd,
          Option.map_some, Option.map_some, Option.map_some, claimOne_snd hs,
          setClaimed_rowOf hn hl]
      · exact h₁.rows k
    · rw [foldl_update_epochs]
      exact h₁.epochs t
    · have hd := (hget k).symm.trans hd'
      split at hd
      · next hk =>
        obtain ⟨d, hd₁, hs, hsound, hw, hc⟩ := hmem k hk
        rw [show (fence m threadId now).dispatches.get k = some d from hd₁, Option.map_some,
          claimOne_snd hs, Option.some.injEq] at hd
        exact hd ▸ hsound.claimedFor hw hs hc htoken hl hn
      · exact h₁.sound k d' hd

end Claim

section Reclaim

variable {now : Nat}

def Reclaimable (m : InMemoryMailboxStore) (now : Nat) (d : RunDispatch) : Prop :=
  (d.dispatchEpoch < m.epoch d.threadId → d.NoProjection) ∧
    (¬ d.dispatchEpoch < m.epoch d.threadId → d.availableAt = now ∧
      d.attemptCount < d.maxAttempts ∧
      (d.attemptCount + 1 < d.maxAttempts → d.completedAt = none) ∧
      (d.maxAttempts ≤ d.attemptCount + 1 → d.lastError = some reasonLeaseExpiredMaxAttempts))

lemma markExpiredLease_eq (hw : d.WellFormed) (hs : d.status = .claimed) (hsound : Sound d)
    (ha : d.attemptCount < d.maxAttempts) (hn : now < 2 ^ 63) :
    markExpiredLease d now = (.ok (), d.expired now reasonLeaseExpiredMaxAttempts) := by
  have hv := (hsound.expired hw ha hn reasonLeaseExpiredMaxAttempts).valid
  simp [markExpiredLease, expecting, RunDispatch.markExpiredLease, transition_of_eq hs, hv]

lemma Sim.reclaimOne (hj : ∀ t, codec.fromJson (codec.toJson t) = .ok t)
    (h : Sim codec q m) (hi : Inv m) (hn : now < 2 ^ 63) (hd : m.get k = some d)
    (hx : InMemoryMailboxStore.isExpired now d = true) (hr : Reclaimable m now d) :
    ∃ q' b d', q.reclaimOne codec now d = (.ok (), q') ∧
      InMemoryMailboxStore.reclaimOne m.state now d = (.ok b, d') ∧
      Sim codec q' (m.put k d') := by
  have hw := hi.wellFormed k d hd
  have hsound := h.sound k d hd
  have hs : d.status = .claimed := by
    simp only [InMemoryMailboxStore.isExpired, Bool.and_eq_true, decide_eq_true_eq] at hx
    exact hx.1
  obtain ⟨token, ht⟩ := Option.isSome_iff_exists.mp (hw.lease hs).1
  have hid : d.dispatchId = k := hi.key k d hd
  have hsup := h.supersedeStale hj hi hd hs ht hr.1 hn reasonClaimedLeaseExpiredAfterInterrupt
  rw [SqliteMailboxStore.reclaimOne, ht]
  rw [InMemoryMailboxStore.reclaimOne]
  have hep : MemoryMailbox.currentEpochFromState m.state d.threadId = m.epoch d.threadId := rfl
  by_cases hst : d.dispatchEpoch < m.epoch d.threadId
  · rw [if_pos hst] at hsup
    obtain ⟨q', he, hsim⟩ := hsup
    simp only [he, hep, if_pos hst, markSupersededAtEpoch_eq hw (.inr hs)]
    exact ⟨q', _, _, rfl, rfl, hsim⟩
  · rw [if_neg hst] at hsup
    obtain ⟨hav, ha, hcompleted, herror⟩ := hr.2 hst
    have hfit := hsound.succ_fits ha
    have hexp := hsound.expired hw ha hn reasonLeaseExpiredMaxAttempts
    simp only [hsup, hep, if_neg hst, markExpiredLease_eq hw hs hsound ha hn, hid]
    by_cases hl : d.maxAttempts ≤ d.attemptCount + 1
    · rw [if_pos hl]
      exact ⟨_, _, _, rfl, rfl, h.update hd (setReclaimDeadLettered_rowOf hn
        ((lastAttempt_iff hfit).mpr hl) hfit hav (herror hl)) hexp⟩
    · rw [if_neg hl]
      exact ⟨_, _, _, rfl, rfl, h.update hd (setReclaimRequeued_rowOf hn
        (mt (lastAttempt_iff hfit).mp hl) hfit hav (hcompleted (Nat.not_le.mp hl))
        reasonLeaseExpiredMaxAttempts) hexp⟩

lemma Sim.reclaimAll (hj : ∀ t, codec.fromJson (codec.toJson t) = .ok t) (hn : now < 2 ^ 63)
    {E : List (String × RunDispatch)} (hE : (E.map Prod.fst).Nodup)
    (h : Sim codec q m) (hi : Inv m)
    (hall : ∀ x ∈ E, m.get x.1 = some x.2 ∧ InMemoryMailboxStore.isExpired now x.2 = true ∧
      Reclaimable m now x.2) :
    ∃ q', q.reclaimAll codec now (E.map Prod.snd) = (.ok (), q') ∧
      Sim codec q' { m with dispatches := (m.dispatches.updateEach
        (InMemoryMailboxStore.reclaimOne m.state now) .notFound (E.map Prod.fst)).2 } := by
  induction E generalizing q m with
  | nil => exact ⟨q, rfl, h⟩
  | cons x E ih =>
    obtain ⟨k, d⟩ := x
    rw [List.map_cons, List.nodup_cons] at hE
    obtain ⟨hd, hx, hr⟩ := hall (k, d) List.mem_cons_self
    obtain ⟨q₁, b, d', hq₁, hm₁, h₁⟩ := h.reclaimOne hj hi hn hd hx hr
    have hc := MemoryMailbox.reclaimOne_change (s := m) (hi.wellFormed k d hd) hx 0
    rw [hm₁] at hc
    have hrest : ∀ x ∈ E, (m.put k d').get x.1 = some x.2 ∧
        InMemoryMailboxStore.isExpired now x.2 = true ∧ Reclaimable (m.put k d') now x.2 := by
      intro x hxE
      have hne : x.1 ≠ k := fun hk => hE.1 (List.mem_map.mpr ⟨x, hxE, hk⟩)
      rw [get_put hd, if_neg hne]
      exact hall x (List.mem_cons_of_mem _ hxE)
    obtain ⟨q', hq', h'⟩ := ih hE.2 h₁ (hi.put hd hc) hrest
    refine ⟨q', ?_, ?_⟩
    · rw [List.map_cons, SqliteMailboxStore.reclaimAll, hq₁]
      exact hq'
    · rw [List.map_cons, Table.updateEach_ok hd hm₁]
      exact h'

lemma collect_map {α : Type} (label : String) {xs : List α} {g : α → Row J}
    {f : α → RunDispatch} (hr : ∀ x ∈ xs, rowToDispatch codec (g x) = .ok (f x)) :
    collect codec label (xs.map g) = .ok (xs.map f) := by
  induction xs with
  | nil => rfl
  | cons x xs ih =>
    have hx := hr x List.mem_cons_self
    have hxs := ih (fun y hy => hr y (List.mem_cons_of_mem _ hy))
    simp [collect, hx, hxs, Except.map]

lemma isExpired_rowOf (hn : now < 2 ^ 63) (d : RunDispatch) :
    SqliteMailboxStore.isExpired now (rowOf codec d) =
      InMemoryMailboxStore.isExpired now d := by
  rw [SqliteMailboxStore.isExpired, InMemoryMailboxStore.isExpired, asI64_of_lt hn,
    Bool.eq_iff_iff]
  simp only [Bool.and_eq_true, decide_eq_true_eq]
  cases hl : d.leaseUntil <;> simp [rowOf, hl]

lemma Sim.reclaimExpiredLeases (hj : ∀ t, codec.fromJson (codec.toJson t) = .ok t)
    (h : Sim codec q m) (ha : Aligned q m) (hi : Inv m) {limit : Nat}
    (hf : Faithful q (.reclaimExpiredLeases now limit)) :
    Sim codec (q.reclaimExpiredLeases codec now limit).2
      (m.reclaimExpiredLeases now limit).2 := by
  obtain ⟨hn, hlimit, hcond⟩ := hf
  have hexpired : ∃ E : List (String × RunDispatch), E =
      (m.dispatches.entries.filter
        (fun x => InMemoryMailboxStore.isExpired now x.2)).take limit := ⟨_, rfl⟩
  obtain ⟨E, hE⟩ := hexpired
  have hmem : ∀ x ∈ E, m.get x.1 = some x.2 ∧
      InMemoryMailboxStore.isExpired now x.2 = true := by
    intro x hx
    rw [hE] at hx
    obtain ⟨hx, hp⟩ := List.mem_filter.mp (List.mem_of_mem_take hx)
    exact ⟨Table.get_eq_some.mpr hx, hp⟩
  have hall : ∀ x ∈ E, m.get x.1 = some x.2 ∧
      InMemoryMailboxStore.isExpired now x.2 = true ∧ Reclaimable m now x.2 := by
    intro x hx
    obtain ⟨hd, hp⟩ := hmem x hx
    rcases hcond with hzero | hcond
    · rw [hE, hzero, List.take_zero] at hx
      exact nomatch hx
    · obtain ⟨hbare, hretry⟩ := hcond x.1 _ (h.row hd) ((isExpired_rowOf hn _).trans hp)
      rw [h.stale, bareRow_rowOf] at hbare
      rw [h.stale, expirableRow_rowOf] at hretry
      exact ⟨hd, hp, hbare, hretry⟩
  have hkeys : (E.map Prod.fst).Nodup := by
    rw [hE]
    exact m.dispatches.nodup.sublist (((List.take_sublist _ _).trans List.filter_sublist).map _)
  have hids : ((m.dispatches.values.filter (InMemoryMailboxStore.isExpired now)).take limit).map
      (·.dispatchId) = E.map Prod.fst := by
    have hv : (m.dispatches.values.filter (InMemoryMailboxStore.isExpired now)).take limit =
        E.map Prod.snd := by
      rw [hE, Table.values, List.filter_map, List.map_take]
      rfl
    rw [hv, List.map_map]
    exact List.map_congr_left (fun x hx => hi.key x.1 x.2 (hmem x hx).1)
  have hrows : limited limit (q.runDispatches.values.filter
      (SqliteMailboxStore.isExpired now)) =
      E.map (fun x => rowOf codec x.2) := by
    have hp : (SqliteMailboxStore.isExpired now ∘ fun x : String × RunDispatch =>
        rowOf codec x.2) =
        fun x => InMemoryMailboxStore.isExpired now x.2 :=
      funext (fun x => isExpired_rowOf hn _)
    rw [limited_of_lt hlimit, h.table ha, Table.values, Table.mapValues, List.map_map, hE,
      List.map_take, ← hp, ← List.filter_map]
    rfl
  have hcollect : collect codec "reclaim collect"
      (E.map (fun x => rowOf codec x.2)) =
      .ok (E.map Prod.snd) :=
    collect_map _ (fun x hx => rowToDispatch_rowOf hj (h.sound _ _ (hmem x hx).1)
      (h.dispatchEpoch_fits hi (hmem x hx).1))
  obtain ⟨q', hq', h'⟩ := h.reclaimAll hj hn hkeys hi hall
  simp only [SqliteMailboxStore.reclaimExpiredLeases, hrows, hcollect, hq',
    InMemoryMailboxStore.reclaimExpiredLeases, hids]
  exact h'

end Reclaim

section Runs

lemma Sim.exec (hj : ∀ t, codec.fromJson (codec.toJson t) = .ok t) (h : Sim codec q m)
    (ha : Aligned q m) (hi : Inv m) {op : MailboxOp} (hf : Faithful q op) :
    Sim codec (SqliteMailboxStore.exec codec op q).2 (InMemoryMailboxStore.exec op m).2 := by
  cases op with
  | enqueue => exact h.enqueue hf
  | claim => exact h.claim ha hi hf
  | claimDispatch => exact h.claimDispatch hj hi hf
  | ack => exact h.ack hj hi hf
  | recordDispatchStart => exact h.recordDispatchStart hj hi hf
  | recordRunResult => exact h.recordRunResult hj hi hf
  | nack => exact h.nack hj hi hf
  | deadLetter => exact h.deadLetter hj hi hf
  | cancel => exact h.cancel hj hi hf
  | extendLease => exact h.extendLease hj hi hf
  | interrupt => exact h.interruptDetailed hj hi hf.1 hf.2
  | interruptDetailed => exact h.interruptDetailed hj hi hf.1 hf.2
  | supersedeClaimed => exact h.supersedeClaimed hj hi hf
  | reclaimExpiredLeases => exact h.reclaimExpiredLeases hj ha hi hf
  | purgeTerminal => exact h.purgeTerminal hf
  | _ => exact h

lemma reorders_get {q₁ : SqliteMailboxStore J} (h : q.Reorders q₁) (k : String) :
    q₁.get k = q.get k := (Table.Reorders.get h.1 k).symm

lemma Sim.reorders {q₁ : SqliteMailboxStore J} (hr : q.Reorders q₁) (h : Sim codec q m) :
    Sim codec q₁ m where
  rows := fun k => (reorders_get hr k).trans (h.rows k)
  epochs := fun t => hr.2 ▸ h.epochs t
  epochFits := h.epochFits
  sound := h.sound

lemma Sim.reorders_right {m₁ : InMemoryMailboxStore} (hr : m.Reorders m₁)
    (h : Sim codec q m) : Sim codec q m₁ where
  rows := fun k => by rw [hr.get, h.rows]
  epochs := fun t => by rw [hr.epoch, h.epochs]
  epochFits := fun t => by rw [hr.epoch]; exact h.epochFits t
  sound := fun k d hd => h.sound k d (hr.get k ▸ hd)

lemma Sim.faithful_reorders {q₁ : SqliteMailboxStore J} (hr : q.Reorders q₁)
    (h : Sim codec q m) {op : MailboxOp} (hf : Faithful q op) : Faithful q₁ op := by
  have h₁ := h.reorders hr
  have hstale : ∀ row, StaleRow q₁ row = StaleRow q row := fun row => by
    rw [StaleRow, StaleRow, hr.2]
  have hholder : ∀ id token P, HolderCondition q id token P → HolderCondition q₁ id token P := by
    intro id token P hc row hrow ht
    rw [reorders_get hr] at hrow
    rw [hstale]
    exact hc row hrow ht
  have hget := reorders_get hr
  cases op with
  | enqueue x =>
    refine ⟨hf.1, fun ha => (hget _).trans (hf.2 ⟨ha.1, fun key hk => ?_⟩)⟩
    rw [h.isDuplicate, ← h₁.isDuplicate]
    exact ha.2 key hk
  | claim threadId consumerId leaseMs now limit token =>
    obtain ⟨hl, hlimit, ht, hc⟩ := hf
    refine ⟨hl, hlimit, ht, hc.imp_right ?_⟩
    rintro (hz | hclaimed | hnone)
    · exact .inl hz
    · exact .inr (.inl (by rw [h₁.hasClaimed, ← h.hasClaimed, hclaimed]))
    · refine .inr (.inr (fun k row hrow => ?_))
      rw [hget] at hrow
      rw [hstale]
      exact hnone k row hrow
  | claimDispatch id consumerId leaseMs now token =>
    obtain ⟨hl, ht, hc⟩ := hf
    refine ⟨hl, ht, hc.imp_right (fun hno row hrow => ?_)⟩
    rw [hget] at hrow
    rw [hstale, h₁.hasOtherClaimed, ← h.hasOtherClaimed]
    exact hno row hrow
  | ack =>
    refine ⟨hf.1, fun row hrow ht => ?_⟩
    rw [hget] at hrow
    rw [hstale]
    exact hf.2 row hrow ht
  | recordDispatchStart => exact ⟨hf.1, hholder _ _ _ hf.2⟩
  | recordRunResult => exact ⟨hf.1, hholder _ _ _ hf.2⟩
  | nack => exact ⟨hf.1, hf.2.1, hholder _ _ _ hf.2.2⟩
  | deadLetter => exact ⟨hf.1, hholder _ _ _ hf.2⟩
  | cancel => exact hf
  | extendLease => exact ⟨hf.1, hholder _ _ _ hf.2⟩
  | interrupt => exact ⟨hf.1, hr.2 ▸ hf.2⟩
  | interruptDetailed => exact ⟨hf.1, hr.2 ▸ hf.2⟩
  | supersedeClaimed =>
    refine ⟨hf.1, fun row hrow => ?_⟩
    rw [hget] at hrow
    exact hf.2 row hrow
  | reclaimExpiredLeases =>
    obtain ⟨hn, hlimit, hc⟩ := hf
    refine ⟨hn, hlimit, hc.imp_right (fun hall k row hrow => ?_)⟩
    rw [hget] at hrow
    rw [hstale]
    exact hall k row hrow
  | purgeTerminal =>
    refine ⟨hf.1, fun t hne => ?_⟩
    rw [← hr.2] at hne
    obtain ⟨k, row, hrow, hkept⟩ := hf.2 t hne
    exact ⟨k, row, (hget k).trans hrow, hkept⟩
  | _ => exact trivial

def Related (codec : Codec J) (q : SqliteMailboxStore J) (m : InMemoryMailboxStore) : Prop :=
  Inv m ∧ Sim codec q m

lemma related_new : Related codec (SqliteMailboxStore.new) InMemoryMailboxStore.new :=
  ⟨MemoryMailbox.inv_new, fun _ => rfl, fun _ => rfl, fun _ => show 0 < 2 ^ 63 by decide,
    fun _ _ h => nomatch h⟩

lemma related_step (hj : ∀ t, codec.fromJson (codec.toJson t) = .ok t) {q' : SqliteMailboxStore J}
    {call : Call} (hstep : Step codec q call q') (hf : Faithful q call.op)
    (h : Related codec q m) :
    ∃ call' m', MemoryMailbox.Step m call' m' ∧ Related codec q' m' ∧ call'.op = call.op := by
  obtain ⟨hi, hsim⟩ := h
  obtain ⟨q₁, hq, he⟩ := hstep
  have hsim₁ := hsim.reorders hq
  have hsome : ∀ k, (q₁.runDispatches.get k).isSome = (m.dispatches.get k).isSome := by
    intro k
    rw [show q₁.runDispatches.get k = _ from hsim₁.rows k, Option.isSome_map]
    rfl
  obtain ⟨t, ht, hkeys⟩ := Table.exists_aligned hsome
  have hm : m.Reorders { m with dispatches := t } := ⟨ht, rfl⟩
  have hi₁ := hi.reorders hm
  have hsim' := (hsim₁.reorders_right hm).exec hj hkeys hi₁ (hsim.faithful_reorders hq hf)
  rw [he] at hsim'
  exact ⟨⟨call.op, (InMemoryMailboxStore.exec call.op { m with dispatches := t }).1⟩, _,
    ⟨_, hm, rfl⟩, ⟨hi₁.exec call.op, hsim'⟩, rfl⟩

/-- Every row reads back as the dispatch that the in-memory store holds under its id, which is valid,
and the in-memory store holds no others. -/
def Matches (codec : Codec J) (q : SqliteMailboxStore J) (m : InMemoryMailboxStore) : Prop :=
  (∀ k row, q.get k = some row → ∃ d, rowToDispatch codec row = .ok d ∧
    d.validateForPersist = .ok () ∧ m.get k = some d) ∧
  ∀ k, q.get k = none → m.get k = none

lemma Related.matches (hj : ∀ t, codec.fromJson (codec.toJson t) = .ok t)
    (h : Related codec q m) : Matches codec q m := by
  obtain ⟨hi, hsim⟩ := h
  refine ⟨fun k row hrow => ?_, fun k hk => ?_⟩
  · rw [hsim.rows, Option.map_eq_some_iff] at hrow
    obtain ⟨d, hd, rfl⟩ := hrow
    exact ⟨d, rowToDispatch_rowOf hj (hsim.sound k d hd) (hsim.dispatchEpoch_fits hi hd),
      (hsim.sound k d hd).valid, hd⟩
  · rw [hsim.rows, Option.map_eq_none_iff] at hk
    exact hk

/-- Along a run whose calls are all faithful, the same calls take the in-memory store through
states that match those of the database. -/
theorem sqlite_reload_safe (codec : Codec J)
    (hj : ∀ t, codec.fromJson (codec.toJson t) = .ok t)
    {tr : List (Transition (SqliteMailboxStore J) Call)}
    (hr : Run (Step codec) SqliteMailboxStore.new tr q)
    (hf : ∀ τ ∈ tr, Faithful τ.pre τ.label.op) :
    ∃ mtr m, Run MemoryMailbox.Step InMemoryMailboxStore.new mtr m ∧ Matches codec q m ∧
      List.Forall₂ (fun τ μ => μ.label.op = τ.label.op ∧ Matches codec τ.post μ.post) tr mtr := by
  obtain ⟨mtr, m, hmr, hm, hall⟩ := hr.simulate
    (R := Related codec) (C := fun τ => Faithful τ.pre τ.label.op)
    (Q := fun (call : Call) (call' : MemoryMailbox.Call) => call'.op = call.op)
    (fun τ hs hc u hu => related_step hj hs hc hu) hf related_new
  exact ⟨mtr, m, hmr, hm.matches hj, hall.imp (fun τ μ h => ⟨h.1, h.2.matches hj⟩)⟩

end Runs

section Requeue

def plainCodec : Codec TerminationReason := ⟨id, .ok, fun _ => ""⟩

def retriedOps : List MailboxOp :=
  [.enqueue (.queued "d" "t" "r" 0), .claim "t" "a" 10 0 1 "first",
    .recordDispatchStart "d" "first" "i" 1, .nack "d" "first" 5 "error" 2,
    .claim "t" "b" 10 5 1 "second",
    .recordRunResult "d" "second" ⟨"r", "i", .done, none, none, none⟩ 6, .ack "d" "second" 7]

lemma holderCondition_of {id token : String} {P : Row J → Prop} {row : Row J}
    (hrow : q.get id = some row) (hs : ¬ StaleRow q row) (hp : P row) :
    HolderCondition q id token P := by
  intro row' hrow' _
  rw [hrow, Option.some.injEq] at hrow'
  subst hrow'
  exact ⟨fun h => absurd h hs, fun _ => hp⟩

lemma retriedOps_faithful :
    ∀ τ ∈ callTrace plainCodec new retriedOps, Faithful τ.pre τ.label.op := by
  simp only [retriedOps, callTrace, List.forall_mem_cons, List.not_mem_nil, false_imp_iff,
    implies_true, and_true]
  refine ⟨⟨⟨by decide, by decide, by decide, fits_none, fits_none, by decide, by decide⟩,
    fun _ => rfl⟩, ⟨by decide, by decide, by decide, .inl (by decide)⟩,
    ⟨by decide, holderCondition_of (by rfl) (by unfold StaleRow; decide) trivial⟩,
    ⟨by decide, by decide, holderCondition_of (by rfl) (by unfold StaleRow; decide)
      (by unfold RetryableRow; decide)⟩,
    ⟨by decide, by decide, by decide, .inl (by decide)⟩,
    ⟨by decide, holderCondition_of (by rfl) (by unfold StaleRow; decide) (by rfl)⟩,
    ⟨by decide, ?_⟩⟩
  intro row hrow _
  cases hrow
  unfold StaleRow
  decide

theorem sqlite_reload_safe_retried :
    ∃ mtr m, Run MemoryMailbox.Step InMemoryMailboxStore.new mtr m ∧
      Matches plainCodec (execAll plainCodec new retriedOps) m ∧
      List.Forall₂ (fun τ μ => μ.label.op = τ.label.op ∧ Matches plainCodec τ.post μ.post)
        (callTrace plainCodec new retriedOps) mtr :=
  sqlite_reload_safe plainCodec (fun _ => rfl) (run_callTrace plainCodec new retriedOps)
    retriedOps_faithful

def requeueOps : List MailboxOp :=
  [.enqueue (.queued "d" "t" "r" 0), .claim "t" "c" 10 0 1 "token",
    .recordRunResult "d" "token" ⟨"r", "i", .done, none, none, none⟩ 1,
    .nack "d" "token" 5 "error" 2]

theorem requeued_row_unreadable :
    ¬ ∀ (J : Type) (codec : Codec J), (∀ t, codec.fromJson (codec.toJson t) = .ok t) →
      ∀ tr q, Run (Step codec) new tr q → ∃ mtr m,
        Run MemoryMailbox.Step InMemoryMailboxStore.new mtr m ∧
        mtr.map (·.label.op) = tr.map (·.label.op) ∧ Matches codec q m := by
  intro h
  obtain ⟨_, m, _, _, hm, _⟩ := h _ plainCodec (fun _ => rfl) _ _
    (run_callTrace plainCodec new requeueOps)
  have hrow : ∃ row, (execAll plainCodec new requeueOps).get "d" = some row :=
    Option.isSome_iff_exists.mp (by decide)
  obtain ⟨row, hrow⟩ := hrow
  obtain ⟨d, hd, _⟩ := hm "d" row hrow
  have hbad : ((execAll plainCodec new requeueOps).get "d").map
      (fun row => (rowToDispatch plainCodec row).isOk) = some false := by decide
  rw [hrow, Option.map_some, hd] at hbad
  exact nomatch hbad

end Requeue

end Awaken.Stores.SqliteMailbox
