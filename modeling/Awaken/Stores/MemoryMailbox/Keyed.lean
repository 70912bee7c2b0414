import Mathlib.Data.List.Dedup
import Awaken.Contract.ScopeIsolation
import Awaken.Stores.MemoryMailbox.Changes

namespace Awaken.Stores.MemoryMailbox

open Awaken.Lib Awaken.Contract.Mailbox Awaken.Contract.Storage Awaken.Contract.Scope
open Awaken.Contract.ScopedMailbox (usizeMax)
open Awaken.Contract.ScopeIsolation Awaken.Stores.MailboxState
open InMemoryMailboxStore

section Sorting

variable {α : Type} {r : α → α → Prop} [DecidableRel r] [IsTrans α r]

lemma filter_orderedInsert (q : α → Bool) (a : α) {l : List α} (hl : l.Pairwise r) :
    (l.orderedInsert r a).filter q =
      if q a then (l.filter q).orderedInsert r a else l.filter q := by
  induction l with
  | nil => cases hq : q a <;> simp [hq]
  | cons b l ih =>
    rw [List.pairwise_cons] at hl
    by_cases hab : r a b
    · rw [List.orderedInsert_cons_of_le r l hab]
      cases hq : q a with
      | false => simp [hq]
      | true =>
        have hall : ∀ c ∈ (b :: l).filter q, r a c := by
          intro c hc
          rcases List.mem_cons.mp (List.mem_filter.mp hc).1 with rfl | hm
          · exact hab
          · exact Trans.trans hab (hl.1 c hm)
        rw [List.filter_cons_of_pos hq, if_pos rfl]
        cases hf : (b :: l).filter q with
        | nil => rfl
        | cons c cs => rw [List.orderedInsert_cons_of_le r cs (hall c (hf ▸ List.mem_cons_self))]
    · rw [List.orderedInsert_of_not_le r l hab, List.filter_cons, ih hl.2]
      cases hb : q b with
      | false => simp [hb]
      | true =>
        cases hq : q a with
        | false => simp [hb]
        | true => simp [hb, hab]

lemma filter_insertionSort [Std.Total r] (q : α → Bool) (l : List α) :
    (l.insertionSort r).filter q = (l.filter q).insertionSort r := by
  induction l with
  | nil => rfl
  | cons a l ih =>
    rw [List.insertionSort_cons, filter_orderedInsert q a (List.pairwise_insertionSort r l), ih,
      List.filter_cons]
    cases q a <;> rfl

end Sorting

instance : IsTrans RunDispatch (fun a b => endedBefore a b = true) where
  trans a b c hab hbc := by
    simp only [endedBefore, Bool.or_eq_true, Bool.and_eq_true, decide_eq_true_eq] at hab hbc ⊢
    rcases hab with h | ⟨h, h' | ⟨h', hid⟩⟩ <;> rcases hbc with g | ⟨g, g' | ⟨g', gid⟩⟩
    all_goals try omega
    exact .inr ⟨h.trans g, .inr ⟨h'.trans g', String.le_trans hid gid⟩⟩

instance : Std.Total (fun a b : RunDispatch => endedBefore a b = true) where
  total a b := by
    simp only [endedBefore, Bool.or_eq_true, Bool.and_eq_true, decide_eq_true_eq]
    rcases String.le_total a.dispatchId b.dispatchId with h | h <;>
      simp only [h, and_true] <;> omega

def restrict (p : String → Bool) (s : InMemoryMailboxStore) : InMemoryMailboxStore :=
  ⟨s.dispatches.part p, s.state.part p⟩

def ClosedUnder (p : String → Bool) (s : InMemoryMailboxStore) : Prop :=
  ∀ k d, s.get k = some d → p d.threadId = p k

structure Local {α : Type} (p : String → Bool) (m : InMemoryMailboxStore → α × InMemoryMailboxStore)
    (s : InMemoryMailboxStore) : Prop where
  alone : m (restrict p s) = ((m s).1, restrict p (m s).2)
  frame : restrict (fun k => !p k) (m s).2 = restrict (fun k => !p k) s

section Local

variable {α β : Type} {p : String → Bool} {s : InMemoryMailboxStore} {k threadId : String}

lemma get_restrict (k : String) : (restrict p s).get k = if p k then s.get k else none :=
  Table.get_part k

lemma get_restrict_of (hk : p k = true) : (restrict p s).get k = s.get k := by
  rw [get_restrict, hk, if_pos rfl]

lemma epoch_restrict (ht : p threadId = true) : (restrict p s).epoch threadId = s.epoch threadId := by
  simp only [restrict, epoch, currentEpochFromState, Table.get_part, ht, if_true]

lemma put_restrict (k : String) (d : RunDispatch) :
    (restrict p s).put k d = restrict p (s.put k d) := by
  simp only [restrict, InMemoryMailboxStore.put, Table.part_modify]

lemma put_frame (hk : p k = true) (d : RunDispatch) :
    restrict (fun k => !p k) (s.put k d) = restrict (fun k => !p k) s := by
  have hm : (s.dispatches.modify k (fun _ => d)).part (fun j => !p j) =
      s.dispatches.part (fun j => !p j) := Table.part_modify_of_not (by simp [hk]) _
  simp only [restrict, InMemoryMailboxStore.put, hm]

lemma Local.map {m : InMemoryMailboxStore → Outcome StorageError α × InMemoryMailboxStore}
    (h : Local p m s) (f : α → β) : Local p (fun s => ((m s).1.map f, (m s).2)) s :=
  ⟨by rw [h.alone], h.frame⟩

lemma hasOtherClaimed_restrict (hc : ClosedUnder p s) {threadId : String} (ht : p threadId = true) (dispatchId : String) :
    (restrict p s).hasOtherClaimed threadId dispatchId = s.hasOtherClaimed threadId dispatchId := by
  refine Table.any_values_part (fun k d hd hr => ?_)
  simp only [Bool.and_eq_true, decide_eq_true_eq] at hr
  rw [← hc k d hd, hr.1.1, ht]

section ById

variable {id : String} (hk : p id = true) (hc : ClosedUnder p s)
include hk hc

lemma epoch_restrict_of_get {d : RunDispatch} (hd : s.get id = some d) :
    (restrict p s).epoch d.threadId = s.epoch d.threadId :=
  epoch_restrict ((hc id d hd).trans hk)

lemma asHolder_local (claimToken : String) (now : Nat) (checkStatus : Bool) (reason : String)
    (body : RunDispatch → Outcome StorageError Unit × RunDispatch) :
    Local p (fun s => s.asHolder id claimToken now checkStatus reason body) s := by
  have hg := get_restrict_of (s := s) hk
  cases hd : s.get id with
  | none => constructor <;> simp only [asHolder, hg, hd]
  | some d =>
    have he := epoch_restrict_of_get hk hc hd
    by_cases h₁ : (checkStatus = true ∧ d.status ≠ .claimed) ∨ d.claimToken ≠ some claimToken
    · constructor <;> simp only [asHolder, hg, hd, if_pos h₁]
    · by_cases h₂ : d.dispatchEpoch < s.epoch d.threadId
      · rcases hr : (markSupersededAtEpoch d now (s.epoch d.threadId) (some reason)).1 with _ | _ | _ <;>
          constructor <;>
          simp only [asHolder, hg, hd, if_neg h₁, he, if_pos h₂, hr, put_restrict, put_frame hk]
      · constructor <;>
          simp only [asHolder, hg, hd, if_neg h₁, he, if_neg h₂, put_restrict, put_frame hk]

lemma claimDispatch_local (consumerId : String) (leaseMs now : Nat) (token : String) :
    Local p (fun s => s.claimDispatch id consumerId leaseMs now token) s := by
  have hg := get_restrict_of (s := s) hk
  cases hd : s.get id with
  | none => constructor <;> simp only [claimDispatch, hg, hd]
  | some d =>
    have he := epoch_restrict_of_get hk hc hd
    have ho := hasOtherClaimed_restrict hc ((hc id d hd).trans hk) id
    by_cases h₁ : d.status ≠ .queued
    · constructor <;> simp only [claimDispatch, hg, hd, if_pos h₁]
    · by_cases h₂ : d.dispatchEpoch < s.epoch d.threadId
      · constructor <;>
          simp only [claimDispatch, hg, hd, if_neg h₁, he, if_pos h₂, put_restrict, put_frame hk]
      · by_cases h₃ : s.hasOtherClaimed d.threadId id = true
        · constructor <;>
            simp only [claimDispatch, hg, hd, if_neg h₁, he, if_neg h₂, ho, if_pos h₃]
        · constructor <;>
            simp only [claimDispatch, hg, hd, if_neg h₁, he, if_neg h₂, ho, if_neg h₃,
              put_restrict, put_frame hk]

lemma extendLease_local (claimToken : String) (extensionMs now : Nat) :
    Local p (fun s => s.extendLease id claimToken extensionMs now) s := by
  have hg := get_restrict_of (s := s) hk
  cases hd : s.get id with
  | none => constructor <;> simp only [extendLease, hg, hd]
  | some d =>
    have he := epoch_restrict_of_get hk hc hd
    by_cases h₁ : d.status ≠ .claimed ∨ d.claimToken ≠ some claimToken
    · constructor <;> simp only [extendLease, hg, hd, if_pos h₁]
    · by_cases h₂ : d.dispatchEpoch < s.epoch d.threadId
      · constructor <;>
          simp only [extendLease, hg, hd, if_neg h₁, he, if_pos h₂, put_restrict, put_frame hk]
      · constructor <;>
          simp only [extendLease, hg, hd, if_neg h₁, he, if_neg h₂, put_restrict, put_frame hk]

lemma supersedeClaimed_local (claimToken : String) (now : Nat) (reason : String) :
    Local p (fun s => s.supersedeClaimed id claimToken now reason) s := by
  have hg := get_restrict_of (s := s) hk
  cases hd : s.get id with
  | none => constructor <;> simp only [supersedeClaimed, hg, hd]
  | some d =>
    have he := epoch_restrict_of_get hk hc hd
    by_cases h₁ : d.status ≠ .claimed
    · constructor <;> simp only [supersedeClaimed, hg, hd, if_pos h₁]
    · by_cases h₂ : d.claimToken ≠ some claimToken
      · constructor <;> simp only [supersedeClaimed, hg, hd, if_neg h₁, if_pos h₂]
      · constructor <;>
          simp only [supersedeClaimed, hg, hd, if_neg h₁, if_neg h₂, he, put_restrict,
            put_frame hk]

end ById

lemma cancel_local {id : String} (hk : p id = true) (now : Nat) :
    Local p (fun s => s.cancel id now) s := by
  have hg := get_restrict_of (s := s) hk
  cases hd : s.get id with
  | none => constructor <;> simp only [cancel, hg, hd]
  | some d =>
    by_cases h₁ : d.status ≠ .queued
    · constructor <;> simp only [cancel, hg, hd, if_pos h₁]
    · constructor <;>
        simp only [cancel, hg, hd, if_neg h₁, put_restrict, put_frame hk]

section Enqueue

lemma touchThread_local {threadId : String} (ht : p threadId = true) :
    (restrict p s).touchThread threadId = restrict p (s.touchThread threadId) ∧
      restrict (fun k => !p k) (s.touchThread threadId) = restrict (fun k => !p k) s := by
  have hg : (s.state.part p).get threadId = s.state.get threadId := by
    rw [Table.get_part, ht, if_pos rfl]
  have hf : (s.state.insert threadId ⟨0⟩).part (fun k => !p k) = s.state.part (fun k => !p k) :=
    Table.part_insert_of_not (by simp [ht]) _
  cases hs : (s.state.get threadId).isSome with
  | true => constructor <;> simp only [touchThread, restrict, hg, hs, if_true]
  | false =>
    constructor <;>
      simp only [touchThread, restrict, hg, hs, Bool.false_eq_true, if_false,
        Table.part_insert ht, hf]

lemma enqueueFresh_local {x : RunDispatch} (hid : p x.dispatchId = true)
    (ht : p x.threadId = true) : Local p (fun s => s.enqueueFresh x) s := by
  obtain ⟨ha, hf⟩ := touchThread_local (s := s) ht
  have he := epoch_restrict (s := s.touchThread x.threadId) ht
  have hd : p (x.prepareForEnqueue ((s.touchThread x.threadId).epoch x.threadId)).dispatchId =
    true := hid
  have hi : ((s.touchThread x.threadId).dispatches.insert
        (x.prepareForEnqueue ((s.touchThread x.threadId).epoch x.threadId)).dispatchId
        (x.prepareForEnqueue ((s.touchThread x.threadId).epoch x.threadId))).part (fun k => !p k) =
      (s.touchThread x.threadId).dispatches.part (fun k => !p k) :=
    Table.part_insert_of_not (by simpa using hd) _
  rcases hv : (x.prepareForEnqueue ((s.touchThread x.threadId).epoch x.threadId)).validateForPersist
    with e | u
  · constructor <;> simp only [enqueueFresh, ha, he, hv, hf]
  · constructor
    · simp only [enqueueFresh, ha, he, hv]
      simp only [restrict, Table.part_insert hd]
    · simp only [enqueueFresh, hv]
      simp only [restrict, hi]
      exact hf

lemma enqueue_local (hc : ClosedUnder p s) {x : RunDispatch} (hid : p x.dispatchId = true)
    (ht : p x.threadId = true) : Local p (fun s => s.enqueue x) s := by
  have hdup : ∀ dk, (restrict p s).isDuplicate x dk = s.isDuplicate x dk := by
    intro dk
    refine Table.any_values_part (fun k d hd hr => ?_)
    simp only [Bool.and_eq_true, decide_eq_true_eq] at hr
    rw [← hc k d hd, hr.1.1, ht]
  obtain ⟨ha, hf⟩ := enqueueFresh_local (s := s) hid ht
  cases hv : x.validateForEnqueue with
  | error e => constructor <;> simp only [enqueue, hv]
  | ok u =>
    cases hk : x.dedupeKey with
    | none => constructor <;> simp only [enqueue, hv, hk, ha, hf]
    | some dk =>
      by_cases hd : s.isDuplicate x dk = true
      · constructor <;> simp only [enqueue, hv, hk, hdup, if_pos hd]
      · constructor <;> simp only [enqueue, hv, hk, hdup, if_neg hd, ha, hf]

end Enqueue

section Threads

variable (hc : ClosedUnder p s) (ht : p threadId = true) {now : Nat}
include hc ht

lemma thread_ne {k : String} {d : RunDispatch} (hd : s.get k = some d) (hk : p k = false) :
    d.threadId ≠ threadId := by
  intro he
  have hp := hc k d hd
  rw [he, ht, hk] at hp
  exact nomatch hp

lemma fence_local (now : Nat) :
    (restrict p s).dispatches.sweep (supersedeStale threadId (s.epoch threadId) now) () =
        ((s.dispatches.sweep (supersedeStale threadId (s.epoch threadId) now) ()).1,
          (s.dispatches.sweep (supersedeStale threadId (s.epoch threadId) now) ()).2.part p) ∧
      (s.dispatches.sweep (supersedeStale threadId (s.epoch threadId) now) ()).2.part
          (fun k => !p k) = s.dispatches.part (fun k => !p k) := by
  refine Table.sweep_part (fun b k d hd hk => ?_) ()
  rw [supersedeStale, if_neg (fun h => thread_ne hc ht hd hk h.1)]

lemma claim_local (hi : Inv s) (consumerId : String) (leaseMs limit : Nat) (token : String) :
    Local p (fun s => s.claim threadId consumerId leaseMs now limit token) s := by
  obtain ⟨ha, hf⟩ := fence_local hc ht now
  have he := epoch_restrict (s := s) ht
  rw [claim_sweep hi] at ha hf
  set t := s.dispatches.mapValues (fun _ => afterFence threadId (s.epoch threadId) now) with ht'
  have hthread : ∀ k d', t.get k = some d' → p d'.threadId = p k := by
    intro k d' hd'
    rw [ht', Table.get_mapValues, Option.map_eq_some_iff] at hd'
    obtain ⟨d, hd, rfl⟩ := hd'
    have hs : (afterFence threadId (s.epoch threadId) now d).threadId = d.threadId := by
      unfold afterFence
      split <;> rfl
    rw [hs]
    exact hc k d hd
  have hclaimed : hasClaimed (t.part p) threadId = hasClaimed t threadId := by
    refine Table.any_values_part (fun k d hd hr => ?_)
    simp only [Bool.and_eq_true, decide_eq_true_eq] at hr
    rw [← hthread k d hd, hr.1, ht]
  have hel : eligible (t.part p) threadId now limit = eligible t threadId now limit := by
    unfold eligible
    rw [Table.filter_entries_part (fun k d hd hr => ?_)]
    simp only [isEligible, Bool.and_eq_true, decide_eq_true_eq] at hr
    rw [← hthread k d hd, hr.1.1, ht]
  have hkeys : ∀ k ∈ eligible t threadId now limit, p k = true := by
    intro k hk
    obtain ⟨d, hd, hth, -, -⟩ := mem_eligible hk
    rw [← hthread k d hd, hth, ht]
  obtain ⟨hua, huf⟩ := Table.updateEach_part (claimOne consumerId token (now + leaseMs) now)
    StorageError.notFound hkeys t
  by_cases hcl : hasClaimed t threadId = true
  · constructor
    · simp only [InMemoryMailboxStore.claim, he, ha, claim_sweep hi, ← ht', hclaimed, if_pos hcl]
      rfl
    · simp only [InMemoryMailboxStore.claim, claim_sweep hi, ← ht', if_pos hcl, restrict, hf]
  · constructor
    · simp only [InMemoryMailboxStore.claim, he, ha, claim_sweep hi, ← ht', hclaimed, if_neg hcl,
        hel, hua]
      rfl
    · simp only [InMemoryMailboxStore.claim, claim_sweep hi, ← ht', if_neg hcl, restrict, huf, hf]

lemma interruptDetailed_local :
    Local p (fun s => s.interruptDetailed threadId now) s := by
  obtain ⟨ha, hf⟩ := Table.sweep_part (p := p) (t := s.dispatches)
    (f := interruptOne threadId (s.epoch threadId) now)
    (fun b k d hd hk => by rw [interruptOne, if_pos (thread_ne hc ht hd hk)]) ⟨none, []⟩
  have he := epoch_restrict (s := s) ht
  have hs : (s.state.insert threadId ⟨s.epoch threadId + 1⟩).part (fun k => !p k) =
      s.state.part (fun k => !p k) := Table.part_insert_of_not (by simp [ht]) _
  constructor
  · simp only [interruptDetailed, he]
    simp only [restrict, ha, Table.part_insert ht]
  · simp only [interruptDetailed, restrict, hf, hs]

lemma listDispatches_restrict (statusFilter : Option (List RunDispatchStatus))
    (limit offset : Nat) :
    (restrict p s).listDispatches threadId statusFilter limit offset =
      s.listDispatches threadId statusFilter limit offset := by
  unfold InMemoryMailboxStore.listDispatches
  have hfilter := Table.filter_values_part (p := p) (t := s.dispatches)
    (r := fun j => j.threadId = threadId &&
      (statusFilter.map (fun sf => decide (j.status ∈ sf))).getD true)
    (fun k d hd hr => by
      simp only [Bool.and_eq_true, decide_eq_true_eq] at hr
      rw [← hc k d hd, hr.1, ht])
  rw [← hfilter]
  rfl

end Threads

section Reclaim

lemma reclaimOne_restrict {now : Nat} {d : RunDispatch} (hd : p d.threadId = true) :
    reclaimOne (s.state.part p) now d = reclaimOne s.state now d := by
  have he : currentEpochFromState (s.state.part p) d.threadId =
      currentEpochFromState s.state d.threadId := by
    simp only [currentEpochFromState, Table.get_part, hd, if_true]
  simp only [reclaimOne, he]

def expiredIds (s : InMemoryMailboxStore) (now limit : Nat) : List String :=
  ((s.dispatches.values.filter (isExpired now)).take limit).map (·.dispatchId)

lemma expiredIds_nodup (hi : Inv s) (now limit : Nat) : (expiredIds s now limit).Nodup := by
  have hk := s.dispatches.nodup
  rw [← Table.keys, ← values_ids hi] at hk
  exact hk.sublist (((List.take_sublist _ _).trans List.filter_sublist).map _)

lemma mem_expiredIds (hi : Inv s) {now limit : Nat} {k : String}
    (hk : k ∈ expiredIds s now limit) :
    ∃ d, s.get k = some d ∧ isExpired now d = true := by
  obtain ⟨d, hd, rfl⟩ := List.mem_map.mp hk
  obtain ⟨hm, hx⟩ := List.mem_filter.mp (List.mem_of_mem_take hd)
  obtain ⟨k, hk⟩ := Table.mem_values.mp hm
  have he := hi.key k d hk
  subst he
  exact ⟨d, hk, hx⟩

lemma reclaim_local (hi : Inv s) (hc : ClosedUnder p s) {now limit : Nat}
    (hx : limit = 0 ∨ ∀ k d, s.get k = some d → isExpired now d = true → p k = true) :
    Local p (fun s => s.reclaimExpiredLeases now limit) s := by
  have hids : expiredIds (restrict p s) now limit = expiredIds s now limit := by
    rcases hx with rfl | hx
    · rfl
    · exact congrArg (fun ds => (ds.take limit).map (·.dispatchId)) (Table.filter_values_part hx)
  have hkeys : ∀ k ∈ expiredIds s now limit, p k = true := by
    intro k hk
    rcases hx with rfl | hx
    · exact nomatch hk
    · obtain ⟨d, hd, hexp⟩ := mem_expiredIds hi hk
      exact hx k d hd hexp
  have hone : (restrict p s).dispatches.updateEach (reclaimOne (s.state.part p) now)
        StorageError.notFound (expiredIds s now limit) =
      (restrict p s).dispatches.updateEach (reclaimOne s.state now) StorageError.notFound
        (expiredIds s now limit) := by
    refine Table.updateEach_congr _ (expiredIds_nodup hi now limit) (fun k hk d hd => ?_)
    have hp := hkeys k hk
    have hg : s.get k = some d := (get_restrict_of hp).symm.trans hd
    exact reclaimOne_restrict ((hc k d hg).trans hp)
  obtain ⟨hua, huf⟩ := Table.updateEach_part (reclaimOne s.state now) StorageError.notFound hkeys
    s.dispatches
  constructor
  · calc (restrict p s).reclaimExpiredLeases now limit
        = ((((restrict p s).dispatches.updateEach (reclaimOne (s.state.part p) now)
              StorageError.notFound (expiredIds (restrict p s) now limit)).1),
            ⟨((restrict p s).dispatches.updateEach (reclaimOne (s.state.part p) now)
              StorageError.notFound (expiredIds (restrict p s) now limit)).2, s.state.part p⟩) := rfl
      _ = _ := by
        rw [hids, hone]
        simp only [restrict, hua]
        rfl
  · exact congrArg (fun t => (⟨t, s.state.part (fun k => !p k)⟩ : InMemoryMailboxStore)) huf

end Reclaim

section Listings

lemma listTerminalDispatches_restrict (hi : Inv s) (hs : s.dispatches.entries.length ≤ usizeMax) :
    (restrict p s).listTerminalDispatches usizeMax 0 =
      (s.listTerminalDispatches usizeMax 0).filter (fun d => p d.dispatchId) := by
  have hlen : ∀ q : RunDispatch → Bool, (s.dispatches.values.filter q).length ≤ usizeMax :=
    fun q => (List.length_filter_le _ _).trans (by simpa [Table.values] using hs)
  have hval : (restrict p s).dispatches.values =
      s.dispatches.values.filter (fun d => p d.dispatchId) := by
    simp only [restrict, Table.values, Table.entries_part, List.filter_map]
    refine congrArg _ (List.filter_congr (fun e he => ?_))
    rw [Function.comp_apply, hi.key e.1 e.2 (Table.get_eq_some.mpr he)]
  unfold InMemoryMailboxStore.listTerminalDispatches
  rw [List.drop_zero, List.drop_zero, hval, List.filter_filter,
    List.take_of_length_le (by rw [List.length_insertionSort]; exact hlen _),
    List.take_of_length_le (by rw [List.length_insertionSort]; exact hlen _),
    filter_insertionSort, List.filter_filter]
  simp only [Bool.and_comm]

lemma queuedThreadIds_restrict (hc : ClosedUnder p s) :
    (restrict p s).queuedThreadIds = s.queuedThreadIds.filter p := by
  have hmem : ∀ t, t ∈ (restrict p s).queuedThreadIds ↔ t ∈ s.queuedThreadIds.filter p := by
    intro t
    simp only [InMemoryMailboxStore.queuedThreadIds, List.mem_filter, List.mem_insertionSort,
      List.mem_dedup, List.mem_map, decide_eq_true_eq]
    constructor
    · rintro ⟨d, ⟨hd, hq⟩, rfl⟩
      obtain ⟨k, hk⟩ := Table.mem_values.mp hd
      have hg : (restrict p s).get k = some d := hk
      rw [get_restrict] at hg
      split at hg
      · next hp => exact ⟨⟨d, ⟨Table.mem_values.mpr ⟨k, hg⟩, hq⟩, rfl⟩, (hc k d hg).trans hp⟩
      · exact nomatch hg
    · rintro ⟨⟨d, ⟨hd, hq⟩, rfl⟩, hp⟩
      obtain ⟨k, hk⟩ := Table.mem_values.mp hd
      have hpk : p k = true := (hc k d hk).symm.trans hp
      exact ⟨d, ⟨Table.mem_values.mpr ⟨k, (get_restrict_of hpk).trans hk⟩, hq⟩, rfl⟩
  have hsorted : ∀ u : InMemoryMailboxStore, u.queuedThreadIds.Pairwise (· ≤ ·) :=
    fun u => List.pairwise_insertionSort _ _
  have hnodup : ∀ u : InMemoryMailboxStore, u.queuedThreadIds.Nodup :=
    fun u => ((List.perm_insertionSort _ _).nodup_iff).mpr (List.nodup_dedup _)
  exact List.Perm.eq_of_pairwise (fun a b _ _ => String.le_antisymm) (hsorted _)
    ((hsorted s).sublist List.filter_sublist)
    ((List.perm_ext_iff_of_nodup (hnodup _) ((hnodup s).filter _)).mpr hmem)

end Listings

theorem exec_local (hi : Inv s) (hc : ClosedUnder p s) {op : MailboxOp} (hk : KeysIn p op) :
    Local p (exec op) s := by
  cases op with
  | enqueue x => exact (enqueue_local hc hk.1 hk.2).map (fun _ => MailboxResp.unit)
  | claim => exact (claim_local hc hk hi _ _ _ _).map MailboxResp.dispatches
  | claimDispatch => exact (claimDispatch_local hk hc _ _ _ _).map MailboxResp.dispatch
  | ack => exact (asHolder_local hk hc _ _ _ _ _).map (fun _ => MailboxResp.unit)
  | recordDispatchStart =>
    exact (asHolder_local hk hc _ _ _ _ _).map (fun _ => MailboxResp.unit)
  | recordRunResult =>
    exact (asHolder_local hk hc _ _ _ _ _).map (fun _ => MailboxResp.unit)
  | nack => exact (asHolder_local hk hc _ _ _ _ _).map (fun _ => MailboxResp.unit)
  | deadLetter => exact (asHolder_local hk hc _ _ _ _ _).map (fun _ => MailboxResp.unit)
  | cancel => exact (cancel_local hk _).map MailboxResp.dispatch
  | extendLease => exact (extendLease_local hk hc _ _ _).map MailboxResp.flag
  | interrupt =>
    exact (interruptDetailed_local hc hk).map (·.intoSummary) |>.map MailboxResp.interrupt
  | interruptDetailed => exact (interruptDetailed_local hc hk).map MailboxResp.details
  | currentDispatchEpoch =>
    exact ⟨by simp only [InMemoryMailboxStore.exec, epoch_restrict hk], rfl⟩
  | supersedeClaimed =>
    exact (supersedeClaimed_local hk hc _ _ _).map MailboxResp.dispatch
  | loadDispatch =>
    exact ⟨by simp only [InMemoryMailboxStore.exec, get_restrict_of hk], rfl⟩
  | listDispatches =>
    exact ⟨by simp only [InMemoryMailboxStore.exec, listDispatches_restrict hc hk], rfl⟩
  | countDispatchesByStatus | listTerminalDispatches | reclaimExpiredLeases | purgeTerminal
  | queuedThreadIds => exact hk.elim

end Local

section Instance

abbrev SoundStore := { s : InMemoryMailboxStore // Inv s }

def cut (p : String → Bool) (s : InMemoryMailboxStore) : InMemoryMailboxStore :=
  ⟨s.dispatches.filter (fun k d => p k && p d.threadId), s.state.part p⟩

variable {p : String → Bool} {s : InMemoryMailboxStore}

lemma get_cut (k : String) :
    (cut p s).get k = (s.get k).filter (fun d => p k && p d.threadId) :=
  Table.get_filter _ _ k

lemma get_of_cut {k : String} {d : RunDispatch} (h : (cut p s).get k = some d) :
    s.get k = some d ∧ p k = true ∧ p d.threadId = true := by
  rw [get_cut, Option.filter_eq_some_iff, Bool.and_eq_true] at h
  exact h

lemma Inv.cut (hi : Inv s) (p : String → Bool) : Inv (cut p s) where
  key k d h := hi.key k d (get_of_cut h).1
  wellFormed k d h := hi.wellFormed k d (get_of_cut h).1
  bounded k d h := by
    obtain ⟨hd, -, ht⟩ := get_of_cut h
    have he : (MemoryMailbox.cut p s).epoch d.threadId = s.epoch d.threadId := epoch_restrict ht
    rw [he]
    exact hi.bounded k d hd

lemma cut_eq_restrict (hc : ClosedUnder p s) : cut p s = restrict p s := by
  have ht : s.dispatches.filter (fun k d => p k && p d.threadId) = s.dispatches.part p := by
    refine Table.ext_entries (List.filter_congr (fun e he => ?_))
    simp only [hc e.1 e.2 (Table.get_eq_some.mpr he), Bool.and_self]
  rw [cut, ht]
  rfl

def soundView : StoreView SoundStore where
  exec op s := ((exec op s.val).1, ⟨(exec op s.val).2, s.property.exec op⟩)
  row s k := s.val.get k
  epoch s t := s.val.epoch t
  size s := s.val.dispatches.entries.length
  part p s := ⟨cut p s.val, s.property.cut p⟩

lemma row_exec (hi : Inv s) (op : MailboxOp) {k : String} {d' : RunDispatch}
    (hk : (exec op s).2.get k = some d') :
    (∃ d, s.get k = some d ∧ d'.threadId = d.threadId) ∨
      ∃ x, op = .enqueue x ∧ x.dispatchId = k ∧ d'.threadId = x.threadId := by
  have he := exec_entry hi op k
  rw [hk] at he
  generalize hg : s.get k = o at he
  cases he with
  | same => exact .inl ⟨d', rfl, rfl⟩
  | change hch => exact .inl ⟨_, rfl, hch.same.threadId⟩
  | enqueued o ho hid hv => exact .inr ⟨_, ho, hid, rfl⟩

lemma local_of_within {s : SoundStore} (hc : ClosedUnder p s.val) {op : MailboxOp}
    (hw : soundView.Within p s op) : Local p (exec op) s.val := by
  rcases hw with hk | ⟨now, limit, rfl, hx⟩
  · exact exec_local s.property hc hk
  · exact (reclaim_local s.property hc hx).map MailboxResp.dispatches

lemma closed_exec {s : SoundStore} (hc : ClosedUnder p s.val) {op : MailboxOp}
    (hw : soundView.Within p s op) : ClosedUnder p (exec op s.val).2 := by
  intro k d' hk
  rcases row_exec s.property op hk with ⟨d, hd, ht⟩ | ⟨x, rfl, rfl, ht⟩
  · rw [ht]
    exact hc k d hd
  · rcases hw with hkeys | ⟨now, limit, ho, -⟩
    · rw [ht, hkeys.1, hkeys.2]
    · exact nomatch ho

lemma closed_not {s : InMemoryMailboxStore} (hc : ClosedUnder p s) :
    ClosedUnder (fun k => !p k) s := fun k d hd => congrArg Bool.not (hc k d hd)

def soundStore : KeyedMailbox SoundStore where
  toStoreView := soundView
  row_part p s k := get_cut k
  epoch_part p s t ht := epoch_restrict ht
  part_part p q s := by
    refine Subtype.ext ?_
    have hd : (s.val.dispatches.filter (fun k d => p k && p d.threadId)).filter
          (fun k d => q k && q d.threadId) =
        s.val.dispatches.filter (fun k d => (p k && q k) && (p d.threadId && q d.threadId)) := by
      refine Table.ext_entries ?_
      simp only [Table.filter, List.filter_filter]
      refine List.filter_congr (fun e _ => ?_)
      cases p e.1 <;> cases q e.1 <;> simp [Bool.and_comm]
    exact congrArg₂ InMemoryMailboxStore.mk hd Table.part_part
  row_exec op s k d' hk := row_exec s.property op hk
  exec_part p s op hc hw := by
    have h := (local_of_within hc hw).alone
    refine Prod.ext ?_ (Subtype.ext ?_)
    · simp only [soundView, cut_eq_restrict hc, h]
    · simp only [soundView, cut_eq_restrict hc, cut_eq_restrict (closed_exec hc hw), h]
  exec_frame p s op hc hw := by
    refine Subtype.ext ?_
    simp only [soundView, cut_eq_restrict (closed_not hc),
      cut_eq_restrict (closed_not (closed_exec hc hw)), (local_of_within hc hw).frame]
  listing op s hl := by cases hl <;> rfl
  listing_part p s op hc hs hl := by
    cases hl with
    | terminal =>
      refine Prod.ext ?_ rfl
      simp only [soundView, exec, cut_eq_restrict hc,
        listTerminalDispatches_restrict s.property hs, Outcome.map_ok, listed]
    | queuedThreads =>
      refine Prod.ext ?_ rfl
      simp only [soundView, exec, cut_eq_restrict hc, queuedThreadIds_restrict hc, Outcome.map_ok,
        listed]

end Instance

section Sharing

open KeyedMailbox

def scopeA : ScopeId := ⟨"a", by decide, by decide, by decide⟩

def scopeB : ScopeId := ⟨"b", by decide, by decide, by decide⟩

def emptyStore : SoundStore := ⟨InMemoryMailboxStore.new, inv_new⟩

def leasedByB : List (ScopeId × MailboxOp) :=
  [(scopeB, .enqueue (RunDispatch.queued "d" "t" "r" 0)), (scopeB, .claim "t" "w" 10 0 1 "tok")]

theorem reclaim_crosses_scopes :
    scopeA ≠ scopeB ∧ inScope scopeB (scopedKey scopeB "d") = true ∧
      ((served soundStore emptyStore leasedByB).val.get (scopedKey scopeB "d")).map (·.status) =
        some .claimed ∧
      ((served soundStore emptyStore
          (leasedByB ++ [(scopeA, .reclaimExpiredLeases 20 1)])).val.get
        (scopedKey scopeB "d")).map (·.status) = some .queued := by
  decide +kernel

def isFair (τ : Transition SoundStore ScopedCall) : Bool :=
  decide (τ.pre.val.dispatches.entries.length ≤ usizeMax) &&
    match τ.label.op with
    | .reclaimExpiredLeases now _ => τ.pre.val.dispatches.entries.all
        (fun e => !leaseExpired now e.2 || inScope τ.label.scopeId e.1)
    | _ => true

lemma fair_of_isFair {τ : Transition SoundStore ScopedCall} (h : isFair τ = true) :
    Fair soundStore τ := by
  obtain ⟨hs, ho⟩ := Bool.and_eq_true_iff.mp h
  refine ⟨of_decide_eq_true hs, ?_⟩
  intro now limit hop
  rw [hop] at ho
  refine .inr (fun k d hd hx => ?_)
  have he := List.all_eq_true.mp ho (k, d) (Table.get_eq_some.mp hd)
  simpa [hx] using he

lemma wellScoped_emptyStore : soundStore.WellScoped emptyStore := fun _ _ _ hd => nomatch hd

def sharedCalls : List (ScopeId × MailboxOp) :=
  [(scopeA, .enqueue (RunDispatch.queued "d" "t" "r" 0)), (scopeA, .claim "t" "w" 10 0 1 "tok"),
    (scopeB, .enqueue (RunDispatch.queued "d" "t" "r" 0)), (scopeB, .claim "t" "w" 90 0 1 "kot"),
    (scopeA, .reclaimExpiredLeases 20 5), (scopeA, .countDispatchesByStatus .queued)]

lemma sharedCalls_fair : ∀ τ ∈ trace soundStore emptyStore sharedCalls, Fair soundStore τ := by
  have h : (trace soundStore emptyStore sharedCalls).all isFair = true := by decide +kernel
  exact fun τ hτ => fair_of_isFair (List.all_eq_true.mp h τ hτ)

def callsByB : List (ScopeId × MailboxOp) := sharedCalls.filter (fun call => call.1 = scopeB)

lemma callsByB_fair : ∀ τ ∈ trace soundStore emptyStore callsByB, Fair soundStore τ := by
  have h : (trace soundStore emptyStore callsByB).all isFair = true := by decide +kernel
  exact fun τ hτ => fair_of_isFair (List.all_eq_true.mp h τ hτ)

theorem scopes_isolated_shared :
    callsOf scopeB (trace soundStore emptyStore sharedCalls) =
      callsOf scopeB (trace soundStore emptyStore callsByB) :=
  (scopes_isolated wellScoped_emptyStore (run_trace emptyStore sharedCalls) sharedCalls_fair).2.2
    _ _ _ wellScoped_emptyStore (run_trace emptyStore callsByB) callsByB_fair scopeB rfl
    (by decide +kernel)

end Sharing

end Awaken.Stores.MemoryMailbox
