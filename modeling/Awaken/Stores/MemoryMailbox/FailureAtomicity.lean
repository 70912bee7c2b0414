import Awaken.Contract.DispatchAtomicity
import Awaken.Stores.MemoryMailbox.Panics

namespace Awaken.Stores.MemoryMailbox

open Awaken.Lib Awaken.Lib.Text Awaken.Contract.Mailbox Awaken.Contract.Storage
open Awaken.Stores.MailboxState InMemoryMailboxStore
open RunDispatch (Mark)

variable {s : InMemoryMailboxStore}

def Anonymous (consumerId token : String) : Prop := isBlank consumerId = true ∨ isBlank token = true

def Held (s : InMemoryMailboxStore) (id token : String) (d : RunDispatch) : Prop :=
  s.get id = some d ∧ d.claimToken = some token

/-- A holder speaks for a dispatch that an interrupt has outdated. -/
def StaleConflict (s : InMemoryMailboxStore) : MailboxOp → Prop
  | .ack id token _ | .recordDispatchStart id token _ _ | .recordRunResult id token _ _
  | .nack id token _ _ _ | .deadLetter id token _ _ =>
    ∃ d, Held s id token d ∧ ¬ Current s d
  | _ => False

/-- The call claims anonymously, or updates a dispatch that was. -/
def SpoilsStore (s : InMemoryMailboxStore) : MailboxOp → Prop
  | .claim threadId consumerId _ now limit token =>
    Anonymous consumerId token ∧ 0 < limit ∧
      (∀ k d, s.get k = some d → d.threadId = threadId → d.status ≠ .claimed) ∧
      ∃ k d, s.get k = some d ∧ d.threadId = threadId ∧ d.status = .queued ∧ d.availableAt ≤ now ∧
        Current s d
  | .claimDispatch id consumerId _ _ token =>
    Anonymous consumerId token ∧
      ∃ d, s.get id = some d ∧ d.status = .queued ∧ Current s d ∧
        ∀ k e, s.get k = some e → e.threadId = d.threadId → e.dispatchId ≠ id → e.status ≠ .claimed
  | .recordDispatchStart id token instanceId now =>
    ∃ d, Held s id token d ∧ Current s d ∧ d.Spoils (.recordDispatchStart instanceId now)
  | .recordRunResult id token result now =>
    ∃ d, Held s id token d ∧ Current s d ∧ d.Spoils (.recordRunResult result now)
  | .extendLease id token extensionMs now =>
    ∃ d, Held s id token d ∧ Current s d ∧ d.Spoils (.extendLease (now + extensionMs) now)
  | _ => False

/-- Every stored dispatch and every thread epoch is as it was. -/
def SameStore (s t : InMemoryMailboxStore) : Prop :=
  (∀ k, t.get k = s.get k) ∧ ∀ threadId, t.epoch threadId = s.epoch threadId

lemma SameStore.refl (s : InMemoryMailboxStore) : SameStore s s := ⟨fun _ => rfl, fun _ => rfl⟩

lemma same_put {k : String} {d d' : RunDispatch} (hd : s.get k = some d) :
    SameStore s (s.put k d') ↔ d' = d := by
  constructor
  · intro h
    have hk := h.1 k
    rw [get_put hd, if_pos rfl, hd] at hk
    exact Option.some.inj hk
  · rintro rfl
    refine ⟨fun j => ?_, fun t => epoch_put k t d'⟩
    rw [get_put hd]
    split
    · next hj => rw [hj, hd]
    · rfl

def FailsChanged (s : InMemoryMailboxStore) (op : MailboxOp) : Prop :=
  (∃ e, (exec op s).1 = .err e) ∧ ¬ StaleConflict s op ∧ ¬ SameStore s (exec op s).2

lemma map_err {ε α β : Type} {f : α → β} {o : Outcome ε α} {e : ε} :
    o.map f = .err e ↔ o = .err e := by
  cases o <;> simp

section Holder

variable {id token reason : String} {now : Nat} {checkStatus : Bool}
  {body : RunDispatch → Outcome StorageError Unit × RunDispatch}

lemma asHolder_cases (hi : Inv s) (id token : String) :
    (∃ e, s.asHolder id token now checkStatus reason body = (.err e, s)) ∧
        (∀ d, ¬ Held s id token d) ∨
      ∃ d, Held s id token d ∧ d.status = .claimed ∧
        (¬ Current s d ∨ Current s d ∧
          s.asHolder id token now checkStatus reason body = ((body d).1, s.put id (body d).2)) := by
  unfold asHolder Held
  split
  · next hn => exact .inl ⟨⟨_, rfl⟩, fun d h => by rw [hn] at h; cases h.1⟩
  · next d hd =>
    by_cases ht : d.claimToken = some token
    · have hs : d.status = .claimed := claimed_of_token (hi.wellFormed _ _ hd) ht
      refine .inr ⟨d, ⟨hd, ht⟩, hs, ?_⟩
      by_cases hc : Current s d
      · refine .inr ⟨hc, ?_⟩
        rw [if_neg (by simp [hs, ht])]
        exact if_neg (Nat.not_lt.mpr hc)
      · exact .inl hc
    · refine .inl ⟨?_, fun e h => ?_⟩
      · rw [if_pos (.inr ht)]
        exact ⟨_, rfl⟩
      · rw [hd] at h
        cases h.1
        exact ht h.2

lemma Held.unique {d e : RunDispatch} (hd : Held s id token d) (he : Held s id token e) : e = d :=
  Option.some.inj (he.1.symm.trans hd.1)

lemma holder_fails (hi : Inv s) {P : RunDispatch → Prop}
    (hb : ∀ d, Held s id token d → d.status = .claimed →
      ((∃ e, (body d).1 = .err e) ∧ (body d).2 ≠ d ↔ P d)) :
    ((∃ e, (s.asHolder id token now checkStatus reason body).1 = .err e) ∧
        ¬ (∃ d, Held s id token d ∧ ¬ Current s d) ∧
        ¬ SameStore s (s.asHolder id token now checkStatus reason body).2) ↔
      ∃ d, Held s id token d ∧ Current s d ∧ P d := by
  obtain ⟨⟨e, he⟩, hn⟩ | ⟨d, hd, hs, hc | ⟨hc, he⟩⟩ :=
    asHolder_cases hi id token
  · rw [he]
    constructor
    · rintro ⟨-, -, hne⟩
      exact absurd (SameStore.refl s) hne
    · rintro ⟨d, hd, -⟩
      exact absurd hd (hn d)
  · constructor
    · rintro ⟨-, hst, -⟩
      exact absurd ⟨d, hd, hc⟩ hst
    · rintro ⟨e, he, hce, -⟩
      exact absurd (hd.unique he ▸ hce) hc
  · have hst : ¬ ∃ e, Held s id token e ∧ ¬ Current s e := by
      rintro ⟨e, hde, hce⟩
      exact hce (hd.unique hde ▸ hc)
    rw [he, same_put hd.1]
    constructor
    · rintro ⟨herr, -, hne⟩
      exact ⟨d, hd, hc, (hb d hd hs).mp ⟨herr, hne⟩⟩
    · rintro ⟨e, hde, -, hp⟩
      obtain ⟨herr, hne⟩ := (hb d hd hs).mpr (hd.unique hde ▸ hp)
      exact ⟨herr, hst, hne⟩

end Holder

section Operations

lemma not_failsChanged_of_same {op : MailboxOp} (h : (exec op s).2 = s) : ¬ FailsChanged s op :=
  fun hf => hf.2.2 (by rw [h]; exact SameStore.refl s)

lemma not_failsChanged_of_ok {op : MailboxOp} (h : ∀ e, (exec op s).1 ≠ .err e) :
    ¬ FailsChanged s op := fun hf => hf.1.elim (fun e he => h e he)

lemma ofExcept_err {r : Except StorageError Unit} :
    (∃ e, Outcome.ofExcept r = .err e) ↔ r ≠ .ok () := by
  cases r <;> simp

lemma expecting_ne_err (r : Except StorageError Unit × RunDispatch) (e : StorageError) :
    (expecting r).1 ≠ .err e := by
  cases hr : r.1 <;> simp [expecting, hr]

lemma recordDispatchStart_fails (hi : Inv s) (id token instanceId : String) (now : Nat) :
    FailsChanged s (.recordDispatchStart id token instanceId now) ↔
      SpoilsStore s (.recordDispatchStart id token instanceId now) := by
  simp only [FailsChanged, exec, map_err]
  refine holder_fails hi (fun d _ _ => ?_)
  rw [← RunDispatch.mark_spoils, ofExcept_err]
  rfl

lemma recordRunResult_fails (hi : Inv s) (id token : String) (result : RunDispatchResult)
    (now : Nat) : FailsChanged s (.recordRunResult id token result now) ↔
      SpoilsStore s (.recordRunResult id token result now) := by
  simp only [FailsChanged, exec, map_err]
  refine holder_fails hi (fun d _ _ => ?_)
  rw [← RunDispatch.mark_spoils, ofExcept_err]
  rfl

lemma unwrapped_fails (hi : Inv s) {id token reason : String} {now : Nat} {checkStatus : Bool}
    {transition : RunDispatch → Except StorageError Unit × RunDispatch} :
    ¬ ((∃ e, (s.asHolder id token now checkStatus reason
          (fun d => expecting (transition d))).1 = .err e) ∧
        ¬ (∃ d, Held s id token d ∧ ¬ Current s d) ∧
        ¬ SameStore s (s.asHolder id token now checkStatus reason
          (fun d => expecting (transition d))).2) := by
  rw [holder_fails (P := fun _ => False) hi (fun d _ _ => ?_)]
  · simp
  · simp [expecting_ne_err]

lemma enqueueFresh_err {x : RunDispatch} (hv : x.validateForEnqueue = .ok ()) (e : StorageError) :
    (s.enqueueFresh x).1 ≠ .err e := by
  rw [enqueueFresh_eq hv]
  simp

lemma enqueue_fails (x : RunDispatch) : ¬ FailsChanged s (.enqueue x) := by
  rintro ⟨⟨e, he⟩, -, hne⟩
  simp only [exec, map_err] at he
  unfold exec enqueue at hne
  unfold enqueue at he
  cases hv : x.validateForEnqueue with
  | error e' =>
    simp only [hv] at hne
    exact hne (SameStore.refl s)
  | ok u =>
    simp only [hv] at he hne
    cases hk : x.dedupeKey with
    | none =>
      simp only [hk] at he
      exact enqueueFresh_err hv e he
    | some dk =>
      simp only [hk] at he hne
      split at he
      · next hd =>
        rw [if_pos hd] at hne
        exact hne (SameStore.refl s)
      · exact enqueueFresh_err hv e he

lemma claimOne_err {d : RunDispatch} (hs : d.status = .queued) {consumerId token : String}
    (ha : Anonymous consumerId token) (leaseUntil now : Nat) :
    ∃ e, (claimOne consumerId token leaseUntil now d).1 = .err e := by
  have hv : (d.claimedFor consumerId token leaseUntil now).validateForPersist ≠ .ok () := by
    rw [ne_eq, RunDispatch.claimedFor_valid]
    rintro ⟨-, ht, hc⟩
    rcases ha with ha | ha
    · rw [hc] at ha
      cases ha
    · rw [ht] at ha
      cases ha
  unfold claimOne
  rw [RunDispatch.claim, RunDispatch.transition_of_eq hs]
  cases hr : (d.claimedFor consumerId token leaseUntil now).validateForPersist with
  | error e => exact ⟨e, rfl⟩
  | ok u => exact absurd hr hv

lemma claimOne_ok {d : RunDispatch} (hw : d.WellFormed) (hs : d.status = .queued)
    {consumerId token : String} (ha : ¬ Anonymous consumerId token) (leaseUntil now : Nat) :
    ∃ b, (claimOne consumerId token leaseUntil now d).1 = .ok b := by
  rw [Anonymous, not_or, Bool.not_eq_true, Bool.not_eq_true] at ha
  have hv := (RunDispatch.claimedFor_valid d consumerId token leaseUntil now).mpr
    ⟨⟨hw.dispatchId, hw.threadId, hw.runId, hw.maxAttempts, hw.attempts_of_queued hs⟩, ha.2, ha.1⟩
  unfold claimOne
  rw [RunDispatch.claim, RunDispatch.transition_of_eq hs, hv]
  exact ⟨_, rfl⟩

lemma unclaimed_fence (threadId : String) (now : Nat) :
    hasClaimed (fence s threadId now).dispatches threadId = false ↔
      ∀ k d, s.get k = some d → d.threadId = threadId → d.status ≠ .claimed := by
  rw [← Bool.not_eq_true, hasClaimed, Table.any_values]
  have hget : ∀ k, (fence s threadId now).dispatches.get k =
      (s.get k).map (afterFence threadId (s.epoch threadId) now) := fence_get
  constructor
  · intro h k d hd ht hs
    refine h ⟨k, afterFence threadId (s.epoch threadId) now d, by rw [hget, hd]; rfl, ?_⟩
    have hf : afterFence threadId (s.epoch threadId) now d = d := if_neg (by simp [hs])
    simp [hf, ht, hs]
  · rintro h ⟨k, v, hv, hp⟩
    rw [hget, Option.map_eq_some_iff] at hv
    obtain ⟨d, hd, rfl⟩ := hv
    simp only [Bool.and_eq_true, decide_eq_true_eq] at hp
    by_cases hf : d.threadId = threadId ∧ d.status = .queued ∧ d.dispatchEpoch < s.epoch threadId
    · rw [afterFence, if_pos hf] at hp
      cases hp.2
    · rw [afterFence, if_neg hf] at hp
      exact h k d hd hp.1 hp.2

lemma eligible_eq_nil {t : Table String RunDispatch} {threadId : String} {now limit : Nat} :
    eligible t threadId now limit = [] ↔
      limit = 0 ∨ ∀ k d, t.get k = some d → isEligible threadId now d = false := by
  rw [eligible, List.take_eq_nil_iff, List.map_eq_nil_iff]
  refine or_congr_right ?_
  rw [← List.length_eq_zero_iff, List.length_insertionSort, List.length_eq_zero_iff,
    List.filter_eq_nil_iff]
  constructor
  · intro h k d hd
    exact Bool.not_eq_true _ ▸ h (k, d) (Table.get_eq_some.mp hd)
  · rintro h ⟨k, d⟩ hm
    rw [h k d (Table.get_eq_some.mpr hm)]
    simp

lemma exists_eligible {threadId : String} {now : Nat} :
    (∃ k d, (fence s threadId now).dispatches.get k = some d ∧ isEligible threadId now d = true) ↔
      ∃ k d, s.get k = some d ∧ d.threadId = threadId ∧ d.status = .queued ∧ d.availableAt ≤ now ∧
        Current s d := by
  have hget : ∀ k, (fence s threadId now).dispatches.get k =
      (s.get k).map (afterFence threadId (s.epoch threadId) now) := fence_get
  constructor
  · rintro ⟨k, v, hv, he⟩
    rw [hget, Option.map_eq_some_iff] at hv
    obtain ⟨d, hd, rfl⟩ := hv
    simp only [isEligible, Bool.and_eq_true, decide_eq_true_eq] at he
    obtain ⟨hq, hep⟩ := queued_afterFence he.1.1 he.1.2
    rw [hq] at he
    refine ⟨k, d, hd, he.1.1, he.1.2, he.2, ?_⟩
    rw [Current, he.1.1]
    exact hep
  · rintro ⟨k, d, hd, rfl, hs, ha, hc⟩
    have hf : afterFence d.threadId (s.epoch d.threadId) now d = d :=
      if_neg (fun h => Nat.not_lt.mpr hc h.2.2)
    exact ⟨k, d, by rw [hget, hd, Option.map_some, hf], by simp [isEligible, hs, ha]⟩

lemma claim_anonymous (hi : Inv s) {threadId consumerId token : String} {now limit : Nat}
    (ha : Anonymous consumerId token) (hl : 0 < limit)
    (hc : ∀ k d, s.get k = some d → d.threadId = threadId → d.status ≠ .claimed)
    (he : ∃ k d, s.get k = some d ∧ d.threadId = threadId ∧ d.status = .queued ∧
      d.availableAt ≤ now ∧ Current s d) (leaseMs : Nat) :
    (∃ e, (s.claim threadId consumerId leaseMs now limit token).1 = .err e) ∧
      ∃ k d, s.get k = some d ∧ d.status = .queued ∧
        (s.claim threadId consumerId leaseMs now limit token).2.get k =
          some (d.claimedFor consumerId token (now + leaseMs) now) := by
  rw [← unclaimed_fence (s := s) threadId now] at hc
  rw [← exists_eligible (s := s)] at he
  rw [claim_eq hi, hc]
  simp only [Bool.false_eq_true, if_false]
  cases hel : eligible (fence s threadId now).dispatches threadId now limit with
  | nil =>
    obtain ⟨k, d, hd, he⟩ := he
    rcases eligible_eq_nil.mp hel with rfl | hnone
    · exact absurd hl (Nat.lt_irrefl 0)
    · exact absurd (hnone k d hd) (by simp [he])
  | cons k ks =>
    obtain ⟨v, hv, ht, hs, -⟩ := mem_eligible (hel ▸ List.mem_cons_self)
    obtain ⟨e, herr⟩ := claimOne_err hs ha (now + leaseMs) now
    rw [Table.updateEach_err_head hv herr]
    have hf := hv
    rw [← InMemoryMailboxStore.get, fence_get, Option.map_eq_some_iff] at hf
    obtain ⟨d, hd, rfl⟩ := hf
    obtain ⟨hq, -⟩ := queued_afterFence ht hs
    refine ⟨⟨e, rfl⟩, k, d, hd, hq ▸ hs, ?_⟩
    rw [InMemoryMailboxStore.get, Table.get_modify_self, hv, Option.map_some, claimOne_snd hs, hq]

lemma claim_fails (hi : Inv s) (threadId consumerId : String) (leaseMs now limit : Nat)
    (token : String) :
    FailsChanged s (.claim threadId consumerId leaseMs now limit token) ↔
      SpoilsStore s (.claim threadId consumerId leaseMs now limit token) := by
  have hnodup := eligible_nodup (fence s threadId now).dispatches threadId now limit
  simp only [FailsChanged, exec, map_err, StaleConflict, not_false_eq_true, true_and, SpoilsStore]
  constructor
  · rintro ⟨⟨e, he⟩, -⟩
    rw [← unclaimed_fence (s := s) threadId now, ← exists_eligible (s := s)]
    rw [claim_eq hi] at he
    split at he
    · cases he
    · next hc =>
      obtain ⟨k, ks, hel⟩ : ∃ k ks,
          eligible (fence s threadId now).dispatches threadId now limit = k :: ks := by
        refine List.exists_cons_of_ne_nil (fun hnil => ?_)
        rw [hnil] at he
        cases he
      obtain ⟨v, hv, ht, hs, hav⟩ := mem_eligible (hel ▸ List.mem_cons_self)
      refine ⟨?_, ?_, by simpa using hc, k, v, hv, by simp [isEligible, ht, hs, hav]⟩
      · by_contra ha
        have hok : ∀ j ∈ eligible (fence s threadId now).dispatches threadId now limit,
            ∃ w b, (fence s threadId now).dispatches.get j = some w ∧
              (claimOne consumerId token (now + leaseMs) now w).1 = .ok b := by
          intro j hj
          obtain ⟨w, hw, hwt, hws, -⟩ := mem_eligible hj
          have hf := hw
          rw [← InMemoryMailboxStore.get, fence_get, Option.map_eq_some_iff] at hf
          obtain ⟨d, hd, rfl⟩ := hf
          obtain ⟨hq, -⟩ := queued_afterFence hwt hws
          obtain ⟨b, hb⟩ := claimOne_ok (hi.wellFormed _ _ hd) (hq ▸ hws) ha (now + leaseMs) now
          exact ⟨_, b, hw, hq.symm ▸ hb⟩
        obtain ⟨bs, hbs⟩ := Table.updateEach_fst_ok hnodup hok
        cases hbs.symm.trans he
      · rw [Nat.pos_iff_ne_zero]
        rintro rfl
        cases hel
  · rintro ⟨ha, hl, hc, he⟩
    obtain ⟨herr, k, d, hd, hs, hk⟩ := claim_anonymous hi ha hl hc he leaseMs
    refine ⟨herr, fun hsame => ?_⟩
    have hd' := hsame.1 k
    rw [hk, hd, Option.some.injEq] at hd'
    rw [← hd'] at hs
    cases hs

lemma hasOtherClaimed_false (threadId id : String) : s.hasOtherClaimed threadId id = false ↔
    ∀ k e, s.get k = some e → e.threadId = threadId → e.dispatchId ≠ id → e.status ≠ .claimed := by
  rw [← Bool.not_eq_true, hasOtherClaimed, Table.any_values]
  simp only [Bool.and_eq_true, decide_eq_true_eq, not_exists, not_and, and_imp]
  rfl

lemma claimDispatch_fails (hi : Inv s) (id consumerId : String) (leaseMs now : Nat)
    (token : String) :
    FailsChanged s (.claimDispatch id consumerId leaseMs now token) ↔
      SpoilsStore s (.claimDispatch id consumerId leaseMs now token) := by
  simp only [FailsChanged, exec, map_err, StaleConflict, not_false_eq_true, true_and, SpoilsStore]
  unfold claimDispatch
  cases hd : s.get id with
  | none => simp
  | some d =>
    simp only [Option.some.injEq, exists_eq_left']
    by_cases hs : d.status = .queued
    · rw [if_neg (not_not.mpr hs)]
      by_cases hc : Current s d
      · rw [if_neg (Nat.not_lt.mpr hc), ← hasOtherClaimed_false]
        cases ho : s.hasOtherClaimed d.threadId id with
        | true => simp
        | false =>
          simp only [Bool.false_eq_true, if_false, hs, hc, and_true]
          rw [same_put hd, claimOne_snd hs]
          by_cases ha : Anonymous consumerId token
          · simp only [ha, iff_true]
            exact ⟨claimOne_err hs ha _ _,
              RunDispatch.ne_of_status (by simp [hs, RunDispatch.claimedFor])⟩
          · obtain ⟨b, hb⟩ := claimOne_ok (hi.wellFormed _ _ hd) hs ha (now + leaseMs) now
            simp [ha, hb]
      · have hlt : d.dispatchEpoch < s.epoch d.threadId := Nat.not_le.mp hc
        rw [if_pos hlt, markSupersededAtEpoch_eq (hi.wellFormed _ _ hd) (.inl hs)]
        simp [hc]
    · rw [if_pos hs]
      simp [hs]

lemma extendLease_fails (hi : Inv s) (id token : String) (extensionMs now : Nat) :
    FailsChanged s (.extendLease id token extensionMs now) ↔
      SpoilsStore s (.extendLease id token extensionMs now) := by
  simp only [FailsChanged, exec, map_err, StaleConflict, not_false_eq_true, true_and, SpoilsStore,
    Held, ← RunDispatch.mark_spoils]
  unfold extendLease
  cases hd : s.get id with
  | none => simp
  | some d =>
    simp only [Option.some.injEq]
    by_cases ht : d.claimToken = some token
    · have hs : d.status = .claimed := claimed_of_token (hi.wellFormed _ _ hd) ht
      rw [if_neg (by simp [hs, ht])]
      by_cases hc : Current s d
      · rw [if_neg (Nat.not_lt.mpr hc)]
        simp only [map_err, ofExcept_err, same_put hd]
        constructor
        · rintro ⟨herr, hne⟩
          exact ⟨d, ⟨rfl, ht⟩, hc, herr, hne⟩
        · rintro ⟨e, ⟨rfl, -⟩, -, herr, hne⟩
          exact ⟨herr, hne⟩
      · have hlt : d.dispatchEpoch < s.epoch d.threadId := Nat.not_le.mp hc
        rw [if_pos hlt, markSupersededAtEpoch_eq (hi.wellFormed _ _ hd) (.inr hs)]
        simp [hc]
    · rw [if_pos (.inr ht)]
      simp [ht]

lemma cancel_fails (hi : Inv s) (id : String) (now : Nat) : ¬ FailsChanged s (.cancel id now) := by
  simp only [FailsChanged, exec, map_err]
  unfold cancel
  cases hd : s.get id with
  | none => simp
  | some d =>
    by_cases hs : d.status = .queued
    · simp [hs, markCancelled_eq (hi.wellFormed _ _ hd) hs]
    · simp [hs]

lemma supersedeClaimed_fails (hi : Inv s) (id token : String) (now : Nat) (reason : String) :
    ¬ FailsChanged s (.supersedeClaimed id token now reason) := by
  simp only [FailsChanged, exec, map_err]
  unfold supersedeClaimed
  cases hd : s.get id with
  | none => simp
  | some d =>
    by_cases hs : d.status = .claimed
    · by_cases ht : d.claimToken = some token
      · simp [hs, ht, markSupersededAtEpoch_eq (hi.wellFormed _ _ hd) (.inr hs)]
      · simp [hs, ht, SameStore.refl]
    · simp [hs]

lemma interruptDetailed_fails (hi : Inv s) (threadId : String) (now : Nat) (e : StorageError) :
    (s.interruptDetailed threadId now).1 ≠ .err e := by
  simp [interruptDetailed, interrupt_sweep hi]

lemma reclaimOne_ne_err (state : Table String MailboxState) (now : Nat) (d : RunDispatch)
    (e : StorageError) : (reclaimOne state now d).1 ≠ .err e := by
  unfold reclaimOne
  dsimp only
  split
  · rw [ne_eq, map_err]
    exact expecting_ne_err _ e
  · rw [ne_eq, map_err]
    exact expecting_ne_err _ e

lemma reclaimExpiredLeases_ne_err (hi : Inv s) (now limit : Nat) (e : StorageError) :
    (s.reclaimExpiredLeases now limit).1 ≠ .err e := by
  refine Table.updateEach_ne_err (reclaimOne_ne_err s.state now) (fun k hk => ?_) e
  rw [← values_ids hi]
  exact (((List.take_sublist _ _).trans List.filter_sublist).map _).subset hk

lemma failsChanged_iff (hi : Inv s) (op : MailboxOp) : FailsChanged s op ↔ SpoilsStore s op := by
  cases op with
  | claim => exact claim_fails hi _ _ _ _ _ _
  | claimDispatch => exact claimDispatch_fails hi _ _ _ _ _
  | recordDispatchStart => exact recordDispatchStart_fails hi _ _ _ _
  | recordRunResult => exact recordRunResult_fails hi _ _ _ _
  | extendLease => exact extendLease_fails hi _ _ _ _
  | enqueue x => exact iff_of_false (enqueue_fails x) id
  | ack =>
    simp only [FailsChanged, exec, map_err]
    exact iff_of_false (unwrapped_fails hi) id
  | nack =>
    simp only [FailsChanged, exec, map_err]
    exact iff_of_false (unwrapped_fails hi) id
  | deadLetter =>
    simp only [FailsChanged, exec, map_err]
    exact iff_of_false (unwrapped_fails hi) id
  | cancel => exact iff_of_false (cancel_fails hi _ _) id
  | supersedeClaimed => exact iff_of_false (supersedeClaimed_fails hi _ _ _ _) id
  | interrupt =>
    refine iff_of_false (not_failsChanged_of_ok (fun e he => ?_)) id
    exact interruptDetailed_fails hi _ _ e (map_err.mp (map_err.mp he))
  | interruptDetailed =>
    refine iff_of_false (not_failsChanged_of_ok (fun e he => ?_)) id
    exact interruptDetailed_fails hi _ _ e (map_err.mp he)
  | reclaimExpiredLeases =>
    refine iff_of_false (not_failsChanged_of_ok (fun e he => ?_)) id
    exact reclaimExpiredLeases_ne_err hi _ _ e (map_err.mp he)
  | purgeTerminal =>
    exact iff_of_false (not_failsChanged_of_ok (fun e he => by cases he)) id
  | _ => exact iff_of_false (not_failsChanged_of_same rfl) id

/-- A failing call changes nothing, and neither does a failing transition, apart from the calls and
transitions that fail their validation after the update. -/
theorem failures_change_nothing (h : Reachable Step new s) (op : MailboxOp) (d : RunDispatch)
    (m : Mark) :
    (((∃ e, (exec op s).1 = .err e) → ¬ StaleConflict s op → SameStore s (exec op s).2) ↔
        ¬ SpoilsStore s op) ∧
      (((d.mark m).1 ≠ .ok () → (d.mark m).2 = d) ↔ ¬ d.Spoils m) := by
  rw [← failsChanged_iff (inv_reachable h), ← RunDispatch.mark_spoils]
  constructor
  · simp only [FailsChanged, not_and, not_not]
  · simp only [not_and, not_not, ne_eq]

def blankClaimOps : List MailboxOp := [.enqueue (.queued "d" "t" "r" 0)]

theorem failures_change_nothing_blank :
    (((∃ e, (exec (.claim "t" "worker" 10 0 1 "token") (execAll new blankClaimOps)).1 = .err e) →
          ¬ StaleConflict (execAll new blankClaimOps) (.claim "t" "worker" 10 0 1 "token") →
          SameStore (execAll new blankClaimOps)
            (exec (.claim "t" "worker" 10 0 1 "token") (execAll new blankClaimOps)).2) ↔
        ¬ SpoilsStore (execAll new blankClaimOps) (.claim "t" "worker" 10 0 1 "token")) ∧
      ((((RunDispatch.queued "d" "t" "r" 0).mark (.markAcked 1)).1 ≠ .ok () →
          ((RunDispatch.queued "d" "t" "r" 0).mark (.markAcked 1)).2 = .queued "d" "t" "r" 0) ↔
        ¬ (RunDispatch.queued "d" "t" "r" 0).Spoils (.markAcked 1)) :=
  failures_change_nothing (reachable_execAll blankClaimOps) _ _ _

theorem failures_change_something :
    (¬ ∀ s, Reachable Step new s → ∀ op, (∃ e, (exec op s).1 = .err e) → ¬ StaleConflict s op →
        SameStore s (exec op s).2) ∧
      ¬ ∀ (d : RunDispatch) (m : Mark), (d.mark m).1 ≠ .ok () → (d.mark m).2 = d := by
  constructor
  · intro h
    have hs := h _ (reachable_execAll blankClaimOps) (.claim "t" "" 10 0 1 "token")
      ⟨_, rfl⟩ id
    exact absurd (hs.1 "d") (by decide)
  · intro h
    have hs := h ((RunDispatch.queued "d" "t" "r" 0).cancelled 1)
      (.markSupersededAtEpoch 2 7 none) (by decide)
    exact absurd hs (by decide)

end Operations

end Awaken.Stores.MemoryMailbox
