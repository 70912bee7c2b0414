import Awaken.Stores.MemoryMailbox.Changes

namespace Awaken.Stores.MemoryMailbox

open Awaken.Lib Awaken.Contract.Mailbox Awaken.Contract.Storage
open Awaken.Stores.MailboxState InMemoryMailboxStore

variable {s s' : InMemoryMailboxStore} {op : MailboxOp}

inductive Edge : RunDispatchStatus → RunDispatchStatus → Prop
  | claim : Edge .queued .claimed
  | cancel : Edge .queued .cancelled
  | interrupt : Edge .queued .superseded
  | ack : Edge .claimed .acked
  | retry : Edge .claimed .queued
  | deadLetter : Edge .claimed .deadLetter
  | supersede : Edge .claimed .superseded

lemma Edge.active {a b : RunDispatchStatus} (h : Edge a b) : a.isTerminal = false := by
  cases h <;> rfl

structure Lawful (τ : Transition InMemoryMailboxStore Call) : Prop where
  edges : ∀ k d d', τ.pre.get k = some d → τ.post.get k = some d' →
    d'.status = d.status ∨ Edge d.status d'.status
  absorbing : ∀ k d d', τ.pre.get k = some d → τ.post.get k = some d' →
    d.status.isTerminal = true → d'.status = d.status
  kept : ∀ k d, τ.pre.get k = some d → τ.post.get k = none →
    d.status.isTerminal = true ∧ ∃ olderThan, τ.label.op = .purgeTerminal olderThan

lemma Change.edge {epoch : Nat} {d d' : RunDispatch} (h : Change epoch d op d') :
    d'.status = d.status ∨ Edge d.status d'.status := by
  cases h with
  | fenced _ _ hs => rcases hs with hs | hs <;> exact .inr (by rw [hs]; constructor)
  | start => exact .inl rfl
  | finish => exact .inl rfl
  | extend => exact .inl rfl
  | claim hs => exact .inr (by rw [hs]; constructor)
  | claimDispatch hs => exact .inr (by rw [hs]; constructor)
  | ack hs => exact .inr (by rw [hs]; constructor)
  | deadLetter hs => exact .inr (by rw [hs]; constructor)
  | cancel hs => exact .inr (by rw [hs]; constructor)
  | interrupt _ _ hs => exact .inr (by rw [hs]; constructor)
  | supersede hs => exact .inr (by rw [hs]; constructor)
  | nack hs =>
    rw [RunDispatch.nacked_status, hs]
    split <;> exact .inr (by constructor)
  | expire hs =>
    rw [RunDispatch.expired_status, hs]
    split <;> exact .inr (by constructor)

section Enqueue

def Admits (s : InMemoryMailboxStore) (x : RunDispatch) : Prop :=
  x.validateForEnqueue = .ok () ∧ ∀ key, x.dedupeKey = some key → s.isDuplicate x key = false

lemma enqueue_admitted {x : RunDispatch} (h : Admits s x) : s.enqueue x = s.enqueueFresh x := by
  unfold enqueue
  rw [h.1]
  cases hk : x.dedupeKey with
  | none => rfl
  | some key => simp [h.2 key hk]

lemma enqueue_refused {x : RunDispatch} (h : ¬ Admits s x) : (s.enqueue x).2 = s := by
  unfold enqueue
  split
  · rfl
  · next hv =>
    split
    · next key hk =>
      split
      · rfl
      · next hd =>
        refine absurd ⟨hv, fun key' hk' => ?_⟩ h
        rw [hk, Option.some.injEq] at hk'
        simpa [hk'] using hd
    · next hk => exact absurd ⟨hv, fun key hk' => nomatch hk.symm.trans hk'⟩ h

lemma isDuplicate_reorders {t : InMemoryMailboxStore} (h : s.Reorders t) (x : RunDispatch)
    (key : String) : t.isDuplicate x key = s.isDuplicate x key := by
  rw [isDuplicate, isDuplicate, Bool.eq_iff_iff, List.any_eq_true, List.any_eq_true]
  refine exists_congr (fun d => and_congr_left' ?_)
  rw [Table.mem_values, Table.mem_values]
  exact exists_congr (fun k => by rw [show t.dispatches.get k = s.dispatches.get k from h.get k])

lemma admits_reorders {t : InMemoryMailboxStore} (h : s.Reorders t) (x : RunDispatch) :
    Admits t x ↔ Admits s x := by
  simp only [Admits, isDuplicate_reorders h]

end Enqueue

/-- An enqueue that passes its checks and whose id is stored with a terminal status. -/
def RevivesTerminal (s : InMemoryMailboxStore) (op : MailboxOp) : Prop :=
  ∃ x d, op = .enqueue x ∧ Admits s x ∧ s.get x.dispatchId = some d ∧ d.status.isTerminal = true

lemma revived {call : Call} (h : Step s call s') {x : RunDispatch} (ho : call.op = .enqueue x)
    (ha : Admits s x) : ∃ d', s'.get x.dispatchId = some d' ∧ d'.status = .queued := by
  obtain ⟨t, ht, he⟩ := h
  have hs : s' = (t.enqueueFresh x).2 := calc
    s' = (exec call.op t).2 := (congrArg Prod.snd he).symm
    _ = (t.enqueue x).2 := by rw [ho]; rfl
    _ = (t.enqueueFresh x).2 := by rw [enqueue_admitted ((admits_reorders ht x).mpr ha)]
  exact ⟨_, by rw [hs, enqueueFresh_get ha.1, if_pos rfl], rfl⟩

lemma lawful_iff {τ : Transition InMemoryMailboxStore Call} (hi : Inv τ.pre)
    (h : Step τ.pre τ.label τ.post) : Lawful τ ↔ ¬ RevivesTerminal τ.pre τ.label.op := by
  constructor
  · rintro hl ⟨x, d, ho, ha, hd, ht⟩
    obtain ⟨d', hd', hs⟩ := revived h ho ha
    have hsame := hl.absorbing _ _ _ hd hd' ht
    rw [← hsame, hs] at ht
    exact nomatch ht
  · intro hn
    have hedge : ∀ k d d', τ.pre.get k = some d → τ.post.get k = some d' →
        d'.status = d.status ∨ Edge d.status d'.status := by
      intro k d d' hd hd'
      have he := step_entry hi h k
      rw [hd, hd'] at he
      cases he with
      | same => exact .inl rfl
      | change hc => exact hc.edge
      | @enqueued x _ ho hk hv =>
        by_cases ha : Admits τ.pre x
        · cases hs : d.status with
          | queued => exact .inl rfl
          | claimed => exact .inr .retry
          | acked | cancelled | superseded | deadLetter =>
            exact absurd ⟨x, d, ho, ha, hk ▸ hd, by rw [hs]; rfl⟩ hn
        · -- a refused enqueue leaves the dispatch that was there
          obtain ⟨t, ht, he⟩ := h
          have hpost : τ.post = t := calc
            τ.post = (exec τ.label.op t).2 := (congrArg Prod.snd he).symm
            _ = (t.enqueue x).2 := by rw [ho]; rfl
            _ = t := enqueue_refused (mt (admits_reorders ht x).mp ha)
          rw [hpost, ht.get, hd, Option.some.injEq] at hd'
          exact .inl (by rw [← hd'])
    refine ⟨hedge, fun k d d' hd hd' ht => ?_, fun k d hd hd' => ?_⟩
    · rcases hedge k d d' hd hd' with he | he
      · exact he
      · rw [he.active] at ht
        exact nomatch ht
    · have he := step_entry hi h k
      rw [hd, hd'] at he
      cases he with
      | purged ho hp =>
        rw [isPurgeable, Bool.and_eq_true] at hp
        exact ⟨hp.1, _, ho⟩

/-- A run keeps the diagram exactly when none of its calls enqueues over a terminal dispatch. -/
theorem lifecycle_lawful {tr : List (Transition InMemoryMailboxStore Call)}
    (hr : Run Step new tr s) :
    (∀ τ ∈ tr, Lawful τ) ↔ ∀ τ ∈ tr, ¬ RevivesTerminal τ.pre τ.label.op :=
  forall₂_congr (fun _ hτ =>
    lawful_iff (inv_reachable (hr.reachable_of_mem hτ)) (hr.step_of_mem hτ))

def revivingOps : List MailboxOp :=
  [.enqueue (.queued "d" "t" "r" 0), .cancel "d" 1, .enqueue (.queued "d" "t" "r" 2)]

theorem lifecycle_lawful_reviving :
    (∀ τ ∈ callTrace new revivingOps, Lawful τ) ↔
      ∀ τ ∈ callTrace new revivingOps, ¬ RevivesTerminal τ.pre τ.label.op :=
  lifecycle_lawful (run_callTrace new revivingOps)

theorem cancelled_dispatch_revived :
    ¬ ∀ tr s, Run Step new tr s → ∀ τ ∈ tr, Lawful τ := by
  intro h
  have hl := h _ _ (run_callTrace new revivingOps)
  have hlast := hl _ (List.mem_cons_of_mem _ (List.mem_cons_of_mem _ List.mem_cons_self))
  have hs := hlast.absorbing "d" ((RunDispatch.queued "d" "t" "r" 0).cancelled 1)
    (RunDispatch.queued "d" "t" "r" 2) (by decide) (by decide) rfl
  exact nomatch hs

end Awaken.Stores.MemoryMailbox
