import Awaken.Stores.MemoryMailbox.Changes

namespace Awaken.Stores.MemoryMailbox

open Awaken.Lib Awaken.Contract.Mailbox Awaken.Contract.Storage
open Awaken.Stores.MailboxState InMemoryMailboxStore

variable {s s' : InMemoryMailboxStore} {d d' : RunDispatch} {op : MailboxOp} {epoch : Nat}

lemma Change.active (h : Change epoch d op d') : d.status = .queued ∨ d.status = .claimed := by
  cases h with
  | fenced _ _ hs => exact hs
  | claim hs => exact .inl hs
  | claimDispatch hs => exact .inl hs
  | cancel hs => exact .inl hs
  | interrupt _ _ hs => exact .inl hs
  | ack hs => exact .inr hs
  | start hs => exact .inr hs
  | finish hs => exact .inr hs
  | nack hs => exact .inr hs
  | deadLetter hs => exact .inr hs
  | extend hs => exact .inr hs
  | supersede hs => exact .inr hs
  | expire hs => exact .inr hs

lemma Change.of_stale (h : Change epoch d op d') (hs : d.status = .claimed)
    (he : d.dispatchEpoch < epoch) : d'.status = .superseded ∧ d'.NoProjection := by
  have hq : d.status ≠ .queued := by simp [hs]
  cases h with
  | fenced => exact ⟨rfl, rfl, rfl, rfl, rfl, rfl⟩
  | supersede => exact ⟨rfl, rfl, rfl, rfl, rfl, rfl⟩
  | claim hc => exact absurd hc hq
  | claimDispatch hc => exact absurd hc hq
  | cancel hc => exact absurd hc hq
  | interrupt _ _ hc => exact absurd hc hq
  | ack _ _ hc => exact absurd he (Nat.not_lt.mpr hc)
  | start _ _ hc => exact absurd he (Nat.not_lt.mpr hc)
  | finish _ _ hc => exact absurd he (Nat.not_lt.mpr hc)
  | nack _ _ hc => exact absurd he (Nat.not_lt.mpr hc)
  | deadLetter _ _ hc => exact absurd he (Nat.not_lt.mpr hc)
  | extend _ _ hc => exact absurd he (Nat.not_lt.mpr hc)
  | expire _ _ hc => exact absurd he (Nat.not_lt.mpr hc)

inductive Fenced (s : InMemoryMailboxStore) (d₀ : RunDispatch) : Option RunDispatch → Prop
  | purged : Fenced s d₀ none
  | ended : d₀.status.isTerminal = true → Fenced s d₀ (some d₀)
  | held : d₀.status = .claimed → d₀.dispatchEpoch < s.epoch d₀.threadId → Fenced s d₀ (some d₀)
  | superseded {d : RunDispatch} :
      d.status = .superseded → d.NoProjection → Fenced s d₀ (some d)

def EnqueuesId (op : MailboxOp) (k : String) : Prop := ∃ x, op = .enqueue x ∧ x.dispatchId = k

def IsRecord (op : MailboxOp) : Prop :=
  (∃ id token instanceId now, op = .recordDispatchStart id token instanceId now) ∨
    ∃ id token result now, op = .recordRunResult id token result now

lemma fenced_step {call : Call} {k : String} {d₀ : RunDispatch} (hi : Inv s) (h : Step s call s')
    (hk : ¬ EnqueuesId call.op k) (hf : Fenced s d₀ (s.get k)) : Fenced s' d₀ (s'.get k) := by
  have he := step_entry hi h k
  have hep : ∀ d, s'.get k = some d → s.epoch d.threadId ≤ s'.epoch d.threadId := by
    intro d hd
    rw [step_epoch hi h d.threadId (.inr ⟨k, d, hd, rfl⟩)]
    exact le_epochAfter _ _
  generalize s.get k = o at hf he
  generalize s'.get k = o' at he hep ⊢
  cases he with
  | enqueued _ ho hx => exact absurd ⟨_, ho, hx⟩ hk
  | purged => exact .purged
  | same =>
    cases hf with
    | purged => exact .purged
    | ended ht => exact .ended ht
    | held hs hl => exact .held hs (Nat.lt_of_lt_of_le hl (hep d₀ rfl))
    | superseded hs hp => exact .superseded hs hp
  | change hc =>
    cases hf with
    | ended ht => rcases hc.active with hs | hs <;> simp [hs, RunDispatchStatus.isTerminal] at ht
    | held hs hl => exact .superseded (hc.of_stale hs hl).1 (hc.of_stale hs hl).2
    | superseded hs => rcases hc.active with hq | hq <;> simp [hs] at hq

lemma exec_interrupt {t : String} (ho : interruptedThread op = some t) (s : InMemoryMailboxStore) :
    ∃ now, (exec op s).2 = (s.interruptDetailed t now).2 := by
  cases op with
  | interrupt threadId now =>
    cases ho
    exact ⟨now, rfl⟩
  | interruptDetailed threadId now =>
    cases ho
    exact ⟨now, rfl⟩
  | _ => exact nomatch ho

lemma fenced_interrupt {call : Call} {k : String} {d₀ : RunDispatch} (hi : Inv s)
    (h : Step s call s') (ht : interruptedThread call.op = some d₀.threadId)
    (hd : s.get k = some d₀) : Fenced s' d₀ (s'.get k) := by
  have hb := hi.bounded _ _ hd
  have hep : s'.epoch d₀.threadId = s.epoch d₀.threadId + 1 := by
    rw [step_epoch hi h d₀.threadId (.inl fun _ hp => by simp [hp, interruptedThread] at ht),
      epochAfter, if_pos ht]
  obtain ⟨u, hr, he⟩ := h
  obtain ⟨now, hn⟩ := exec_interrupt ht u
  have hg : s'.get k = some (afterInterrupt d₀.threadId (s.epoch d₀.threadId) now d₀) := by
    rw [show s' = (exec call.op u).2 by rw [he], hn, interruptDetailed_get (hi.reorders hr), hr.get,
      hd, hr.epoch, Option.map_some]
  rw [hg, afterInterrupt]
  split
  · exact .superseded rfl ⟨rfl, rfl, rfl, rfl, rfl⟩
  · next hc =>
    cases hs : d₀.status with
    | queued => exact absurd ⟨rfl, hs, hb⟩ hc
    | claimed => exact .held hs (by omega)
    | acked | cancelled | superseded | deadLetter =>
      exact .ended (by simp [hs, RunDispatchStatus.isTerminal])

lemma fenced_run {s₀ s₁ : InMemoryMailboxStore} {call : Call} {k : String} {d₀ : RunDispatch}
    {tr : List (Transition InMemoryMailboxStore Call)} (hs₀ : Reachable Step new s₀)
    (hs₁ : Step s₀ call s₁) (ht : interruptedThread call.op = some d₀.threadId)
    (hd : s₀.get k = some d₀) (hr : Run Step s₁ tr s)
    (hk : ∀ τ ∈ tr, ¬ EnqueuesId τ.label.op k) :
    (Inv s ∧ Fenced s d₀ (s.get k)) ∧ ∀ τ ∈ tr, (Inv τ.pre ∧ Fenced τ.pre d₀ (τ.pre.get k)) ∧
      Inv τ.post ∧ Fenced τ.post d₀ (τ.post.get k) := by
  have hi := inv_reachable hs₀
  refine hr.invariant (I := fun s => Inv s ∧ Fenced s d₀ (s.get k)) ?_ hk
    ⟨hi.step hs₁, fenced_interrupt hi hs₁ ht hd⟩
  exact fun τ he hc ⟨hi, hf⟩ => ⟨hi.step he, fenced_step hi he hc hf⟩

lemma Fenced.cases {d₀ : RunDispatch} {o : Option RunDispatch} (h : Fenced s d₀ o)
    (hd : o = some d) :
    d = d₀ ∧ d₀.status ≠ .queued ∨ d.status = .superseded ∧ d.NoProjection := by
  cases h with
  | purged => exact nomatch hd
  | ended ht =>
    cases hd
    exact .inl ⟨rfl, fun hq => by simp [hq, RunDispatchStatus.isTerminal] at ht⟩
  | held hs =>
    cases hd
    exact .inl ⟨rfl, by simp [hs]⟩
  | superseded hs hp =>
    cases hd
    exact .inr ⟨hs, hp⟩

lemma fenced_change {call : Call} {k : String} {d₀ : RunDispatch} (hi : Inv s)
    (h : Step s call s') (hk : ¬ EnqueuesId call.op k) (hf : Fenced s d₀ (s.get k)) :
    s'.get k = s.get k ∨ s'.get k = none ∨
      ∃ d, s'.get k = some d ∧ d.status = .superseded ∧ d.NoProjection := by
  have he := step_entry hi h k
  generalize s.get k = o at hf he ⊢
  generalize s'.get k = o' at he ⊢
  cases he with
  | same => exact .inl rfl
  | purged => exact .inr (.inl rfl)
  | enqueued _ ho hx => exact absurd ⟨_, ho, hx⟩ hk
  | change hc =>
    cases hf with
    | ended ht => rcases hc.active with hs | hs <;> simp [hs, RunDispatchStatus.isTerminal] at ht
    | held hs hl => exact .inr (.inr ⟨_, rfl, hc.of_stale hs hl⟩)
    | superseded hs => rcases hc.active with hq | hq <;> simp [hs] at hq

lemma record_not_purge {k : String} {d : RunDispatch} (hr : IsRecord op) :
    ¬ EntryStep s op k (some d) none := by
  intro h
  cases h with
  | purged ho =>
    rcases hr with ⟨_, _, _, _, hr⟩ | ⟨_, _, _, _, hr⟩ <;> rw [hr] at ho <;> exact nomatch ho

/-- After an interrupt of its thread a dispatch is what the interrupt found, unless that was
Queued, or Superseded; a call that records a start or a result of it can only supersede it. -/
theorem interrupt_fence :
    (∀ s, Reachable Step new s → ∀ k d, s.get k = some d → d.dispatchEpoch ≤ s.epoch d.threadId) ∧
    ∀ s₀ call s₁ tr s k d₀, Reachable Step new s₀ → Step s₀ call s₁ →
      interruptedThread call.op = some d₀.threadId → s₀.get k = some d₀ → Run Step s₁ tr s →
      (∀ τ ∈ tr, ¬ EnqueuesId τ.label.op k) →
      (∀ d, s.get k = some d →
        d = d₀ ∧ d₀.status ≠ .queued ∨ d.status = .superseded ∧ d.NoProjection) ∧
      ∀ τ ∈ tr, IsRecord τ.label.op → τ.post.get k = τ.pre.get k ∨
        ∃ d, τ.post.get k = some d ∧ d.status = .superseded ∧ d.NoProjection := by
  refine ⟨fun s hs => (inv_reachable hs).bounded, ?_⟩
  intro s₀ call s₁ tr s k d₀ hs₀ hs₁ ht hd hr hk
  obtain ⟨⟨_, hf⟩, hall⟩ := fenced_run hs₀ hs₁ ht hd hr hk
  refine ⟨fun d hd => hf.cases hd, fun τ hτ hrec => ?_⟩
  obtain ⟨⟨hi, hfp⟩, _⟩ := hall τ hτ
  have hstep := hr.step_of_mem hτ
  rcases fenced_change hi hstep (hk τ hτ) hfp with he | hn | hs
  · exact .inl he
  · have he := step_entry hi hstep k
    cases hp : τ.pre.get k with
    | none => exact .inl hn
    | some d =>
      rw [hn, hp] at he
      exact absurd he (record_not_purge hrec)
  · exact .inr hs

def heldOps : List MailboxOp :=
  [.enqueue (.queued "d" "t" "r" 0), .claim "t" "c" 10 0 1 "token"]

def heldDispatch : RunDispatch :=
  (RunDispatch.queued "d" "t" "r" 0).claimedFor "c" "token" 10 0

def finishOp : MailboxOp :=
  .recordRunResult "d" "token" ⟨"r", "i", .running, none, none, none⟩ 2

lemma finishOp_not_enqueue (s : InMemoryMailboxStore) (k : String) :
    ∀ τ ∈ callTrace s [finishOp], ¬ EnqueuesId τ.label.op k := by
  intro τ hτ
  rw [callTrace, callTrace, List.mem_singleton] at hτ
  rintro ⟨x, hx, _⟩
  rw [hτ] at hx
  exact nomatch hx

def afterFinish : InMemoryMailboxStore :=
  execAll (exec (.interruptDetailed "t" 1) (execAll new heldOps)).2 [finishOp]

theorem interrupt_fence_held :
    (afterFinish.get "d").isSome ∧ ∀ d, afterFinish.get "d" = some d →
      d = heldDispatch ∧ heldDispatch.status ≠ .queued ∨
        d.status = .superseded ∧ d.NoProjection :=
  ⟨by decide, (interrupt_fence.2 _ _ _ _ _ "d" heldDispatch (reachable_execAll heldOps)
    (step_exec (.interruptDetailed "t" 1) _) rfl (by decide) (run_callTrace _ [finishOp])
    (finishOp_not_enqueue _ _)).1⟩

theorem record_after_interrupt :
    ¬ ∀ s₀ call s₁ tr s k d₀, Reachable Step new s₀ → Step s₀ call s₁ →
      interruptedThread call.op = some d₀.threadId → s₀.get k = some d₀ → Run Step s₁ tr s →
      (∀ τ ∈ tr, ¬ EnqueuesId τ.label.op k) →
      ∀ τ ∈ tr, IsRecord τ.label.op → τ.post.get k = τ.pre.get k := by
  intro h
  have hc := h _ _ _ _ _ "d" heldDispatch (reachable_execAll heldOps)
    (step_exec (.interruptDetailed "t" 1) _) rfl (by decide) (run_callTrace _ [finishOp])
    (finishOp_not_enqueue _ _) _ List.mem_cons_self (.inr ⟨_, _, _, _, rfl⟩)
  revert hc
  decide

end Awaken.Stores.MemoryMailbox
