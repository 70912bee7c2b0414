import Awaken.Stores.MemoryMailbox.Changes

namespace Awaken.Stores.MemoryMailbox

open Awaken.Lib Awaken.Contract.Mailbox Awaken.Contract.Storage
open Awaken.Stores.MailboxState InMemoryMailboxStore

variable {s s' : InMemoryMailboxStore} {op : MailboxOp} {k token : String} {d : RunDispatch}

def GhostRun (d : RunDispatch) : Prop := d.status.isTerminal = true ∧ d.runStatus = some .running

def NoGhostRuns (s : InMemoryMailboxStore) : Prop := ∀ k d, s.get k = some d → ¬ GhostRun d

def EndsDispatch (d : RunDispatch) (k token : String) : MailboxOp → Prop
  | .ack id claimToken _ => id = k ∧ claimToken = token
  | .deadLetter id claimToken _ _ => id = k ∧ claimToken = token
  | .nack id claimToken _ _ _ => id = k ∧ claimToken = token ∧ d.lastAttempt
  | _ => False

/-- The current holder ends a dispatch whose recorded run status is Running. -/
def EndsRunning (s : InMemoryMailboxStore) (op : MailboxOp) : Prop :=
  ∃ k d token, s.get k = some d ∧ d.claimToken = some token ∧
    s.epoch d.threadId ≤ d.dispatchEpoch ∧ d.runStatus = some .running ∧ EndsDispatch d k token op

lemma Change.no_ghost {epoch : Nat} {d' : RunDispatch} (hw : d.WellFormed)
    (h : Change epoch d op d')
    (hn : ¬ ∃ token, d.claimToken = some token ∧ epoch ≤ d.dispatchEpoch ∧
      d.runStatus = some .running ∧ EndsDispatch d d.dispatchId token op) : ¬ GhostRun d' := by
  rintro ⟨ht, hr⟩
  cases h with
  | ack _ hc he => exact hn ⟨_, hc, he, hr, rfl, rfl⟩
  | deadLetter _ hc he => exact hn ⟨_, hc, he, hr, rfl, rfl⟩
  | nack _ hc he =>
    by_cases hl : d.lastAttempt
    · rw [RunDispatch.nacked_last hl] at hr
      exact hn ⟨_, hc, he, hr, rfl, rfl, hl⟩
    · rw [RunDispatch.nacked_retry hl] at ht
      exact nomatch ht
  | cancel hs =>
    have hp : d.runStatus = none := (hw.queued hs).2.2.1
    exact nomatch hp.symm.trans hr
  | expire =>
    by_cases hl : d.lastAttempt
    · rw [RunDispatch.expired_last hl] at hr
      exact nomatch hr
    · rw [RunDispatch.expired_retry hl] at ht
      exact nomatch ht
  | claim => exact nomatch ht
  | claimDispatch => exact nomatch ht
  | start hs =>
    rw [show (d.started _ _).status = .claimed from hs] at ht
    exact nomatch ht
  | finish hs =>
    rw [show (d.finished _ _).status = .claimed from hs] at ht
    exact nomatch ht
  | extend hs =>
    rw [show (d.leasedUntil _ _).status = .claimed from hs] at ht
    exact nomatch ht
  | fenced => exact nomatch hr
  | interrupt => exact nomatch hr
  | supersede => exact nomatch hr

lemma noGhostRuns_step {call : Call} (hi : Inv s) (h : Step s call s')
    (he : ¬ EndsRunning s call.op) (hn : NoGhostRuns s) : NoGhostRuns s' := by
  intro k d' hd'
  have hstep := step_entry hi h k
  rw [hd'] at hstep
  generalize ho : s.get k = o at hstep
  cases hstep with
  | same => exact hn k d' ho
  | enqueued => exact fun hg => nomatch hg.1
  | @change d _ hc =>
    refine hc.no_ghost (hi.wellFormed _ _ ho) ?_
    rintro ⟨token, ht, hep, hr, hends⟩
    rw [hi.key _ _ ho] at hends
    exact he ⟨k, d, token, ho, ht, hep, hr, hends⟩

lemma asHolder_accepted {now : Nat} {checkStatus : Bool} {reason : String}
    {body : RunDispatch → Outcome StorageError Unit × RunDispatch} (hd : s.get k = some d)
    (hs : d.status = .claimed) (ht : d.claimToken = some token)
    (he : s.epoch d.threadId ≤ d.dispatchEpoch) :
    s.asHolder k token now checkStatus reason body = ((body d).1, s.put k (body d).2) := by
  have hg : ¬ ((checkStatus ∧ d.status ≠ .claimed) ∨ d.claimToken ≠ some token) := by
    simp [hs, ht]
  simp only [asHolder, hd, if_neg hg, if_neg (Nat.not_lt.mpr he)]

lemma ghost_exec (hi : Inv s) (h : EndsRunning s op) : ¬ NoGhostRuns (exec op s).2 := by
  obtain ⟨k, d, token, hd, ht, he, hr, hends⟩ := h
  have hw := hi.wellFormed _ _ hd
  have hs := claimed_of_token hw ht
  have hput : ∀ d', GhostRun d' → ¬ NoGhostRuns (s.put k d') :=
    fun d' hg hn => hn k d' (by rw [get_put hd, if_pos rfl]) hg
  cases op with
  | ack id claimToken now =>
    obtain ⟨rfl, rfl⟩ := hends
    simp only [exec, InMemoryMailboxStore.ack, asHolder_accepted hd hs ht he, markAcked_eq hw hs]
    exact hput _ ⟨rfl, hr⟩
  | deadLetter id claimToken error now =>
    obtain ⟨rfl, rfl⟩ := hends
    simp only [exec, deadLetter, asHolder_accepted hd hs ht he, markDeadLetter_eq hw hs]
    exact hput _ ⟨rfl, hr⟩
  | nack id claimToken retryAt error now =>
    obtain ⟨rfl, rfl, hl⟩ := hends
    simp only [exec, nack, asHolder_accepted hd hs ht he, markNackResult_snd hs,
      RunDispatch.nacked_last hl]
    exact hput _ ⟨rfl, hr⟩
  | _ => exact hends.elim

lemma endsRunning_reorders {t : InMemoryMailboxStore} (h : s.Reorders t) (he : EndsRunning s op) :
    EndsRunning t op := by
  obtain ⟨k, d, token, hd, ht, hep, hr⟩ := he
  exact ⟨k, d, token, (h.get k).trans hd, ht, (h.epoch _).symm ▸ hep, hr⟩

/-- No state of a run holds a ghost run exactly when in none of its calls a holder ends a dispatch
that is still recorded as Running. -/
theorem no_ghost_runs {tr : List (Transition InMemoryMailboxStore Call)} (hr : Run Step new tr s) :
    (∀ τ ∈ tr, NoGhostRuns τ.post) ↔ ∀ τ ∈ tr, ¬ EndsRunning τ.pre τ.label.op := by
  constructor
  · intro hn τ hτ he
    have hi := inv_reachable (hr.reachable_of_mem hτ)
    obtain ⟨t, ht, hs⟩ := hr.step_of_mem hτ
    have hg := ghost_exec (hi.reorders ht) (endsRunning_reorders ht he)
    rw [hs] at hg
    exact hg (hn τ hτ)
  · intro hc τ hτ
    have hinv := hr.invariant (I := fun s => Inv s ∧ NoGhostRuns s)
      (fun τ he hc ⟨hi, hn⟩ => ⟨hi.step he, noGhostRuns_step hi he hc hn⟩) hc
      ⟨inv_new, fun _ _ h => nomatch h⟩
    exact (hinv.2 τ hτ).2.2

def ackRunningOps : List MailboxOp :=
  [.enqueue (.queued "d" "t" "r" 0), .claim "t" "c" 10 0 1 "token",
    .recordDispatchStart "d" "token" "i" 1, .ack "d" "token" 2]

theorem no_ghost_runs_ackRunning :
    (∀ τ ∈ callTrace new ackRunningOps, NoGhostRuns τ.post) ↔
      ∀ τ ∈ callTrace new ackRunningOps, ¬ EndsRunning τ.pre τ.label.op :=
  no_ghost_runs (run_callTrace new ackRunningOps)

theorem acked_dispatch_running : ¬ ∀ s, Reachable Step new s → NoGhostRuns s := by
  intro h
  have hd : (execAll new ackRunningOps).get "d" =
      some ((((RunDispatch.queued "d" "t" "r" 0).claimedFor "c" "token" 10 0).started "i" 1).acked 2) := by
    decide
  exact h _ (reachable_execAll ackRunningOps) _ _ hd ⟨rfl, rfl⟩

end Awaken.Stores.MemoryMailbox
