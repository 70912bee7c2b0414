import Awaken.Stores.MemoryStore.RunTable
import Awaken.Server.Mailbox.Calls

namespace Awaken.Server.Mailbox

open Awaken.Lib Awaken.Contract Awaken.Contract.Storage Awaken.Contract.Lifecycle
open Awaken.Contract.Mailbox Awaken.LoopRunner Awaken.Stores.MemoryStore
open Awaken.Stores.MemoryStore.InMemoryStore

variable {J C : Type}

section World

structure MailboxWorld (J C : Type) where
  store : InMemoryStore J C
  calls : List (CallPhase J C)

def MailboxWorld.start : MailboxWorld J C := ⟨.new, []⟩

inductive WorldLabel (J C : Type) where
  | prepare (call : PrepareCall J C)
  | mark (mark : TerminalMark)
  | advance (index : Nat) (env : Env J C)
  | others (call : StoreCall J C)

variable (hasPendingStore : Bool) (message : String → J) [DecidableEq J]

/-- Others call the store in between, above all the loop of the run with its checkpoints. -/
inductive WorldStep : MailboxWorld J C → WorldLabel J C → MailboxWorld J C → Prop
  | prepare {w : MailboxWorld J C} (call : PrepareCall J C) :
      WorldStep w (.prepare call) { w with calls := w.calls ++ [.routing call] }
  | mark {w : MailboxWorld J C} (mark : TerminalMark) :
      WorldStep w (.mark mark) { w with calls := w.calls ++ [.marking mark] }
  | advance {w : MailboxWorld J C} {index : Nat} {phase phase' : CallPhase J C} {env : Env J C}
      {store : InMemoryStore J C} :
      w.calls[index]? = some phase →
      phase.advance hasPendingStore message env w.store = (store, phase') →
      WorldStep w (.advance index env) ⟨store, w.calls.set index phase'⟩
  | others {w : MailboxWorld J C} {call : StoreCall J C} {store : InMemoryStore J C} :
      StoreStep w.store call store → WorldStep w (.others call) { w with store := store }

end World

section Property

def Finished (store : InMemoryStore J C) (runId : String) : Prop :=
  ∃ run, store.loadRun runId = some run ∧ run.status = .done

/-- A step of a call of the mailbox leaves the record of every finished run as it is. -/
def KeepsFinished (τ : Transition (MailboxWorld J C) (WorldLabel J C)) : Prop :=
  ∀ index env, τ.label = .advance index env → ∀ runId, Finished τ.pre.store runId →
    τ.post.store.loadRun runId = τ.pre.store.loadRun runId

def CallPhase.holds (phase : CallPhase J C) (runId : String) : Prop :=
  ∃ record, phase.copy = some record ∧ record.runId = runId

/-- The condition on a transition: where it finishes a run, no other call holds a copy of its
record. -/
def FinishesAlone (τ : Transition (MailboxWorld J C) (WorldLabel J C)) : Prop :=
  ∀ runId, ¬ Finished τ.pre.store runId → Finished τ.post.store runId →
    ∀ (index : Nat) (phase : CallPhase J C), τ.pre.calls[index]? = some phase →
      phase.holds runId → ∃ env, τ.label = .advance index env

end Property

section Advance

variable {store store' : InMemoryStore J C} {phase phase' : CallPhase J C} {env : Env J C}
  {hasPendingStore : Bool} {message : String → J}

structure SameRun (copy record : RunRecord J) : Prop where
  runId : record.runId = copy.runId
  threadId : record.threadId = copy.threadId
  status : record.status = copy.status
  dispatchId : record.dispatchId = copy.dispatchId

lemma FreezeJob.same (job : FreezeJob J C) (plan : FreezePlan) :
    SameRun job.record (job.attemptRecord plan) := ⟨rfl, rfl, rfl, rfl⟩

lemma AppendJob.same (job : AppendJob J C) (now committedLength : Nat) :
    SameRun job.record (job.attemptRecord now committedLength) := by
  unfold AppendJob.attemptRecord
  split <;> exact ⟨rfl, rfl, rfl, rfl⟩

variable [DecidableEq J]

inductive TakesCopy (env : Env J C) (store : InMemoryStore J C) (message : String → J) :
    CallPhase J C → RunRecord J → Prop
  | prepared {call : PreparedCall J C} {request : RunActivation J C} {record : RunRecord J}
      {resolutionId : String} :
      call.template env (store.loadRun call.runId) = .ok (request, record, resolutionId) →
      TakesCopy env store message (.loading call) record
  | marked {mark : TerminalMark} {run : RunRecord J} :
      store.loadRun mark.dispatch.runId = some run → mark.skips run = false →
      TakesCopy env store message (.marking mark) (mark.ended message env.now run)

lemma runs_commitCheckpoint {now : Nat} {plan : ThreadCommit J C}
    {result : Except CommitError Unit} (h : commitCheckpoint store now plan = (result, store')) :
    (result = .ok () → store'.runs = store.runs.insert plan.runProjection.runId plan.runProjection) ∧
      ∀ e, result = .error e → store'.runs = store.runs := by
  unfold commitCheckpoint at h
  split at h
  · obtain ⟨rfl, rfl⟩ := Prod.mk.inj h
    exact ⟨(fun hok => by cases hok), fun _ _ => rfl⟩
  · have hstores := storesRun_checkpointAppend store now plan.threadId plan.messageDelta
      plan.expectedMessageCount plan.runProjection
    split at h
    · rename_i happend
      obtain ⟨rfl, rfl⟩ := Prod.mk.inj h
      rw [happend] at hstores
      exact ⟨(fun hok => by cases hok), fun _ _ => hstores.2 _ rfl⟩
    · rename_i happend
      obtain ⟨rfl, rfl⟩ := Prod.mk.inj h
      rw [happend] at hstores
      exact ⟨fun _ => hstores.1 _ rfl, fun _ herror => by cases herror⟩

lemma FreezeJob.storesRun (job : FreezeJob J C) (store : InMemoryStore J C) (gen : Nat → String)
    (now : Nat) (plan : FreezePlan) :
    store.StoresRun (job.attemptRecord plan) (job.commit store gen now plan) := by
  unfold FreezeJob.commit
  split
  · exact storesRun_appendAndFreeze store gen now _ _ _ _ _ _ _
  · exact storesRun_freezeWithRun store gen now _ _ _ _ _

omit [DecidableEq J] in
lemma copy_prepareRun (call : PreparedCall J C) (request : RunActivation J C)
    (record : RunRecord J) (resolutionId : String) :
    (CallPhase.prepareRun hasPendingStore call request record resolutionId).copy = some record := by
  unfold CallPhase.prepareRun
  dsimp only
  split <;> rfl

theorem advance_cases
    (h : phase.advance hasPendingStore message env store = (store', phase')) :
    (store'.runs = store.runs ∧ ∀ record, phase'.copy = some record →
        phase.copy = some record ∨ TakesCopy env store message phase record) ∨
      ∃ copy record, phase.copy = some copy ∧ SameRun copy record ∧
        store'.runs = store.runs.insert record.runId record ∧ phase'.copy = none := by
  have quiet : ∀ next : CallPhase J C, (store, next) = (store', phase') → next.copy = none →
      store'.runs = store.runs ∧ ∀ record, phase'.copy = some record →
        phase.copy = some record ∨ TakesCopy env store message phase record := by
    intro next heq hcopy
    obtain ⟨rfl, rfl⟩ := Prod.mk.inj heq
    exact ⟨rfl, fun record hrecord => by rw [hcopy] at hrecord; cases hrecord⟩
  cases phase with
  | routing call =>
    rw [CallPhase.advance] at h
    split at h
    · exact .inl (quiet _ h rfl)
    · split at h
      · exact .inl (quiet _ h rfl)
      · exact .inl (quiet _ h rfl)
  | opening call openRunId =>
    rw [CallPhase.advance] at h
    split at h
    · split at h
      · exact .inl (quiet _ h rfl)
      · exact .inl (quiet _ h rfl)
    · exact .inl (quiet _ h rfl)
  | reusing call =>
    rw [CallPhase.advance] at h
    split at h
    · split at h
      · exact .inl (quiet _ h rfl)
      · exact .inl (quiet _ h rfl)
    · exact .inl (quiet _ h rfl)
  | preceding call =>
    rw [CallPhase.advance] at h
    exact .inl (quiet _ h rfl)
  | loading call =>
    rw [CallPhase.advance] at h
    split at h
    · exact .inl (quiet _ h rfl)
    · rename_i htemplate
      obtain ⟨rfl, rfl⟩ := Prod.mk.inj h
      refine .inl ⟨rfl, fun record hrecord => .inr ?_⟩
      rw [copy_prepareRun] at hrecord
      obtain rfl := Option.some.inj hrecord
      exact .prepared htemplate
  | marking mark =>
    rw [CallPhase.advance] at h
    split at h
    · exact .inl (quiet _ h rfl)
    · rename_i hload
      split at h
      · exact .inl (quiet _ h rfl)
      · rename_i hskips
        obtain ⟨rfl, rfl⟩ := Prod.mk.inj h
        refine .inl ⟨rfl, fun record hrecord => .inr ?_⟩
        obtain rfl := Option.some.inj hrecord
        exact .marked hload (Bool.not_eq_true _ ▸ hskips)
  | freezing attempts job result =>
    cases attempts with
    | zero =>
      rw [CallPhase.advance] at h
      exact .inl (quiet _ h rfl)
    | succ attempts =>
      rw [CallPhase.advance] at h
      split at h
      · exact .inl (quiet _ h rfl)
      · obtain ⟨rfl, rfl⟩ := Prod.mk.inj h
        exact .inl ⟨rfl, fun record hrecord => .inl hrecord⟩
  | selecting attempts job result committed =>
    rw [CallPhase.advance] at h
    split at h
    · exact .inl (quiet _ h rfl)
    · split at h
      · exact .inl (quiet _ h rfl)
      · exact .inl (quiet _ h rfl)
      · obtain ⟨rfl, rfl⟩ := Prod.mk.inj h
        exact .inl ⟨rfl, fun record hrecord => .inl hrecord⟩
  | consuming attempts job result plan =>
    rw [CallPhase.advance] at h
    have hstores := job.storesRun store env.gen env.now plan
    split at h
    · rename_i hcommit
      obtain ⟨rfl, rfl⟩ := Prod.mk.inj h
      rw [hcommit] at hstores
      exact .inr ⟨_, _, rfl, job.same plan, hstores.1 _ rfl, rfl⟩
    · rename_i hcommit
      rw [hcommit] at hstores
      have hruns := hstores.2 _ rfl
      split at h
      · obtain ⟨rfl, rfl⟩ := Prod.mk.inj h
        exact .inl ⟨hruns, fun record hrecord => .inl hrecord⟩
      · obtain ⟨rfl, rfl⟩ := Prod.mk.inj h
        exact .inl ⟨hruns, fun record hrecord => by cases hrecord⟩
  | appending attempts job =>
    cases attempts with
    | zero =>
      rw [CallPhase.advance] at h
      exact .inl (quiet _ h rfl)
    | succ attempts =>
      rw [CallPhase.advance] at h
      split at h
      · exact .inl (quiet _ h rfl)
      · obtain ⟨rfl, rfl⟩ := Prod.mk.inj h
        exact .inl ⟨rfl, fun record hrecord => .inl hrecord⟩
  | committing attempts job committed =>
    rw [CallPhase.advance] at h
    split at h
    · rename_i hcommit
      obtain ⟨rfl, rfl⟩ := Prod.mk.inj h
      exact .inr ⟨_, _, rfl, job.same env.now committed.length, (runs_commitCheckpoint hcommit).1 rfl, rfl⟩
    · rename_i hcommit
      have hruns := (runs_commitCheckpoint hcommit).2 _ rfl
      split at h
      · obtain ⟨rfl, rfl⟩ := Prod.mk.inj h
        exact .inl ⟨hruns, fun record hrecord => .inl hrecord⟩
      · obtain ⟨rfl, rfl⟩ := Prod.mk.inj h
        exact .inl ⟨hruns, fun record hrecord => by cases hrecord⟩
  | returned result =>
    rw [CallPhase.advance] at h
    exact .inl (quiet _ h rfl)

omit [DecidableEq J] in
lemma isResumableWaiting_status {run : RunRecord J} (h : run.isResumableWaiting = true) :
    run.status = .waiting := by
  unfold RunRecord.isResumableWaiting RunRecord.waitingReason at h
  split at h
  · cases h
  · rename_i hstatus
    exact not_not.mp hstatus

omit [DecidableEq J] in
lemma template_cases {call : PreparedCall J C} {existing : Option (RunRecord J)}
    {request : RunActivation J C} {record : RunRecord J} {resolutionId : String}
    (h : call.template env existing = .ok (request, record, resolutionId)) :
    record.dispatchId = some call.dispatchId ∧ record.threadId = call.threadId ∧
      ((existing = none ∧ record.runId = call.runId ∧ record.status = .created) ∨
        ∃ run, existing = some run ∧ record.runId = run.runId ∧ record.status = run.status ∧
          (run.status = .created ∨ run.status = .waiting)) := by
  cases existing with
  | none =>
    obtain ⟨_, _, hrecord⟩ := bind_eq_ok h
    obtain ⟨-, rfl, -⟩ := Prod.mk.inj (Except.ok.inj hrecord)
    exact ⟨rfl, rfl, .inl ⟨rfl, rfl, rfl⟩⟩
  | some run =>
    rw [PreparedCall.template, PreparedCall.reopen] at h
    split at h
    · cases h
    · rename_i hthread
      split at h
      · cases h
      · rename_i hopen
        obtain ⟨_, _, hrecord⟩ := bind_eq_ok h
        obtain ⟨-, rfl, -⟩ := Prod.mk.inj (Except.ok.inj hrecord)
        refine ⟨rfl, not_not.mp hthread, .inr ⟨run, rfl, rfl, rfl, ?_⟩⟩
        by_cases hcreated : run.status = .created
        · exact .inl hcreated
        · cases hwaiting : run.isResumableWaiting with
          | true => exact .inr (isResumableWaiting_status hwaiting)
          | false => simp [hcreated, hwaiting] at hopen

omit [DecidableEq J] in
lemma TakesCopy.not_finished {record : RunRecord J} (hkeyed : store.RunsKeyed)
    (h : TakesCopy env store message phase record) : ¬ Finished store record.runId := by
  rintro ⟨run, hload, hdone⟩
  cases h with
  | prepared htemplate =>
    obtain ⟨-, -, ⟨hnone, hid, -⟩ | ⟨existing, hexisting, hid, -, hopen⟩⟩ := template_cases htemplate
    · rw [hid, hnone] at hload
      cases hload
    · rw [hid, hkeyed _ _ hexisting, hexisting] at hload
      rw [← Option.some.inj hload] at hdone
      rw [hdone] at hopen
      rcases hopen with hopen | hopen <;> cases hopen
  | @marked mark existing hexisting hskips =>
    change store.loadRun existing.runId = some run at hload
    rw [hkeyed _ _ hexisting, hexisting] at hload
    rw [← Option.some.inj hload] at hdone
    simp [TerminalMark.skips, hdone] at hskips

end Advance

section Run

variable {hasPendingStore : Bool} {message : String → J}

/-- No call holds a copy of the record of a run that is finished. -/
structure MailboxWorld.Fresh (w : MailboxWorld J C) : Prop where
  keyed : w.store.RunsKeyed
  copies : ∀ phase ∈ w.calls, ∀ runId, phase.holds runId → ¬ Finished w.store runId

lemma fresh_start : (MailboxWorld.start : MailboxWorld J C).Fresh where
  keyed _ _ h := by cases h
  copies _ h := by cases h

lemma finished_congr {store store' : InMemoryStore J C} (h : store'.runs = store.runs)
    {runId : String} : Finished store' runId ↔ Finished store runId := by
  rw [Finished, Finished, loadRun, loadRun, h]

variable [DecidableEq J]

lemma keyed_step {w w' : MailboxWorld J C} {l : WorldLabel J C}
    (h : WorldStep hasPendingStore message w l w') (hw : w.store.RunsKeyed) :
    w'.store.RunsKeyed := by
  cases h with
  | prepare call => exact hw
  | mark mark => exact hw
  | advance hphase hadvance =>
    obtain ⟨hruns, -⟩ | ⟨copy, record, -, -, hruns, -⟩ := advance_cases hadvance
    · exact hw.change (.inl hruns)
    · exact hw.change (.inr ⟨record, hruns⟩)
  | others hcall => exact hw.change (runsChange_step hcall)

lemma holds_step {w w' : MailboxWorld J C} {l : WorldLabel J C}
    (h : WorldStep hasPendingStore message w l w') (hw : w.Fresh) {phase : CallPhase J C}
    (hmem : phase ∈ w'.calls) {runId : String} (hholds : phase.holds runId) :
    ¬ Finished w.store runId ∧ (Finished w'.store runId →
      ∃ (index : Nat) (before : CallPhase J C), w.calls[index]? = some before ∧
        before.holds runId ∧ ∀ env, l ≠ .advance index env) := by
  have hsame : phase ∈ w.calls → (∀ index env, l ≠ .advance index env) →
      ¬ Finished w.store runId ∧ (Finished w'.store runId →
        ∃ (index : Nat) (before : CallPhase J C), w.calls[index]? = some before ∧
          before.holds runId ∧ ∀ env, l ≠ .advance index env) := by
    intro hin hlabel
    obtain ⟨index, hindex⟩ := List.mem_iff_getElem?.mp hin
    exact ⟨hw.copies phase hin runId hholds,
      fun _ => ⟨index, phase, hindex, hholds, fun env => hlabel index env⟩⟩
  cases h with
  | prepare call =>
    rcases List.mem_append.mp hmem with hin | hnew
    · exact hsame hin fun _ _ hl => by cases hl
    · obtain rfl := List.mem_singleton.mp hnew
      obtain ⟨_, hcopy, -⟩ := hholds
      cases hcopy
  | mark mark =>
    rcases List.mem_append.mp hmem with hin | hnew
    · exact hsame hin fun _ _ hl => by cases hl
    · obtain rfl := List.mem_singleton.mp hnew
      obtain ⟨_, hcopy, -⟩ := hholds
      cases hcopy
  | others hcall => exact hsame hmem fun _ _ hl => by cases hl
  | @advance acting before after env store hphase hadvance =>
    obtain ⟨index, hindex⟩ := List.mem_iff_getElem?.mp hmem
    by_cases hacting : index = acting
    · -- the call that took the step holds a copy still, so it has stored nothing
      rw [hacting, List.getElem?_set_self (List.getElem?_eq_some_iff.mp hphase).1] at hindex
      obtain rfl := Option.some.inj hindex
      obtain ⟨record, hcopy, hid⟩ := hholds
      obtain ⟨hruns, htakes⟩ | ⟨_, _, -, -, -, hnone⟩ := advance_cases hadvance
      · have hopen : ¬ Finished w.store runId := by
          rcases htakes record hcopy with hkept | htaken
          · exact hw.copies before (List.mem_of_getElem? hphase) runId ⟨record, hkept, hid⟩
          · rw [← hid]
            exact htaken.not_finished hw.keyed
        exact ⟨hopen, fun hfinished => absurd ((finished_congr hruns).mp hfinished) hopen⟩
      · rw [hnone] at hcopy
        cases hcopy
    · rw [List.getElem?_set_ne (Ne.symm hacting)] at hindex
      refine ⟨hw.copies phase (List.mem_of_getElem? hindex) runId hholds,
        fun _ => ⟨index, phase, hindex, hholds, fun env hl => ?_⟩⟩
      cases hl
      exact hacting rfl

lemma fresh_step {τ : Transition (MailboxWorld J C) (WorldLabel J C)}
    (h : WorldStep hasPendingStore message τ.pre τ.label τ.post) (halone : FinishesAlone τ)
    (hw : τ.pre.Fresh) : τ.post.Fresh := by
  refine ⟨keyed_step h hw.keyed, fun phase hmem runId hholds hfinished => ?_⟩
  obtain ⟨hopen, hother⟩ := holds_step h hw hmem hholds
  obtain ⟨index, before, hindex, hbefore, hlabel⟩ := hother hfinished
  obtain ⟨env, hacts⟩ := halone runId hopen hfinished index before hindex hbefore
  exact hlabel env hacts

lemma keepsFinished_step {τ : Transition (MailboxWorld J C) (WorldLabel J C)}
    (h : WorldStep hasPendingStore message τ.pre τ.label τ.post) (hw : τ.pre.Fresh) :
    KeepsFinished τ := by
  intro index env hlabel runId hfinished
  obtain ⟨w, l, w'⟩ := τ
  obtain rfl : l = .advance index env := hlabel
  change WorldStep hasPendingStore message w (.advance index env) w' at h
  change Finished w.store runId at hfinished
  change w.Fresh at hw
  cases h with
  | advance hphase hadvance =>
    rw [loadRun, loadRun]
    obtain ⟨hruns, -⟩ | ⟨copy, record, hcopy, hsame, hruns, -⟩ := advance_cases hadvance
    · exact congrArg (·.get runId) hruns
    · have hopen := hw.copies _ (List.mem_of_getElem? hphase) copy.runId ⟨copy, hcopy, rfl⟩
      have hne : runId ≠ record.runId := by
        rintro rfl
        rw [hsame.runId] at hfinished
        exact hopen hfinished
      change Table.get _ runId = _
      rw [hruns, Table.get_insert, if_neg hne]

/-- Where a run is only finished while no other call of the mailbox holds a copy of its record, no
call of the mailbox changes the record of a finished run. -/
theorem finished_runs_kept {tr : List (Transition (MailboxWorld J C) (WorldLabel J C))}
    {w : MailboxWorld J C} (h : Run (WorldStep hasPendingStore message) .start tr w)
    (halone : ∀ τ ∈ tr, FinishesAlone τ) : ∀ τ ∈ tr, KeepsFinished τ := by
  intro τ hτ
  have hinv := (h.invariant (fun _ hstep hcond hw => fresh_step hstep hcond hw) halone fresh_start).2
  exact keepsFinished_step (h.step_of_mem hτ) (hinv τ hτ).1

end Run

section Overwritten

def sampleEnv : Env Unit Unit :=
  ⟨0, fun _ => "", "new-thread", "new-run", "new-dispatch", fun _ _ => .ok "resolution"⟩

def sampleRun : RunRecord Unit :=
  { RunRecord.default with runId := "run", threadId := "thread", agentId := "agent" }

/-- The loop of the run checkpoints it on its own. -/
def checkpointCall (messages : List (Message Unit Unit)) (run : RunRecord Unit) :
    StoreCall Unit Unit :=
  .checkpointAppend "thread" messages (some 0) run

def MailboxWorld.checkpoint (w : MailboxWorld Unit Unit) (messages : List (Message Unit Unit))
    (run : RunRecord Unit) : MailboxWorld Unit Unit :=
  { w with store := (w.store.exec ⟨0, fun _ => ""⟩ (checkpointCall messages run)).2 }

def MailboxWorld.advanceFirst (w : MailboxWorld Unit Unit) : MailboxWorld Unit Unit :=
  match w.calls with
  | [] => w
  | phase :: calls =>
    let (store, phase) := phase.advance true (fun _ => ()) sampleEnv w.store
    ⟨store, phase :: calls⟩

lemma step_checkpoint (w : MailboxWorld Unit Unit) (messages : List (Message Unit Unit))
    (run : RunRecord Unit) :
    WorldStep true (fun _ => ()) w (.others (checkpointCall messages run)) (w.checkpoint messages run) :=
  .others ⟨_, rfl⟩

lemma step_advanceFirst {w : MailboxWorld Unit Unit} {phase : CallPhase Unit Unit}
    (h : w.calls = [phase]) :
    WorldStep true (fun _ => ()) w (.advance 0 sampleEnv) w.advanceFirst := by
  have hadvance : w.advanceFirst =
      ⟨(phase.advance true (fun _ => ()) sampleEnv w.store).1,
        w.calls.set 0 (phase.advance true (fun _ => ()) sampleEnv w.store).2⟩ := by
    rw [MailboxWorld.advanceFirst, h]
    rfl
  rw [hadvance]
  exact .advance (by rw [h]; rfl) rfl

def sampleMark : TerminalMark := .cancelled (.queued "dispatch" "thread" "run" 0)

def markedWorld : MailboxWorld Unit Unit :=
  { MailboxWorld.start.checkpoint [] sampleRun with calls := [.marking sampleMark] }.advanceFirst

lemma run_marked :
    Run (WorldStep true fun _ => ()) .start
      [⟨.start, .others (checkpointCall [] sampleRun), MailboxWorld.start.checkpoint [] sampleRun⟩,
        ⟨MailboxWorld.start.checkpoint [] sampleRun, .mark sampleMark,
          { MailboxWorld.start.checkpoint [] sampleRun with calls := [.marking sampleMark] }⟩,
        ⟨{ MailboxWorld.start.checkpoint [] sampleRun with calls := [.marking sampleMark] },
          .advance 0 sampleEnv, markedWorld⟩] markedWorld :=
  .cons (step_checkpoint _ [] sampleRun) (.cons (.mark sampleMark) (.single (step_advanceFirst rfl)))

lemma finishesAlone_of_runs {τ : Transition (MailboxWorld J C) (WorldLabel J C)}
    (h : τ.post.store.runs = τ.pre.store.runs) : FinishesAlone τ :=
  fun _ hopen hfinished => absurd ((finished_congr h).mp hfinished) hopen

lemma finishesAlone_of_single {τ : Transition (MailboxWorld J C) (WorldLabel J C)}
    {phase : CallPhase J C} {env : Env J C} (h : τ.pre.calls = [phase])
    (hlabel : τ.label = .advance 0 env) : FinishesAlone τ := by
  intro runId _ _ index before hindex _
  rw [h] at hindex
  cases index with
  | zero => exact ⟨env, hlabel⟩
  | succ index => cases hindex

theorem finished_runs_kept_cancelled :
    ∃ (tr : List (Transition (MailboxWorld Unit Unit) (WorldLabel Unit Unit)))
      (w : MailboxWorld Unit Unit), Run (WorldStep true fun _ => ()) .start tr w ∧
        Finished w.store "run" ∧ ∀ τ ∈ tr, KeepsFinished τ := by
  have hrun := run_marked.append (.cons (step_advanceFirst rfl) (.single (step_advanceFirst rfl)))
  refine ⟨_, _, hrun, ⟨_, rfl, rfl⟩, finished_runs_kept hrun ?_⟩
  intro τ hτ
  simp only [List.cons_append, List.nil_append, List.mem_cons, List.not_mem_nil, or_false] at hτ
  obtain rfl | rfl | rfl | rfl | rfl := hτ
  · exact fun _ _ _ _ _ hindex => by cases hindex
  · exact finishesAlone_of_runs rfl
  · exact finishesAlone_of_runs rfl
  · exact finishesAlone_of_runs rfl
  · exact finishesAlone_of_single rfl rfl

def answer : Message Unit Unit := ⟨some "answer", .assistant, [], none, none, .all, none⟩

def finishedRun : RunRecord Unit :=
  { sampleRun with
    output := some ⟨"thread", some ⟨1, 1⟩, ["answer"]⟩
    status := .done
    terminationReason := some .naturalEnd
    finishedAt := some 0
    outputTokens := 7 }

theorem finished_run_overwritten :
    ¬ ∀ (tr : List (Transition (MailboxWorld Unit Unit) (WorldLabel Unit Unit)))
      (w : MailboxWorld Unit Unit), Run (WorldStep true fun _ => ()) .start tr w →
        ∀ τ ∈ tr, KeepsFinished τ := by
  intro h
  have hrun := run_marked.append (.cons (step_checkpoint _ [answer] finishedRun)
    (.cons (step_advanceFirst rfl) (.single (step_advanceFirst rfl))))
  have hkeeps := h _ _ hrun _ (List.mem_append_right _ (List.mem_cons_of_mem _
    (List.mem_cons_of_mem _ List.mem_cons_self)))
  have hsame := hkeeps 0 sampleEnv rfl "run" ⟨finishedRun, rfl, rfl⟩
  cases congrArg (Option.map (·.outputTokens)) hsame

end Overwritten

end Awaken.Server.Mailbox
