import Awaken.Engine.Partition
import Awaken.Engine.Submission

namespace Awaken.Engine

open Awaken.State PhaseRuntime

variable {J κ : Type} {keys : RuntimeKeys J κ}

section Results

variable {ε α β : Type}

lemma mapM_cons_ok {f : α → Except ε β} {x : α} {xs : List α} {ys : List β}
    (h : (x :: xs).mapM f = .ok ys) :
    ∃ y ys', f x = .ok y ∧ xs.mapM f = .ok ys' ∧ ys = y :: ys' := by
  rw [List.mapM_cons] at h
  cases hx : f x with
  | error e =>
    rw [hx] at h
    exact nomatch h
  | ok y =>
    rw [hx] at h
    cases hxs : xs.mapM f with
    | error e =>
      rw [hxs] at h
      exact nomatch h
    | ok ys' =>
      rw [hxs] at h
      exact ⟨y, ys', rfl, rfl, (Except.ok.inj h).symm⟩

lemma mapM_paired {g : α → Except ε β} {xs : List α} {ys : List (α × β)}
    (h : xs.mapM (fun x => do let y ← g x; return (x, y)) = .ok ys) :
    ys.map (·.1) = xs ∧ ∀ p ∈ ys, g p.1 = .ok p.2 := by
  induction xs generalizing ys with
  | nil =>
    obtain rfl : [] = ys := Except.ok.inj h
    exact ⟨rfl, by simp⟩
  | cons x xs ih =>
    obtain ⟨p, ps, hp, hps, rfl⟩ := mapM_cons_ok h
    obtain ⟨hfst, hall⟩ := ih hps
    cases hg : g x with
    | error e =>
      rw [hg] at hp
      exact nomatch hp
    | ok y =>
      rw [hg] at hp
      obtain rfl : (x, y) = p := Except.ok.inj hp
      exact ⟨by rw [List.map_cons, hfst], List.forall_mem_cons.mpr ⟨hg, hall⟩⟩

end Results

section FirstRun

variable {K : κ → StateKey J} {hooks : List (TaggedPhaseHook K)} {ctx : PhaseContext K}
  {snapshot : Snapshot K} {first : List (Fin hooks.length × StateCommand K)}

lemma runHooksIndexed_ok (h : runHooksIndexed hooks ctx snapshot = .ok first) :
    ∃ results : List (Fin hooks.length × StateCommand K),
      first = results.filter (fun result => !result.2.isEmpty) ∧
      results.map (·.1) = List.finRange hooks.length ∧
      ∀ p ∈ results, runHook (hooks.get p.1) ctx snapshot = .ok p.2 := by
  unfold runHooksIndexed at h
  cases hm : (List.finRange hooks.length).mapM (fun i => do
      let cmd ← runHook (hooks.get i) ctx snapshot
      return (i, cmd)) with
  | error e =>
    rw [hm] at h
    exact nomatch h
  | ok results =>
    rw [hm] at h
    obtain ⟨hfst, hall⟩ := mapM_paired hm
    exact ⟨results, (Except.ok.inj h).symm, hfst, hall⟩

lemma mem_firstRun (h : runHooksIndexed hooks ctx snapshot = .ok first)
    (i : Fin hooks.length) (c : StateCommand K) :
    (i, c) ∈ first ↔ runHook (hooks.get i) ctx snapshot = .ok c ∧ c.isEmpty = false := by
  obtain ⟨results, rfl, hfst, hall⟩ := runHooksIndexed_ok h
  rw [List.mem_filter, Bool.not_eq_true']
  refine and_congr_left (fun _ => ⟨fun hm => hall _ hm, fun hr => ?_⟩)
  have hi : i ∈ results.map (·.1) := by
    rw [hfst]
    exact List.mem_finRange i
  obtain ⟨p, hp, rfl⟩ := List.mem_map.mp hi
  obtain rfl : p.2 = c := Except.ok.inj ((hall p hp).symm.trans hr)
  exact hp

lemma firstRun_nodup (h : runHooksIndexed hooks ctx snapshot = .ok first) :
    (first.map (·.1)).Nodup := by
  obtain ⟨results, rfl, hfst, -⟩ := runHooksIndexed_ok h
  have hn : (results.map (·.1)).Nodup := hfst ▸ List.nodup_finRange _
  exact hn.sublist (List.filter_sublist.map _)

end FirstRun

variable [DecidableEq κ]

def PhaseRuntime.committed (self : PhaseRuntime keys) (command : StateCommand keys.key) :
    PhaseRuntime keys :=
  if command.isEmpty then self else self.submitted command

/-- The submission of a command that is not empty succeeds. -/
def PhaseRuntime.Accepts (self : PhaseRuntime keys) (env : ExecutionEnv keys.key)
    (command : StateCommand keys.key) : Prop :=
  command.isEmpty = false → ∃ report,
    self.submitCommandInner env command = (.ok report, self.submitted command)

def PhaseRuntime.Refuses (self : PhaseRuntime keys) (env : ExecutionEnv keys.key)
    (command : StateCommand keys.key) (e : StateError) : Prop :=
  command.isEmpty = false ∧ ∃ self', self.submitCommandInner env command = (.error e, self') ∧
    self'.store = self.store

inductive SerialRun (env : ExecutionEnv keys.key) (hooks : List (TaggedPhaseHook keys.key))
    (ctx : PhaseContext keys.key) :
    PhaseRuntime keys → List (Fin hooks.length) → PhaseRuntime keys → Prop
  | done (rt : PhaseRuntime keys) : SerialRun env hooks ctx rt [] rt
  | next {rt rt' : PhaseRuntime keys} {i : Fin hooks.length} {indices : List (Fin hooks.length)}
      {cmd : StateCommand keys.key} :
      runHook (hooks.get i) ctx rt.store.snapshot = .ok cmd → rt.Accepts env cmd →
      SerialRun env hooks ctx (rt.committed cmd) indices rt' →
      SerialRun env hooks ctx rt (i :: indices) rt'

def HookFails (env : ExecutionEnv keys.key) (hooks : List (TaggedPhaseHook keys.key))
    (ctx : PhaseContext keys.key) (rt : PhaseRuntime keys) (i : Fin hooks.length)
    (e : StateError) : Prop :=
  runHook (hooks.get i) ctx rt.store.snapshot = .error e ∨
    ∃ cmd, runHook (hooks.get i) ctx rt.store.snapshot = .ok cmd ∧ rt.Refuses env cmd e

section Commit

variable {rt rt' : PhaseRuntime keys} {env : ExecutionEnv keys.key}
  {hooks : List (TaggedPhaseHook keys.key)} {ctx : PhaseContext keys.key}

lemma submitNonEmpty_cases (rt : PhaseRuntime keys) (env : ExecutionEnv keys.key)
    (command : StateCommand keys.key) :
    (∃ effects, rt.submitNonEmpty env command = (.ok effects, rt.committed command) ∧
        rt.Accepts env command) ∨
      ∃ e rt', rt.submitNonEmpty env command = (.error e, rt') ∧ rt'.store = rt.store ∧
        rt.Refuses env command e := by
  unfold submitNonEmpty PhaseRuntime.committed
  cases hc : command.isEmpty with
  | true => exact .inl ⟨_, rfl, fun h => nomatch hc.symm.trans h⟩
  | false =>
    rcases rt.submitCommandInner_cases env command with ⟨report, h⟩ | ⟨e, nextId, h, -⟩
    · rw [h]
      exact .inl ⟨_, rfl, fun _ => ⟨report, h⟩⟩
    · rw [h]
      exact .inr ⟨e, _, rfl, rfl, hc, _, h, rfl⟩

lemma submitNonEmpty_accepted {command : StateCommand keys.key} (h : rt.Accepts env command) :
    ∃ effects, rt.submitNonEmpty env command = (.ok effects, rt.committed command) := by
  unfold submitNonEmpty PhaseRuntime.committed
  cases hc : command.isEmpty with
  | true => exact ⟨_, rfl⟩
  | false =>
    obtain ⟨report, hr⟩ := h hc
    rw [hr]
    exact ⟨_, rfl⟩

theorem rerunDeferred_cases (env : ExecutionEnv keys.key) (ctx : PhaseContext keys.key)
    (indices : List (Fin hooks.length)) (effects : HookEffects)
    (rt : PhaseRuntime keys) :
    (∃ total rt', rt.rerunDeferred env hooks ctx effects indices = (.ok total, rt') ∧
        SerialRun env hooks ctx rt indices rt') ∨
      ∃ e rt' done i later rt₁, rt.rerunDeferred env hooks ctx effects indices = (.error e, rt') ∧
        indices = done ++ i :: later ∧ SerialRun env hooks ctx rt done rt₁ ∧
        HookFails env hooks ctx rt₁ i e ∧ rt'.store = rt₁.store := by
  induction indices generalizing rt effects with
  | nil => exact .inl ⟨effects, rt, rfl, .done rt⟩
  | cons i indices ih =>
    unfold rerunDeferred
    cases hr : runHook (hooks.get i) ctx rt.store.snapshot with
    | error e => exact .inr ⟨e, rt, [], i, indices, rt, rfl, rfl, .done rt, .inl hr, rfl⟩
    | ok cmd =>
      dsimp only
      rcases submitNonEmpty_cases rt env cmd with ⟨more, h, ha⟩ | ⟨e, rt', h, hst, hf⟩
      · rw [h]
        rcases ih (effects.add more) (rt.committed cmd) with
          ⟨total, rt', hrun, hser⟩ | ⟨e, rt', done, j, later, rt₁, hrun, hsplit, hser, hf, hst⟩
        · exact .inl ⟨total, rt', hrun, .next hr ha hser⟩
        · exact .inr ⟨e, rt', i :: done, j, later, rt₁, hrun, by rw [hsplit, List.cons_append],
            .next hr ha hser, hf, hst⟩
      · rw [h]
        exact .inr ⟨e, rt', [], i, indices, rt, rfl, rfl, .done rt, .inr ⟨cmd, hr, hf⟩, hst⟩

lemma SerialRun.rerunDeferred {indices : List (Fin hooks.length)}
    (h : SerialRun env hooks ctx rt indices rt') (effects : HookEffects) :
    ∃ total, rt.rerunDeferred env hooks ctx effects indices = (.ok total, rt') := by
  induction h generalizing effects with
  | done rt => exact ⟨effects, rfl⟩
  | next hr ha _ ih =>
    obtain ⟨more, hs⟩ := submitNonEmpty_accepted ha
    unfold PhaseRuntime.rerunDeferred
    rw [hr]
    simp only [hs]
    exact ih _

end Commit

section Gather

variable {rt : PhaseRuntime keys} {env : ExecutionEnv keys.key} {ctx : PhaseContext keys.key}

lemma gather_eq_fallback (rt : PhaseRuntime keys)
    {first : List (Fin (filterHooks env ctx).length × StateCommand keys.key)}
    (h : runHooksIndexed (filterHooks env ctx) ctx rt.store.snapshot = .ok first) :
    rt.gatherAndCommitHooks env ctx =
      match rt.submitMerged env
          (partitionCommands first rt.store.registry.mergeStrategy).1 with
      | (.error e, rt') => (.error e, rt')
      | (.ok effects, rt') =>
        rt'.rerunDeferred env (filterHooks env ctx) ctx effects
          (partitionCommands first rt.store.registry.mergeStrategy).2 := by
  have hempty : first = [] → rt.gatherAndCommitHooks env ctx = (.ok .zero, rt) := by
    rintro rfl
    unfold gatherAndCommitHooks
    dsimp only
    rw [h]
    cases (filterHooks env ctx).isEmpty <;> rfl
  by_cases hf : first = []
  · rw [hempty hf, hf]
    rfl
  · have hhooks : (filterHooks env ctx).isEmpty = false := by
      rw [List.isEmpty_eq_false_iff]
      intro hnil
      obtain ⟨p, hp⟩ := List.exists_mem_of_ne_nil first hf
      have hlen : (filterHooks env ctx).length = 0 := congrArg List.length hnil
      have hlt := p.1.isLt
      omega
    have hfirst : first.isEmpty = false := List.isEmpty_eq_false_iff.mpr hf
    unfold gatherAndCommitHooks
    simp only [hhooks, h, hfirst, Bool.false_eq_true, if_false]
    cases ho : hasExclusiveKeyOverlap first rt.store.registry.mergeStrategy with
    | false =>
      have hall : partitionCommands first rt.store.registry.mergeStrategy =
          (first.map (·.2), []) :=
        partitionFrom_all (by simp) (pairwise_of_noOverlap ho)
      rw [hall]
      simp only [Bool.not_false, if_true]
      cases hs : rt.submitMerged env (first.map (·.2)) with
      | mk result rt' => cases result <;> rfl
    | true =>
      simp only [Bool.not_true, Bool.false_eq_true, if_false]
      cases hb : (partitionCommands first rt.store.registry.mergeStrategy).1 with
      | nil =>
        simp only [List.isEmpty_nil, if_true]
        rfl
      | cons c cs => rfl

lemma gather_firstRun_error {e : StateError}
    (h : runHooksIndexed (filterHooks env ctx) ctx rt.store.snapshot = .error e) :
    rt.gatherAndCommitHooks env ctx = (.error e, rt) := by
  unfold gatherAndCommitHooks
  dsimp only
  cases hh : (filterHooks env ctx).isEmpty with
  | true =>
    have hnil := List.isEmpty_iff.mp hh
    rw [hnil] at h
    cases h
  | false =>
    rw [h]
    rfl

omit [DecidableEq κ] in
lemma joins_of_merged {commands : List (StateCommand keys.key)} {merged : StateCommand keys.key}
    (h : rt.store.mergeAllCommands commands = .ok merged) : Joins commands merged :=
  (mergeAllCommands_ok.mp h).2 ▸ joins_foldl _

/-- How gathering ends: behind the last deferred hook, at the batch or at a deferred hook. -/
theorem gather_cases (rt : PhaseRuntime keys)
    {first batch : List (Fin (filterHooks env ctx).length × StateCommand keys.key)}
    {rest : List (Fin (filterHooks env ctx).length)}
    (h : runHooksIndexed (filterHooks env ctx) ctx rt.store.snapshot = .ok first)
    (hpart : partitionCommands first rt.store.registry.mergeStrategy = (batch.map (·.2), rest)) :
    (∃ effects rt' merged, rt.gatherAndCommitHooks env ctx = (.ok effects, rt') ∧
        rt.store.mergeAllCommands (batch.map (·.2)) = .ok merged ∧ rt.Accepts env merged ∧
        SerialRun env (filterHooks env ctx) ctx (rt.committed merged) rest rt') ∨
      (∃ e rt', rt.gatherAndCommitHooks env ctx = (.error e, rt') ∧
        (rt.store.mergeAllCommands (batch.map (·.2)) = .error e ∨
          ∃ merged, rt.store.mergeAllCommands (batch.map (·.2)) = .ok merged ∧
            rt.Refuses env merged e) ∧ rt'.store = rt.store) ∨
      ∃ e rt' merged, rt.gatherAndCommitHooks env ctx = (.error e, rt') ∧
        rt.store.mergeAllCommands (batch.map (·.2)) = .ok merged ∧ rt.Accepts env merged ∧
        ∃ done i later rt₁, rest = done ++ i :: later ∧
          SerialRun env (filterHooks env ctx) ctx (rt.committed merged) done rt₁ ∧
          HookFails env (filterHooks env ctx) ctx rt₁ i e ∧ rt'.store = rt₁.store := by
  rw [gather_eq_fallback rt h, hpart]
  unfold submitMerged
  cases hm : rt.store.mergeAllCommands (batch.map (·.2)) with
  | error e => exact .inr (.inl ⟨e, rt, rfl, .inl rfl, rfl⟩)
  | ok merged =>
    dsimp only
    rcases submitNonEmpty_cases rt env merged with ⟨effects, hs, ha⟩ | ⟨e, rt', hs, hst, hf⟩
    · rw [hs]
      rcases rerunDeferred_cases env ctx rest effects (rt.committed merged) with
        ⟨total, rt', hrun, hser⟩ | ⟨e, rt', done, i, later, rt₁, hrun, hsplit, hser, hf, hst⟩
      · exact .inl ⟨total, rt', merged, hrun, rfl, ha, hser⟩
      · exact .inr (.inr ⟨e, rt', merged, hrun, rfl, ha, done, i, later, rt₁, hsplit, hser, hf, hst⟩)
    · rw [hs]
      exact .inr (.inl ⟨e, rt', rfl, .inr ⟨merged, rfl, hf⟩, hst⟩)

lemma SerialRun.gathers {rt' : PhaseRuntime keys} {merged : StateCommand keys.key}
    {first batch : List (Fin (filterHooks env ctx).length × StateCommand keys.key)}
    {rest : List (Fin (filterHooks env ctx).length)}
    (hser : SerialRun env (filterHooks env ctx) ctx (rt.committed merged) rest rt')
    (h : runHooksIndexed (filterHooks env ctx) ctx rt.store.snapshot = .ok first)
    (hpart : partitionCommands first rt.store.registry.mergeStrategy = (batch.map (·.2), rest))
    (hmerged : rt.store.mergeAllCommands (batch.map (·.2)) = .ok merged)
    (haccepts : rt.Accepts env merged) :
    ∃ effects, rt.gatherAndCommitHooks env ctx = (.ok effects, rt') := by
  obtain ⟨effects, hs⟩ := submitNonEmpty_accepted haccepts
  obtain ⟨total, hrun⟩ := hser.rerunDeferred effects
  refine ⟨total, ?_⟩
  rw [gather_eq_fallback rt h, hpart]
  unfold submitMerged
  simp only [hmerged, hs, hrun]

/-- What gathering does with the commands of the first run. -/
structure SerialGather (rt : PhaseRuntime keys) (env : ExecutionEnv keys.key)
    (ctx : PhaseContext keys.key)
    (first : List (Fin (filterHooks env ctx).length × StateCommand keys.key))
    (batch : List (Fin (filterHooks env ctx).length × StateCommand keys.key))
    (rest : List (Fin (filterHooks env ctx).length)) : Prop where
  firstRun : ∀ i c, (i, c) ∈ first ↔
    runHook ((filterHooks env ctx).get i) ctx rt.store.snapshot = .ok c ∧ c.isEmpty = false
  partition : partitionCommands first rt.store.registry.mergeStrategy = (batch.map (·.2), rest)
  inOrder : batch.Sublist first
  once : (batch.map (·.1) ++ rest).Nodup ∧ (batch.map (·.1) ++ rest).Perm (first.map (·.1))
  noConflict : ∀ key, rt.store.mergeAllCommands (batch.map (·.2)) ≠ .error (.parallelMergeConflict key)
  merges : (∀ p ∈ first, p.2.baseRevision = some rt.store.revision) →
    ∃ merged, rt.store.mergeAllCommands (batch.map (·.2)) = .ok merged
  apart : first.Pairwise (fun p q => ExclusiveApart rt.store.registry.mergeStrategy p.2 q.2) →
    batch = first ∧ rest = []
  succeeds : ∀ rt', (∃ effects, rt.gatherAndCommitHooks env ctx = (.ok effects, rt')) ↔
    ∃ merged, rt.store.mergeAllCommands (batch.map (·.2)) = .ok merged ∧
      Joins (batch.map (·.2)) merged ∧ rt.Accepts env merged ∧
      SerialRun env (filterHooks env ctx) ctx (rt.committed merged) rest rt'
  failed : ∀ e rt', rt.gatherAndCommitHooks env ctx = (.error e, rt') →
    ((rt.store.mergeAllCommands (batch.map (·.2)) = .error e ∨
        ∃ merged, rt.store.mergeAllCommands (batch.map (·.2)) = .ok merged ∧
          rt.Refuses env merged e) ∧ rt'.store = rt.store) ∨
    ∃ merged, rt.store.mergeAllCommands (batch.map (·.2)) = .ok merged ∧
      Joins (batch.map (·.2)) merged ∧ rt.Accepts env merged ∧
      ∃ done i later rt₁, rest = done ++ i :: later ∧
        SerialRun env (filterHooks env ctx) ctx (rt.committed merged) done rt₁ ∧
        HookFails env (filterHooks env ctx) ctx rt₁ i e ∧ rt'.store = rt₁.store

/-- Every hook's command is committed once: those of the batch in one merge, the others by a serial
run on the snapshots that their predecessors left. -/
theorem gather_serial (rt : PhaseRuntime keys) (env : ExecutionEnv keys.key)
    (ctx : PhaseContext keys.key) :
    (∀ e, runHooksIndexed (filterHooks env ctx) ctx rt.store.snapshot = .error e →
      rt.gatherAndCommitHooks env ctx = (.error e, rt)) ∧
    ∀ first, runHooksIndexed (filterHooks env ctx) ctx rt.store.snapshot = .ok first →
      ∃ batch rest, SerialGather rt env ctx first batch rest := by
  refine ⟨fun e h => gather_firstRun_error h, fun first h => ?_⟩
  obtain ⟨batch, rest, hpart, hsub, hperm, hpair⟩ :=
    partition_batch rt.store.registry.mergeStrategy first
  have hmerge := merge_batch rt.store (List.pairwise_map.mpr hpair)
  refine ⟨batch, rest, ?_⟩
  refine ⟨mem_firstRun h, hpart, hsub, ⟨?_, hperm⟩, hmerge.1, ?_, partition_apart hpart hsub, ?_, ?_⟩
  · exact hperm.nodup_iff.mpr (firstRun_nodup h)
  · intro hbase
    refine hmerge.2 ?_
    intro c hc
    obtain ⟨p, hp, rfl⟩ := List.mem_map.mp hc
    exact hbase p (hsub.subset hp)
  · intro rt'
    constructor
    · rintro ⟨effects, hg⟩
      rcases gather_cases rt h hpart with ⟨total, rt₁, merged, hcase, hm, ha, hser⟩ |
        ⟨e, rt₁, hcase, -⟩ | ⟨e, rt₁, merged, hcase, -⟩
      · obtain ⟨-, rfl⟩ := Prod.mk.inj (hcase.symm.trans hg)
        exact ⟨merged, hm, joins_of_merged hm, ha, hser⟩
      · cases hcase.symm.trans hg
      · cases hcase.symm.trans hg
    · rintro ⟨merged, hm, -, ha, hser⟩
      exact hser.gathers h hpart hm ha
  · intro e rt' hg
    rcases gather_cases rt h hpart with ⟨total, rt₁, merged, hcase, -⟩ |
      ⟨e', rt₁, hcase, hfails, hstore⟩ | ⟨e', rt₁, merged, hcase, hm, ha, hfails⟩
    · cases hcase.symm.trans hg
    · cases hcase.symm.trans hg
      exact .inl ⟨hfails, hstore⟩
    · cases hcase.symm.trans hg
      exact .inr ⟨merged, hm, joins_of_merged hm, ha, hfails⟩

end Gather

section Notes

inductive NoteKey where
  | title
  | body
deriving DecidableEq

def noteCodec (V : Type) (default : V) : Codec Nat V := ⟨fun _ => .ok 0, fun _ => .ok default⟩

def noteKey : NoteKey → StateKey Nat
  | .title => ⟨"title", .exclusive, Nat, Nat, 0, fun _ n => n, noteCodec Nat 0⟩
  | .body => ⟨"body", .exclusive, Nat, Nat, 0, fun _ n => n, noteCodec Nat 0⟩

def noteKeys : RuntimeKeys Nat NoteKey := ⟨noteCodec _ [], noteCodec _ [], noteKey⟩

def noteStart : PhaseRuntime noteKeys :=
  ⟨(StateStore.new.installPluginWithKeys "notes"
    [.new noteKeys.key (.other .title) ⟨false, false, .run⟩,
      .new noteKeys.key (.other .body) ⟨false, false, .run⟩]).2, 1, []⟩

def titleOf (snapshot : Snapshot noteKeys.key) : Nat :=
  let value : Option Nat := snapshot.get (.other .title)
  value.getD 0

def titleHook : TaggedPhaseHook noteKeys.key :=
  ⟨"notes", fun ctx => .ok (StateCommand.new.update (.other .title)
    (show Nat from titleOf ctx.snapshot + 1))⟩

def bodyHook : TaggedPhaseHook noteKeys.key :=
  ⟨"notes", fun _ => .ok (StateCommand.new.update (.other .body) (show Nat from 7))⟩

def firstTitleHook : TaggedPhaseHook noteKeys.key :=
  ⟨"notes", fun ctx => if titleOf ctx.snapshot = 0 then titleHook.hook ctx else .error .cancelled⟩

def noteEnv (last : TaggedPhaseHook noteKeys.key) : ExecutionEnv noteKeys.key :=
  ⟨fun _ => [titleHook, bodyHook, last], fun _ => none, fun _ => none⟩

def noteCtx : PhaseContext noteKeys.key := ⟨.runStart, ⟨0, .empty⟩, [], none⟩

def notesOf (rt : PhaseRuntime noteKeys) : Option Nat × Option Nat :=
  (rt.store.read (.other .title), rt.store.read (.other .body))

def notesGathered (last : TaggedPhaseHook noteKeys.key) :
    Except StateError HookEffects × PhaseRuntime noteKeys :=
  noteStart.gatherAndCommitHooks (noteEnv last) noteCtx

theorem gather_serial_deferred :
    (∃ batch : List (Fin (filterHooks (noteEnv titleHook) noteCtx).length × StateCommand noteKeys.key),
      ∃ rest merged, rest.map (·.val) = [2] ∧ Joins (batch.map (·.2)) merged ∧
        SerialRun (noteEnv titleHook) (filterHooks (noteEnv titleHook) noteCtx) noteCtx
          (noteStart.committed merged) rest (notesGathered titleHook).2) ∧
    notesOf (notesGathered titleHook).2 = (some 2, some 7) ∧
    (∃ batch : List (Fin (filterHooks (noteEnv firstTitleHook) noteCtx).length ×
        StateCommand noteKeys.key),
      ∃ merged, Joins (batch.map (·.2)) merged ∧
        (notesGathered firstTitleHook).2.store = (noteStart.committed merged).store) ∧
    notesOf (notesGathered firstTitleHook).2 = (some 1, some 7) := by
  refine ⟨?_, rfl, ?_, rfl⟩
  · obtain ⟨first, hfirst⟩ : ∃ first, runHooksIndexed (filterHooks (noteEnv titleHook) noteCtx)
        noteCtx noteStart.store.snapshot = .ok first := ⟨_, rfl⟩
    obtain ⟨batch, rest, h⟩ := (gather_serial noteStart (noteEnv titleHook) noteCtx).2 first hfirst
    obtain rfl := Except.ok.inj hfirst
    obtain ⟨merged, -, hj, -, hs⟩ := (h.succeeds (notesGathered titleHook).2).mp ⟨_, rfl⟩
    have hrest : [2] = rest.map (·.val) :=
      congrArg (fun r => r.2.map (·.val)) h.partition
    exact ⟨batch, rest, merged, hrest.symm, hj, hs⟩
  · obtain ⟨first, hfirst⟩ : ∃ first, runHooksIndexed
        (filterHooks (noteEnv firstTitleHook) noteCtx) noteCtx noteStart.store.snapshot =
          .ok first := ⟨_, rfl⟩
    obtain ⟨batch, rest, h⟩ :=
      (gather_serial noteStart (noteEnv firstTitleHook) noteCtx).2 first hfirst
    obtain rfl := Except.ok.inj hfirst
    have hrest : rest.length = 1 := (congrArg List.length (congrArg Prod.snd h.partition)).symm
    rcases h.failed .cancelled (notesGathered firstTitleHook).2 rfl with
      ⟨-, hst⟩ | ⟨merged, -, hj, -, done, i, later, rt₁, hsplit, hs, -, hst⟩
    · have hread := congrArg (fun store => store.read (.other .title)) hst
      exact nomatch hread
    · rw [hsplit, List.length_append, List.length_cons] at hrest
      obtain rfl : done = [] := List.length_eq_zero_iff.mp (by omega)
      cases hs
      exact ⟨batch, merged, hj, hst⟩

end Notes

end Awaken.Engine
