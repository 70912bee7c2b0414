import Awaken.Background.CancelledRuns

namespace Awaken.Background

open Awaken.Lib Awaken.State
open BackgroundTaskManager (parentRunId rootTaskIds)

variable {J : Type} {codecs : BackgroundCodecs J} {runId : String}

namespace Sweep

def roots : Sweep → List String
  | sweeping roots | walked _ roots => roots
  | _ => []

def tree : Sweep → List String
  | walked taskIds _ => taskIds
  | _ => []

def Unread (self : Sweep) : Prop := self = idle ∨ self = marked

end Sweep

def Signalled (s : Cancellation codecs) (id : String) : Prop :=
  ∃ handle, s.handles.get id = some handle ∧ handle.cancelled = true

def Late (runId : String) (s : Cancellation codecs) (id : String) : Prop :=
  s.handles.get id = none ∧
    ∃ record, s.tasks.get id = some record ∧ parentRunId record.parentContext = some runId

def Pending (s : Cancellation codecs) (id : String) : Prop :=
  s.sweep.Unread ∨ id ∈ s.sweep.tree ∨
    ∃ root ∈ s.sweep.roots, Ancestor (parentOf s.tasks) id root

/-- The condition on a step. A task whose own run id is not that of the run is committed while the
root above it is still to be walked, and has its handle when its tree is signalled. A task that
carries the id of the run when its handle is inserted belongs to the lineage. When the roots are
looked up, no root above a running task has ended, unless the task is late. -/
def Safe (runId : String) (s : Cancellation codecs) : Event J → Prop
  | .commit c => ∀ args id, s.calls c = some ⟨args, some id, .admitted⟩ →
      InLineage s.tasks runId args.context → parentRunId args.context ≠ some runId →
      s.sweep.Unread ∨ ∃ p, args.context.taskId = some p ∧
        ∃ root ∈ s.sweep.roots, Ancestor (parentOf s.tasks) p root
  | .insert c => ∀ args id, s.calls c = some ⟨args, some id, .launched⟩ →
      (s.background.manager.isParentRunCancelled args.context).isSome →
      InLineage s.tasks runId args.context
  | .roots => ∀ id record, s.tasks.get id = some record → record.status = .running →
      ((s.handles.get id).isSome ∨ parentRunId record.parentContext ≠ some runId) →
      ∀ root rootRecord, RootOf s.tasks runId root → Ancestor (parentOf s.tasks) id root →
        s.tasks.get root = some rootRecord → rootRecord.status = .running
  | .signal => ∀ id ∈ s.sweep.tree, ∀ record, s.tasks.get id = some record →
      record.status = .running → parentRunId record.parentContext ≠ some runId →
      (s.handles.get id).isSome
  | _ => True

structure Reaching (runId : String) (s : Cancellation codecs) : Prop where
  held : Held s
  marked : s.sweep = .idle ∨ runId ∈ s.background.manager.cancelledRunIds
  outside : ∀ id, Signalled s id → Lineage s.tasks runId id
  roots : ∀ root ∈ s.sweep.roots, RootOf s.tasks runId root
  tree : ∀ id ∈ s.sweep.tree, Lineage s.tasks runId id
  covered : ∀ id record, s.tasks.get id = some record → record.status = .running →
    Lineage s.tasks runId id → Signalled s id ∨ Late runId s id ∨ Pending s id

section Lineage

variable {tasks : Table String (PersistedTaskMeta J)} {id : String}

lemma Lineage.isSome (h : Lineage tasks runId id) : (tasks.get id).isSome := by
  obtain ⟨root, ⟨record, hget, -⟩, habove⟩ := h
  rcases habove.cases_head with rfl | ⟨p, hp, -⟩
  · rw [hget]
    rfl
  · obtain ⟨other, hother, -⟩ := Option.bind_eq_some_iff.mp hp
    rw [hother]
    rfl

lemma RootOf.lineage (h : RootOf tasks runId id) : Lineage tasks runId id := ⟨id, h, .refl⟩

lemma lineage_of_context {record : PersistedTaskMeta J} (hget : tasks.get id = some record)
    (h : InLineage tasks runId record.parentContext) : Lineage tasks runId id := by
  rcases h with ⟨hnone, hrun⟩ | ⟨p, hp, root, hroot, habove⟩
  · exact RootOf.lineage ⟨record, hget, hnone, hrun⟩
  · refine ⟨root, hroot, .head ?_ habove⟩
    rw [Parent, parentOf, hget]
    exact hp

end Lineage

variable {s s' : Cancellation codecs}

lemma Reaching.of_same (h : Reaching runId s) (hheld : Held s') (htasks : s'.tasks = s.tasks)
    (hhandles : s'.handles = s.handles)
    (hruns : s'.background.manager.cancelledRunIds = s.background.manager.cancelledRunIds)
    (hsweep : s'.sweep = s.sweep) : Reaching runId s' := by
  refine ⟨hheld, ?_, ?_, ?_, ?_, ?_⟩
  · rw [hsweep, hruns]
    exact h.marked
  · simpa only [Signalled, hhandles, htasks] using h.outside
  · rw [hsweep, htasks]
    exact h.roots
  · rw [hsweep, htasks]
    exact h.tree
  · simpa only [Signalled, Late, Pending, hhandles, htasks, hsweep] using h.covered

lemma Reaching.commit (h : Reaching runId s) {c : Nat} {args : SpawnArgs} {id : String}
    (hat : s.calls c = some ⟨args, some id, .admitted⟩) (hsafe : Safe runId s (.commit c))
    (hheld : Held s') (htasks : s'.tasks = s.tasks.insert id (args.record id))
    (hhandles : s'.handles = s.handles)
    (hruns : s'.background.manager.cancelledRunIds = s.background.manager.cancelledRunIds)
    (hsweep : s'.sweep = s.sweep) : Reaching runId s' := by
  have hcall := h.held.calls c _ hat
  have hfresh : s.tasks.get id = none := hcall.fresh id rfl (by rintro (h | h) <;> cases h)
  have hkept : ∀ other, (s.tasks.get other).isSome →
      (Lineage s'.tasks runId other ↔ Lineage s.tasks runId other) := by
    rw [htasks]
    exact fun other => lineage_insert_of_isSome hfresh h.held.closed
  refine ⟨hheld, by rw [hsweep, hruns]; exact h.marked, fun other hsignal => ?_, fun root hroot => ?_,
    fun other hmem => ?_, fun other record hget hrunning hlineage => ?_⟩
  · rw [Signalled, hhandles] at hsignal
    have hline := h.outside other hsignal
    exact (hkept other hline.isSome).mpr hline
  · rw [hsweep] at hroot
    have hold := h.roots root hroot
    rw [htasks, rootOf_insert (ne_of_isSome hfresh hold.lineage.isSome)]
    exact hold
  · rw [hsweep] at hmem
    have hold := h.tree other hmem
    exact (hkept other hold.isSome).mpr hold
  · rw [htasks, Table.get_insert] at hget
    split at hget
    · rename_i hother
      subst hother
      obtain rfl := Option.some.inj hget
      rw [htasks, lineage_insert_self hfresh h.held.closed hcall.parent] at hlineage
      by_cases hrun : parentRunId args.context = some runId
      · refine .inr (.inl ⟨?_, args.record other, ?_, hrun⟩)
        · rw [hhandles]
          exact (hcall.given other rfl).2
        · rw [htasks, Table.get_insert, if_pos rfl]
      · refine .inr (.inr ?_)
        rw [Pending, hsweep, htasks]
        rcases hsafe args other hat hlineage hrun with hunread | ⟨p, hp, root, hroot, habove⟩
        · exact .inl hunread
        · have hparent : Parent (parentOf (s.tasks.insert other (args.record other))) other p := by
            rw [Parent, parentOf_insert, if_pos rfl]
            exact hp
          have habove' : Ancestor (parentOf (s.tasks.insert other (args.record other))) p root :=
            (ancestor_insert hfresh h.held.closed (ne_of_isSome hfresh (hcall.parent p hp))).mpr habove
          exact .inr (.inr ⟨root, hroot, .head hparent habove'⟩)
    · rename_i hother
      have hsome : (s.tasks.get other).isSome := by rw [hget]; rfl
      rcases h.covered other record hget hrunning ((hkept other hsome).mp hlineage) with
        hsignal | ⟨hnone, record', hget', hrun⟩ | hpending
      · refine .inl ?_
        rw [Signalled, hhandles]
        exact hsignal
      · refine .inr (.inl ⟨by rw [hhandles]; exact hnone, record', ?_, hrun⟩)
        rw [htasks, Table.get_insert, if_neg hother]
        exact hget'
      · refine .inr (.inr ?_)
        rw [Pending, hsweep, htasks]
        refine hpending.imp_right (Or.imp_right ?_)
        rintro ⟨root, hroot, habove⟩
        exact ⟨root, hroot, (ancestor_insert hfresh h.held.closed hother).mpr habove⟩

lemma get_insertHandle (manager : BackgroundTaskManager) (id other : String) (handle : TaskHandle)
    (context : TaskParentContext) :
    (manager.insertHandleAndCancelIfParentRunCancelled id handle context).handles.get other =
      if other = id then
        some (if (manager.isParentRunCancelled context).isSome then handle.cancel else handle)
      else manager.handles.get other := by
  unfold BackgroundTaskManager.insertHandleAndCancelIfParentRunCancelled
  have hruns : ({ manager with handles := manager.handles.insert id handle } :
      BackgroundTaskManager).isParentRunCancelled context = manager.isParentRunCancelled context := rfl
  dsimp only
  rw [hruns]
  by_cases hrun : (manager.isParentRunCancelled context).isSome
  · rw [if_pos hrun, if_pos hrun]
    change ((manager.handles.insert id handle).modify id TaskHandle.cancel).get other = _
    rw [Table.get_modify, Table.get_insert]
    by_cases hid : other = id <;> simp [hid]
  · rw [if_neg hrun, if_neg hrun, Table.get_insert]

lemma isParentRunCancelled_of_mem {manager : BackgroundTaskManager} {context : TaskParentContext}
    (hrun : parentRunId context = some runId) (hmem : runId ∈ manager.cancelledRunIds) :
    (manager.isParentRunCancelled context).isSome := by
  rw [BackgroundTaskManager.isParentRunCancelled, hrun, Option.filter_some_pos (by simpa using hmem)]
  rfl

lemma cancelledRunIds_insert (manager : BackgroundTaskManager) (id : String) (handle : TaskHandle)
    (context : TaskParentContext) :
    (manager.insertHandleAndCancelIfParentRunCancelled id handle context).cancelledRunIds =
      manager.cancelledRunIds := by
  unfold BackgroundTaskManager.insertHandleAndCancelIfParentRunCancelled
  dsimp only
  split <;> rfl

lemma Reaching.insert (h : Reaching runId s) {c : Nat} {args : SpawnArgs} {id : String}
    (hat : s.calls c = some ⟨args, some id, .launched⟩) (hsafe : Safe runId s (.insert c))
    {handle : TaskHandle} (hcancelled : handle.cancelled = false)
    (hheld : Held s') (htasks : s'.tasks = s.tasks)
    (hmanager : s'.background.manager =
      s.background.manager.insertHandleAndCancelIfParentRunCancelled id handle args.context)
    (hsweep : s'.sweep = s.sweep) : Reaching runId s' := by
  have hcall := h.held.calls c _ hat
  obtain ⟨record, hrecord, hcontext⟩ := hcall.record id rfl (.inr rfl)
  have hruns : s'.background.manager.cancelledRunIds = s.background.manager.cancelledRunIds := by
    rw [hmanager, cancelledRunIds_insert]
  have hget : ∀ other, s'.handles.get other = if other = id then
      some (if (s.background.manager.isParentRunCancelled args.context).isSome then handle.cancel
        else handle)
      else s.handles.get other := fun other => by
    rw [Cancellation.handles, hmanager, get_insertHandle]
    rfl
  refine ⟨hheld, by rw [hsweep, hruns]; exact h.marked, fun other hsignal => ?_,
    by rw [hsweep, htasks]; exact h.roots, by rw [hsweep, htasks]; exact h.tree,
    fun other otherRecord hother hrunning hlineage => ?_⟩
  · rw [htasks]
    obtain ⟨found, hfound, hsignalled⟩ := hsignal
    rw [hget] at hfound
    split at hfound
    · rename_i hid
      subst hid
      by_cases hrun : (s.background.manager.isParentRunCancelled args.context).isSome
      · have hline := hsafe args other hat hrun
        rw [← hcontext] at hline
        exact lineage_of_context hrecord hline
      · rw [if_neg hrun] at hfound
        rw [← Option.some.inj hfound, hcancelled] at hsignalled
        cases hsignalled
    · exact h.outside other ⟨found, hfound, hsignalled⟩
  · rw [htasks] at hother hlineage
    have hpending : Pending s other → Pending s' other := by
      rw [Pending, Pending, hsweep, htasks]
      exact fun hwaits => hwaits
    by_cases hid : other = id
    · subst hid
      rcases h.covered other otherRecord hother hrunning hlineage with
        ⟨found, hfound, -⟩ | ⟨-, record', hget', hrun⟩ | hwaits
      · rw [(hcall.given other rfl).2] at hfound
        cases hfound
      · rcases h.marked with hidle | hmem
        · refine .inr (.inr (.inl (.inl ?_)))
          rw [hsweep, hidle]
        · refine .inl ⟨handle.cancel, ?_, rfl⟩
          obtain rfl := Option.some.inj (hget'.symm.trans hrecord)
          rw [hcontext] at hrun
          rw [hget, if_pos rfl, if_pos (isParentRunCancelled_of_mem hrun hmem)]
      · exact .inr (.inr (hpending hwaits))
    · rcases h.covered other otherRecord hother hrunning hlineage with
        ⟨found, hfound, hsignalled⟩ | ⟨hnone, hlate⟩ | hwaits
      · exact .inl ⟨found, by rw [hget, if_neg hid]; exact hfound, hsignalled⟩
      · exact .inr (.inl ⟨by rw [hget, if_neg hid]; exact hnone, by rw [htasks]; exact hlate⟩)
      · exact .inr (.inr (hpending hwaits))

lemma Reaching.complete (h : Reaching runId s) (index : Nat) (result : TaskResult J) (now : Nat) :
    Reaching runId { s with background := s.background.complete index result now } := by
  have hheld := h.held.complete index result now
  rcases h.held.completed index result now with heq | ⟨future, hmem, heq, hsame⟩
  · rw [heq]
    exact h
  rw [heq] at hheld ⊢
  generalize hs : ({ s with background := ⟨s.background.manager,
    s.background.store.applied [.keyPatch .tasks
      (BackgroundTaskStateAction.upsert (future.completed result now))],
    s.background.futures.eraseIdx index⟩ } : Cancellation codecs) = s' at hheld ⊢
  have htasks : s'.tasks = s.tasks.insert future.taskId (future.completed result now) := by
    rw [← hs, ← completed_taskId future result now]
    exact tasksOf_upsert _ _
  rw [← htasks] at hsame
  have hhandles : s'.handles = s.handles := hs ▸ rfl
  have hsweep : s'.sweep = s.sweep := hs ▸ rfl
  have hruns : s'.background.manager.cancelledRunIds = s.background.manager.cancelledRunIds :=
    hs ▸ rfl
  refine ⟨hheld, by rw [hsweep, hruns]; exact h.marked, fun id hsignal => ?_, fun root hroot => ?_,
    fun id hid => ?_, fun id record hget hrunning hlineage => ?_⟩
  · rw [Signalled, hhandles] at hsignal
    exact hsame.lineage.mpr (h.outside id hsignal)
  · rw [hsweep] at hroot
    exact hsame.rootOf (h.roots root hroot)
  · rw [hsweep] at hid
    exact hsame.lineage.mpr (h.tree id hid)
  · have hold : s.tasks.get id = some record := by
      rw [htasks, Table.get_insert] at hget
      split at hget
      · rw [← Option.some.inj hget] at hrunning
        exact absurd hrunning (completed_status _ _ _)
      · exact hget
    rcases h.covered id record hold hrunning (hsame.lineage.mp hlineage) with
      hsignal | ⟨hnone, record', hget', hrun⟩ | hpending
    · refine .inl ?_
      rw [Signalled, hhandles]
      exact hsignal
    · obtain rfl := Option.some.inj (hget'.symm.trans hold)
      exact .inr (.inl ⟨by rw [hhandles]; exact hnone, record', hget, hrun⟩)
    · refine .inr (.inr ?_)
      rw [Pending, hsweep, hsame.parentOf]
      exact hpending

lemma mem_rootTaskIds {store : StateStore (backgroundKeys codecs)} (hkeyed : Keyed (tasksOf store))
    {id : String} : id ∈ rootTaskIds store runId ↔ RootOf (tasksOf store) runId id ∧
      ∃ record, (tasksOf store).get id = some record ∧ record.status = .running := by
  rw [rootTaskIds, List.mem_map]
  constructor
  · rintro ⟨record, hmem, rfl⟩
    obtain ⟨hvalue, hp⟩ := List.mem_filter.mp hmem
    obtain ⟨taskId, hget⟩ := Table.mem_values.mp hvalue
    rw [← hkeyed taskId record hget] at hget
    simp only [Bool.and_eq_true, decide_eq_true_eq, Bool.not_eq_true', TaskStatus.isTerminal,
      Option.isNone_iff_eq_none] at hp
    exact ⟨⟨record, hget, hp.2, hp.1.2⟩, record, hget, by simpa using hp.1.1⟩
  · rintro ⟨⟨record, hget, hnone, hrun⟩, record', hget', hrunning⟩
    obtain rfl := Option.some.inj (hget.symm.trans hget')
    refine ⟨record, List.mem_filter.mpr ⟨Table.mem_values.mpr ⟨id, hget⟩, ?_⟩, hkeyed id record hget⟩
    simp [TaskStatus.isTerminal, hnone, hrun, hrunning]

lemma Reaching.readRoots (h : Reaching runId s) (hat : s.sweep = .marked)
    (hsafe : Safe runId s .roots) : Reaching runId
      { s with sweep := .sweeping (rootTaskIds s.background.store runId) } := by
  refine ⟨h.held.setSweep _, .inr (h.marked.resolve_left (by rw [hat]; exact nofun)), h.outside,
    fun root hroot => ((mem_rootTaskIds h.held.keyed).mp hroot).1, fun id hid => (nomatch hid),
    fun id record hget hrunning hlineage => ?_⟩
  by_cases hlate : (s.handles.get id).isSome ∨ parentRunId record.parentContext ≠ some runId
  · obtain ⟨root, hroot, habove⟩ := hlineage
    obtain ⟨rootRecord, hgetRoot, hnone, hrun⟩ := hroot
    have hlive := hsafe id record hget hrunning hlate root rootRecord
      ⟨rootRecord, hgetRoot, hnone, hrun⟩ habove hgetRoot
    refine .inr (.inr (.inr (.inr ⟨root, ?_, habove⟩)))
    exact (mem_rootTaskIds h.held.keyed).mpr
      ⟨⟨rootRecord, hgetRoot, hnone, hrun⟩, rootRecord, hgetRoot, hlive⟩
  · rw [not_or, not_not] at hlate
    exact .inr (.inl ⟨Option.not_isSome_iff_eq_none.mp hlate.1, record, hget, hlate.2⟩)

lemma Reaching.walkTree (h : Reaching runId s) {root : String} {roots taskIds : List String}
    (hat : s.sweep = .sweeping (root :: roots))
    (htree : taskTreeIds s.background.store root = some taskIds) :
    Reaching runId { s with sweep := .walked taskIds roots } := by
  have hmem := mem_taskTreeIds h.held.keyed htree
  have hroots := h.roots
  rw [hat] at hroots
  refine ⟨h.held.setSweep _, .inr (h.marked.resolve_left (by rw [hat]; exact nofun)), h.outside,
    fun other hother => hroots other (List.mem_cons_of_mem _ hother), fun id hid => ?_,
    fun id record hget hrunning hlineage => ?_⟩
  · exact ⟨root, hroots root List.mem_cons_self, (hmem id).mp hid⟩
  · rcases h.covered id record hget hrunning hlineage with hsignal | hlate | hpending
    · exact .inl hsignal
    · exact .inr (.inl hlate)
    · refine .inr (.inr ?_)
      rw [Pending, hat] at hpending
      rcases hpending with (hunread | hunread) | hnone | ⟨other, hother, habove⟩
      · cases hunread
      · cases hunread
      · cases hnone
      · rcases List.mem_cons.mp hother with rfl | hrest
        · exact .inr (.inl ((hmem id).mpr habove))
        · exact .inr (.inr ⟨other, hrest, habove⟩)

lemma Reaching.signalTree (h : Reaching runId s) {roots taskIds : List String}
    (hat : s.sweep = .walked taskIds roots) (hsafe : Safe runId s .signal) :
    Reaching runId { s.setManager (s.background.manager.signalTree s.background.store taskIds).2
      with sweep := .sweeping roots } := by
  have hget := fun id => (get_signalTree s.background.store s.background.manager taskIds id).1
  obtain ⟨-, hcounter, hruns⟩ :=
    get_signalTree s.background.store s.background.manager taskIds ""
  have hheld : Held (s.setManager
      (s.background.manager.signalTree s.background.store taskIds).2) :=
    h.held.setManager hcounter (fun id => by rw [hget, Option.isSome_map]; rfl)
  have hroots := h.roots
  have htree := h.tree
  rw [hat] at hroots htree
  refine ⟨hheld.setSweep _, .inr ?_, fun id hsignal => ?_, hroots, fun id hid => (nomatch hid),
    fun id record hrecord hrunning hlineage => ?_⟩
  · change runId ∈ (s.background.manager.signalTree s.background.store taskIds).2.cancelledRunIds
    rw [hruns]
    exact h.marked.resolve_left (by rw [hat]; exact nofun)
  · obtain ⟨found, hfound, hcancelled⟩ := hsignal
    change (s.background.manager.signalTree s.background.store taskIds).2.handles.get id = _ at hfound
    rw [hget] at hfound
    obtain ⟨old, hold, heq⟩ := Option.map_eq_some_iff.mp hfound
    split at heq
    · rename_i hin
      exact htree id hin.1
    · exact h.outside id ⟨old, hold, by rw [heq]; exact hcancelled⟩
  · have hsignalled : ∀ handle, s.handles.get id = some handle →
        (handle.cancelled = true ∨ id ∈ taskIds) → Signalled ({ s.setManager
          (s.background.manager.signalTree s.background.store taskIds).2 with
            sweep := .sweeping roots } : Cancellation codecs) id := by
      intro handle hhandle hwhy
      have hlive : liveIn s.background.store id = true := by
        change (s.tasks.get id).all _ = true
        rw [show s.tasks.get id = some record from hrecord]
        simp [TaskStatus.isTerminal, hrunning]
      refine ⟨if id ∈ taskIds ∧ liveIn s.background.store id then handle.cancel else handle, ?_, ?_⟩
      · change (s.background.manager.signalTree s.background.store taskIds).2.handles.get id = _
        rw [hget, show s.background.manager.handles.get id = some handle from hhandle]
        rfl
      · by_cases hin : id ∈ taskIds
        · rw [if_pos ⟨hin, hlive⟩]
          rfl
        · rw [if_neg (fun hboth => hin hboth.1)]
          exact hwhy.resolve_right hin
    have hlate : s.handles.get id = none →
        (∃ record, s.tasks.get id = some record ∧ parentRunId record.parentContext = some runId) →
        Late runId ({ s.setManager
          (s.background.manager.signalTree s.background.store taskIds).2 with
            sweep := .sweeping roots } : Cancellation codecs) id := by
      intro hnone hrun
      refine ⟨?_, hrun⟩
      change (s.background.manager.signalTree s.background.store taskIds).2.handles.get id = _
      rw [hget, show s.background.manager.handles.get id = none from hnone]
      rfl
    rcases h.covered id record hrecord hrunning hlineage with
      ⟨handle, hhandle, hcancelled⟩ | ⟨hnone, hrun⟩ | hpending
    · exact .inl (hsignalled handle hhandle (.inl hcancelled))
    · exact .inr (.inl (hlate hnone hrun))
    · rw [Pending, hat] at hpending
      rcases hpending with (hunread | hunread) | hin | hroot
      · cases hunread
      · cases hunread
      · cases hhandle : s.handles.get id with
        | some handle => exact .inl (hsignalled handle hhandle (.inr hin))
        | none =>
          refine .inr (.inl (hlate hhandle ⟨record, hrecord, ?_⟩))
          by_contra hrun
          have hsome := hsafe id (by rw [hat]; exact hin) record hrecord hrunning hrun
          rw [hhandle] at hsome
          cases hsome
      · exact .inr (.inr (.inr (.inr hroot)))

lemma Turn.reaching {event : Event J} (h : Turn runId s event s') (hwrap : Unwrapped s event)
    (hsafe : Safe runId s event) (hs : Reaching runId s) : Reaching runId s' := by
  have hheld := h.held hwrap hs.held
  cases h with
  | enter idle parent => exact hs.of_same hheld rfl rfl rfl rfl
  | enterAgent idle parent => exact hs.of_same hheld rfl rfl rfl rfl
  | named at_ checked => exact hs.of_same hheld rfl rfl rfl rfl
  | misnamed at_ checked => exact hs.of_same hheld rfl rfl rfl rfl
  | admitted at_ checked => exact hs.of_same hheld rfl rfl rfl rfl
  | refused at_ checked => exact hs.of_same hheld rfl rfl rfl rfl
  | reserve at_ => exact hs.of_same hheld rfl rfl rfl rfl
  | committed at_ commit =>
    rw [commitMeta_eq hs.held.registered] at commit
    obtain ⟨-, rfl⟩ := Prod.mk.inj commit
    exact hs.commit at_ hsafe hheld (tasks_upsert s _) rfl rfl rfl
  | uncommitted at_ commit =>
    rw [commitMeta_eq hs.held.registered] at commit
    cases (Prod.mk.inj commit).1
  | launch at_ => exact hs.of_same hheld rfl rfl rfl rfl
  | insert at_ => exact hs.insert at_ hsafe rfl hheld rfl rfl rfl
  | complete index result now => exact hs.complete index result now
  | mark at_ =>
    exact ⟨hheld, .inr List.mem_cons_self, hs.outside, nofun, nofun,
      fun _ _ _ _ _ => .inr (.inr (.inl (.inr rfl)))⟩
  | roots at_ => exact hs.readRoots at_ hsafe
  | walked at_ tree => exact hs.walkTree at_ tree
  | @absent root roots at_ tree =>
    have hroot := hs.roots root (by rw [at_]; exact List.mem_cons_self)
    rw [taskTreeIds, if_pos (show ((tasksOf s.background.store).get root).isSome from
      hroot.lineage.isSome)] at tree
    cases tree
  | signal at_ => exact hs.signalTree at_ hsafe
  | finish at_ =>
    refine ⟨hheld, .inr (hs.marked.resolve_left (by rw [at_]; exact nofun)), hs.outside, nofun, nofun,
      fun id record hget hrunning hlineage => ?_⟩
    rcases hs.covered id record hget hrunning hlineage with hsignal | hlate | hpending
    · exact .inl hsignal
    · exact .inr (.inl hlate)
    · rw [Pending, at_] at hpending
      rcases hpending with (hunread | hunread) | hnone | ⟨root, hroot, -⟩
      · cases hunread
      · cases hunread
      · cases hnone
      · cases hroot

lemma start_reaching : Reaching runId (Cancellation.start codecs) := by
  refine ⟨start_held, .inl rfl, fun id hsignal => ?_, nofun, nofun, fun id record hget => ?_⟩
  · obtain ⟨handle, hhandle, -⟩ := hsignal
    cases hhandle
  · cases hget

section Family

structure Spawned (s s' : Cancellation codecs) (args : SpawnArgs) : Prop where
  tasks : s'.tasks = s.tasks.insert (numbered "bg" s.background.manager.counter)
    (args.record (numbered "bg" s.background.manager.counter))
  handles : s'.handles = s.handles.insert (numbered "bg" s.background.manager.counter)
    ⟨numbered "bg" s.background.manager.counter, args.ownerThreadId, false⟩
  futures : s'.background.futures =
    s.background.futures ++ [args.record (numbered "bg" s.background.manager.counter)]
  counter : s'.background.manager.counter = (s.background.manager.counter + 1) % 2 ^ 64
  runs : s'.background.manager.cancelledRunIds = s.background.manager.cancelledRunIds
  registered : Registered s'.background.store
  calls : ∀ c, s'.calls c = none
  sweep : s'.sweep = s.sweep

lemma exists_spawned (runId : String) (hregistered : Registered s.background.store)
    (hidle : ∀ c, s.calls c = none) (hruns : s.background.manager.cancelledRunIds = [])
    (hsweep : s.sweep = .idle) (hwrap : s.background.manager.counter + 1 < 2 ^ 64)
    (args : SpawnArgs) (hname : args.name = none)
    (hparent : ∀ p, args.context.taskId = some p → (s.tasks.get p).isSome) :
    ∃ tr s', Run (Turn runId) s tr s' ∧ Spawned s s' args ∧
      ∀ τ ∈ tr, Unwrapped τ.pre τ.label ∧ Safe runId τ.pre τ.label := by
  have hunmarked : ∀ handles counter, (⟨handles, counter, []⟩ :
      BackgroundTaskManager).isParentRunCancelled args.context = none := fun handles counter => by
    rw [BackgroundTaskManager.isParentRunCancelled]
    cases parentRunId args.context <;> rfl
  obtain ⟨⟨⟨handles, counter, runs⟩, store, futures⟩, calls, sweep⟩ := s
  obtain rfl : runs = [] := hruns
  have hidle' : sweep = .idle := hsweep
  refine ⟨_, _, .cons (.enter (hidle 0) hparent) (.cons
    (.named (Cancellation.calls_setCall_self _ _ _) ?_) (.cons
    (.admitted (Cancellation.calls_setCall_self _ _ _) ?_) (.cons
    (.committed (Cancellation.calls_setCall_self _ _ _) (commitMeta_eq hregistered _)) (.cons
    (.launch (Cancellation.calls_setCall_self _ _ _)) (.cons
    (.insert (Cancellation.calls_setCall_self _ _ _)) (.nil _)))))), ?_, fun τ hτ => ?_⟩
  · rw [Background.checkName, hname]
  · have hchecked : ∀ self : Background codecs, self.manager.isParentRunCancelled args.context = none →
        self.checkParentRun args = .ok () := fun self h => by rw [Background.checkParentRun, h]
    exact hchecked _ (hunmarked _ _)
  · refine ⟨tasksOf_upsert _ _, ?_, rfl, counter_insert _ _ _ _, cancelledRunIds_insert _ _ _ _,
      ⟨hregistered.tasks, hregistered.pendingWork⟩, fun c => ?_, rfl⟩
    · change (BackgroundTaskManager.insertHandleAndCancelIfParentRunCancelled
        ⟨handles, (counter + 1) % 2 ^ 64, []⟩ _ _ args.context).handles = _
      rw [BackgroundTaskManager.insertHandleAndCancelIfParentRunCancelled]
      dsimp only
      rw [hunmarked]
      rfl
    · by_cases hc : c = 0
      · rw [hc]
        exact Cancellation.calls_setCall_self _ _ _
      · simp only [Cancellation.setCall, Cancellation.setStore, Cancellation.setManager,
          Cancellation.launch, Function.update_of_ne hc]
        exact hidle c
  · rcases List.mem_cons.mp hτ with rfl | hτ
    · exact ⟨hwrap, trivial⟩
    rcases List.mem_cons.mp hτ with rfl | hτ
    · exact ⟨trivial, trivial⟩
    rcases List.mem_cons.mp hτ with rfl | hτ
    · exact ⟨trivial, trivial⟩
    rcases List.mem_cons.mp hτ with rfl | hτ
    · exact ⟨trivial, fun _ _ _ _ _ => .inl (.inl hidle')⟩
    rcases List.mem_cons.mp hτ with rfl | hτ
    · exact ⟨trivial, trivial⟩
    rw [List.mem_singleton.mp hτ]
    refine ⟨trivial, fun args' id hcall hmarked => ?_⟩
    rw [Cancellation.calls_setCall_self] at hcall
    cases hcall
    exact absurd hmarked (Option.not_isSome_iff_eq_none.mpr (hunmarked handles ((counter + 1) % 2 ^ 64)))

def rootArgs : SpawnArgs :=
  ⟨"thread", "shell", none, "", ⟨none, some "run", none, none⟩, ⟨none, none⟩, 0⟩

def childArgs : SpawnArgs :=
  ⟨"thread", "shell", none, "", ⟨none, none, none, none⟩,
    ⟨some ⟨numbered "bg" 0, some "run"⟩, none⟩, 0⟩

structure Family (s : Cancellation orphanCodecs) : Prop where
  tasks : ∀ id, s.tasks.get id =
    if id = numbered "bg" 0 then some (rootArgs.record (numbered "bg" 0))
    else if id = numbered "bg" 1 then some (childArgs.record (numbered "bg" 1)) else none
  child : s.handles.get (numbered "bg" 1) = some ⟨numbered "bg" 1, "thread", false⟩
  futures : s.background.futures =
    [rootArgs.record (numbered "bg" 0), childArgs.record (numbered "bg" 1)]
  registered : Registered s.background.store
  calls : ∀ c, s.calls c = none
  sweep : s.sweep = .idle

lemma Family.tasks_child {s : Cancellation orphanCodecs} (h : Family s) :
    s.tasks.get (numbered "bg" 1) = some (childArgs.record (numbered "bg" 1)) := by
  rw [h.tasks, if_neg (by decide), if_pos rfl]

lemma exists_family : ∃ tr s, Run (Turn "run") (Cancellation.start orphanCodecs) tr s ∧ Family s ∧
    ∀ τ ∈ tr, Unwrapped τ.pre τ.label ∧ Safe "run" τ.pre τ.label := by
  have hstart : Held (Cancellation.start orphanCodecs) := start_held
  obtain ⟨tr₁, s₁, hrun₁, h₁, hsafe₁⟩ := exists_spawned "run" hstart.registered (fun _ => rfl) rfl
    rfl (by decide) rootArgs rfl (fun p hp => by cases hp)
  have hget₁ : ∀ id, s₁.tasks.get id =
      if id = numbered "bg" 0 then some (rootArgs.record (numbered "bg" 0)) else none := fun id => by
    rw [h₁.tasks, Table.get_insert]
    rfl
  have hcounter : s₁.background.manager.counter = 1 := h₁.counter
  obtain ⟨tr₂, s₂, hrun₂, h₂, hsafe₂⟩ := exists_spawned "run" h₁.registered h₁.calls h₁.runs
    (h₁.sweep.trans rfl) (by rw [hcounter]; decide) childArgs rfl (fun p hp => by
      rw [← Option.some.inj hp, hget₁, if_pos rfl]
      rfl)
  refine ⟨_, s₂, hrun₁.append hrun₂, ⟨fun id => ?_, ?_, ?_, h₂.registered, h₂.calls,
    h₂.sweep.trans (h₁.sweep.trans rfl)⟩,
    fun τ hτ => (List.mem_append.mp hτ).elim (hsafe₁ τ) (hsafe₂ τ)⟩
  · rw [h₂.tasks, hcounter, Table.get_insert, hget₁]
    by_cases hroot : id = numbered "bg" 0
    · rw [if_neg (by rw [hroot]; decide), if_pos hroot, if_pos hroot]
    · rw [if_neg hroot, if_neg hroot]
  · rw [h₂.handles, hcounter, Table.get_insert, if_pos rfl]
    rfl
  · rw [h₂.futures, hcounter, h₁.futures]
    rfl

end Family

def Returned (s : Cancellation codecs) (id : String) : Prop :=
  ∀ c call, s.calls c = some call → call.taskId ≠ some id

/-- Once the cancellation has returned, now and after every later spawn, a running task of the
lineage is signalled as soon as its spawn has returned. -/
def ReachesLineage (runId : String) (s : Cancellation codecs) : Prop :=
  s.sweep = .done → ∀ id record, s.tasks.get id = some record → record.status = .running →
    Lineage s.tasks runId id → Returned s id → Signalled s id

def SparesOthers (runId : String) (s : Cancellation codecs) : Prop :=
  ∀ id, Signalled s id → Lineage s.tasks runId id

/-- In a run whose steps all meet the condition, the cancellation reaches the whole lineage and
nothing else. -/
theorem lineage_cancelled {tr : List (Transition (Cancellation codecs) (Event J))}
    {s : Cancellation codecs} (h : Run (Turn runId) (Cancellation.start codecs) tr s)
    (hsafe : ∀ τ ∈ tr, Unwrapped τ.pre τ.label ∧ Safe runId τ.pre τ.label) :
    (∀ τ ∈ tr, ReachesLineage runId τ.post ∧ SparesOthers runId τ.post) ∧
      ReachesLineage runId s ∧ SparesOthers runId s := by
  have hreaches : ∀ s : Cancellation codecs, Reaching runId s → ReachesLineage runId s := by
    intro s hs hdone id record hget hrunning hlineage hreturned
    rcases hs.covered id record hget hrunning hlineage with hsignal | ⟨hnone, -⟩ | hpending
    · exact hsignal
    · rcases hs.held.returned id (by rw [hget]; rfl) with hsome | ⟨c, call, hcall, hid⟩
      · rw [hnone] at hsome
        cases hsome
      · exact absurd hid (hreturned c call hcall)
    · rw [Pending, hdone] at hpending
      rcases hpending with (hunread | hunread) | hin | ⟨root, hroot, -⟩
      · cases hunread
      · cases hunread
      · cases hin
      · cases hroot
  obtain ⟨hlast, hall⟩ := Run.invariant (I := Reaching runId)
    (C := fun τ => Unwrapped τ.pre τ.label ∧ Safe runId τ.pre τ.label)
    (fun _ hstep hmeets hs => hstep.reaching hmeets.1 hmeets.2 hs) h hsafe start_reaching
  exact ⟨fun τ hτ => ⟨hreaches _ (hall τ hτ).2, (hall τ hτ).2.outside⟩, hreaches s hlast,
    hlast.outside⟩

theorem lineage_cancelled_family : ∃ (tr : List (Transition (Cancellation orphanCodecs) (Event Unit)))
    (s : Cancellation orphanCodecs), Run (Turn "run") (Cancellation.start orphanCodecs) tr s ∧
      Signalled s (numbered "bg" 0) ∧ Signalled s (numbered "bg" 1) ∧ SparesOthers "run" s := by
  obtain ⟨tr, s, hrun, hfamily, hsafe⟩ := exists_family
  have hall : ∀ id record, s.tasks.get id = some record →
      record.status = .running ∧ parentRunId record.parentContext = some "run" := by
    intro id record hget
    rw [hfamily.tasks] at hget
    split at hget
    · rw [← Option.some.inj hget]
      decide
    · split at hget
      · rw [← Option.some.inj hget]
        decide
      · cases hget
  obtain ⟨swept, hswept, hsteps⟩ := @cancelDescendantsForRun_run _ _ "run" _ hfamily.sweep
  have hquiet : ∀ τ ∈ swept, Unwrapped τ.pre τ.label ∧ Safe "run" τ.pre τ.label := by
    intro τ hτ
    obtain ⟨hlabel, hstore⟩ := hsteps τ hτ
    have hpre : ∀ id record, τ.pre.tasks.get id = some record →
        record.status = .running ∧ parentRunId record.parentContext = some "run" := by
      rw [Cancellation.tasks, Background.tasks, hstore]
      exact hall
    obtain ⟨pre, label, post⟩ := τ
    cases label with
    | mark | walk | finish => exact ⟨trivial, trivial⟩
    | roots => exact ⟨trivial, fun _ _ _ _ _ root record _ _ hget => (hpre root record hget).1⟩
    | signal => exact ⟨trivial, fun id _ record hget _ hrun => absurd (hpre id record hget).2 hrun⟩
    | _ => exact absurd hlabel id
  have hreach := lineage_cancelled (hrun.append hswept) (fun τ hτ =>
    (List.mem_append.mp hτ).elim (hsafe τ) (hquiet τ))
  have hroot : Lineage s.tasks "run" (numbered "bg" 0) :=
    RootOf.lineage ⟨_, (hfamily.tasks _).trans (if_pos rfl), rfl, rfl⟩
  have hchild : Lineage s.tasks "run" (numbered "bg" 1) :=
    lineage_of_context (hfamily.tasks_child) (.inr ⟨numbered "bg" 0, rfl, hroot⟩)
  have hreturned : ∀ id, Returned s id := fun id c call hcall => by
    rw [hfamily.calls c] at hcall
    cases hcall
  exact ⟨_, _, hrun.append hswept,
    hreach.2.1 rfl _ _ ((hfamily.tasks _).trans (if_pos rfl)) rfl hroot (hreturned _),
    hreach.2.1 rfl _ _ hfamily.tasks_child rfl hchild (hreturned _), hreach.2.2⟩

theorem finished_root_shields_child :
    ¬ ∀ (codecs : BackgroundCodecs Unit) (tr : List (Transition (Cancellation codecs) (Event Unit)))
      (s : Cancellation codecs), Run (Turn "run") (Cancellation.start codecs) tr s →
        ReachesLineage "run" s := by
  intro hall
  obtain ⟨tr, s, hrun, hfamily, -⟩ := exists_family
  have hne : numbered "bg" 1 ≠ numbered "bg" 0 := by decide
  have hstored : ∀ id, (tasksOf (s.background.complete 0 (.success ()) 0).store).get id =
      if id = numbered "bg" 0 then some ((rootArgs.record (numbered "bg" 0)).completed (.success ()) 0)
      else if id = numbered "bg" 1 then some (childArgs.record (numbered "bg" 1)) else none := by
    intro id
    have hcomplete : (s.background.complete 0 (.success ()) 0).store =
        s.background.store.applied [.keyPatch .tasks (BackgroundTaskStateAction.upsert
          ((rootArgs.record (numbered "bg" 0)).completed (.success ()) 0))] := by
      rw [Background.complete, hfamily.futures]
      dsimp only [List.getElem?_cons_zero]
      rw [commitMeta_eq hfamily.registered]
    rw [hcomplete, tasksOf_upsert, Table.get_insert]
    change (if id = numbered "bg" 0 then _ else s.tasks.get id) = _
    rw [hfamily.tasks]
    split
    · rfl
    · rfl
  have hparent : parentOf (tasksOf (s.background.complete 0 (.success ()) 0).store)
      (numbered "bg" 1) = some (numbered "bg" 0) := by
    rw [parentOf, hstored, if_neg hne, if_pos rfl]
    rfl
  have hhandles : (s.background.complete 0 (.success ()) 0).manager.handles.get (numbered "bg" 1) =
      some ⟨numbered "bg" 1, "thread", false⟩ := by
    have hkept : (s.background.complete 0 (.success ()) 0).manager = s.background.manager := by
      rw [Background.complete, hfamily.futures]
      rfl
    rw [hkept]
    exact hfamily.child
  have hroots : BackgroundTaskManager.rootTaskIds
      (s.background.complete 0 (.success ()) 0).store "run" = [] := by
    rw [BackgroundTaskManager.rootTaskIds, List.map_eq_nil_iff, List.filter_eq_nil_iff]
    intro record hmem
    obtain ⟨id, hget⟩ := Table.mem_values.mp hmem
    rw [hstored] at hget
    split at hget
    · rw [← Option.some.inj hget]
      decide
    · split at hget
      · rw [← Option.some.inj hget]
        decide
      · cases hget
  have hmark : Run (Turn "run") s _ _ := .cons (.complete 0 (.success ()) 0) (.cons (.mark hfamily.sweep)
    (.cons (.roots rfl) (.cons (.finish (congrArg Sweep.sweeping hroots)) (.nil _))))
  have hreach := hall orphanCodecs _ _ (hrun.append hmark) rfl (numbered "bg" 1)
    (childArgs.record (numbered "bg" 1)) ((hstored _).trans (by rw [if_neg hne, if_pos rfl])) rfl
    ⟨numbered "bg" 0, ⟨_, (hstored _).trans (if_pos rfl), rfl, rfl⟩,
      .single hparent⟩
    (fun c call hcall => by
      have hnone := (hfamily.calls c).symm.trans hcall
      cases hnone)
  obtain ⟨handle, hhandle, hcancelled⟩ := hreach
  rw [← Option.some.inj (hhandles.symm.trans hhandle)] at hcancelled
  cases hcancelled

end Awaken.Background
