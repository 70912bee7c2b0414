import Awaken.Lib.Forest
import Awaken.Background.RunCancellation

namespace Awaken.Background

open Awaken.Lib Awaken.State

variable {J : Type} {codecs : BackgroundCodecs J}

def parentOf (tasks : Table String (PersistedTaskMeta J)) (taskId : String) : Option String :=
  (tasks.get taskId).bind (·.parentContext.taskId)

def RootOf (tasks : Table String (PersistedTaskMeta J)) (runId taskId : String) : Prop :=
  ∃ record, tasks.get taskId = some record ∧ record.parentContext.taskId = none ∧
    record.parentContext.runId = some runId

def Lineage (tasks : Table String (PersistedTaskMeta J)) (runId taskId : String) : Prop :=
  ∃ root, RootOf tasks runId root ∧ Ancestor (parentOf tasks) taskId root

def InLineage (tasks : Table String (PersistedTaskMeta J)) (runId : String)
    (context : TaskParentContext) : Prop :=
  (context.taskId = none ∧ context.runId = some runId) ∨
    ∃ parent, context.taskId = some parent ∧ Lineage tasks runId parent

section Tree

variable {store : StateStore (backgroundKeys codecs)} {tasks : Table String (PersistedTaskMeta J)}

def Keyed (tasks : Table String (PersistedTaskMeta J)) : Prop :=
  ∀ taskId record, tasks.get taskId = some record → record.taskId = taskId

lemma mem_taskEdges (hkeyed : Keyed tasks) {a b : String} :
    (a, b) ∈ taskEdges tasks ↔ parentOf tasks b = some a := by
  rw [taskEdges, List.mem_filterMap]
  constructor
  · rintro ⟨record, hmem, hedge⟩
    obtain ⟨taskId, hget⟩ := Table.mem_values.mp hmem
    obtain ⟨parent, hparent, hpair⟩ := Option.map_eq_some_iff.mp hedge
    obtain ⟨rfl, rfl⟩ := Prod.mk.inj hpair
    rw [parentOf, hkeyed taskId record hget, hget]
    exact hparent
  · intro h
    obtain ⟨record, hget, hparent⟩ := Option.bind_eq_some_iff.mp h
    exact ⟨record, Table.mem_values.mpr ⟨b, hget⟩, by rw [hparent, hkeyed b record hget]; rfl⟩

theorem mem_taskTreeIds (hkeyed : Keyed (tasksOf store)) {root : String} {taskIds : List String}
    (h : taskTreeIds store root = some taskIds) (taskId : String) :
    taskId ∈ taskIds ↔ Ancestor (parentOf (tasksOf store)) taskId root := by
  unfold taskTreeIds at h
  split at h
  · rw [← Option.some.inj h, mem_walk_iff, Leads, Ancestor, ← Relation.reflTransGen_swap]
    have hedge : (fun a b => (a, b) ∈ taskEdges (tasksOf store)) =
        Function.swap (Parent (parentOf (tasksOf store))) := by
      funext a b
      exact propext (mem_taskEdges hkeyed)
    rw [hedge]
  · cases h

end Tree

section Changes

variable {tasks tasks' : Table String (PersistedTaskMeta J)} {runId taskId : String}

def SameContexts (tasks tasks' : Table String (PersistedTaskMeta J)) : Prop :=
  ∀ taskId, (tasks'.get taskId).map (·.parentContext) = (tasks.get taskId).map (·.parentContext)

lemma SameContexts.symm (h : SameContexts tasks tasks') : SameContexts tasks' tasks :=
  fun taskId => (h taskId).symm

lemma SameContexts.parentOf (h : SameContexts tasks tasks') : parentOf tasks' = parentOf tasks := by
  funext taskId
  have hcontext := congrArg (fun context => context.bind (·.taskId)) (h taskId)
  simp only [Option.bind_map] at hcontext
  exact hcontext

lemma SameContexts.rootOf (h : SameContexts tasks tasks') (hroot : RootOf tasks runId taskId) :
    RootOf tasks' runId taskId := by
  obtain ⟨record, hget, htask, hrun⟩ := hroot
  have hcontext := h taskId
  rw [hget] at hcontext
  obtain ⟨record', hget', hsame⟩ := Option.map_eq_some_iff.mp hcontext
  exact ⟨record', hget', by rw [hsame, htask], by rw [hsame, hrun]⟩

lemma SameContexts.lineage (h : SameContexts tasks tasks') :
    Lineage tasks' runId taskId ↔ Lineage tasks runId taskId := by
  constructor
  · rintro ⟨root, hroot, habove⟩
    exact ⟨root, h.symm.rootOf hroot, h.parentOf ▸ habove⟩
  · rintro ⟨root, hroot, habove⟩
    exact ⟨root, h.rootOf hroot, h.parentOf.symm ▸ habove⟩

def Closed (tasks : Table String (PersistedTaskMeta J)) : Prop :=
  ∀ taskId parent, parentOf tasks taskId = some parent → (tasks.get parent).isSome

variable {record : PersistedTaskMeta J} {root other : String}

lemma parentOf_insert (tasks : Table String (PersistedTaskMeta J)) (taskId other : String)
    (record : PersistedTaskMeta J) : parentOf (tasks.insert taskId record) other =
      if other = taskId then record.parentContext.taskId else parentOf tasks other := by
  rw [parentOf, Table.get_insert]
  split <;> rfl

lemma ne_of_isSome (hfresh : tasks.get taskId = none) (h : (tasks.get other).isSome) :
    other ≠ taskId := by
  rintro rfl
  rw [hfresh] at h
  cases h

lemma ancestor_insert (hfresh : tasks.get taskId = none) (hclosed : Closed tasks)
    (hother : other ≠ taskId) : Ancestor (parentOf (tasks.insert taskId record)) other root ↔
      Ancestor (parentOf tasks) other root := by
  constructor
  · intro h
    induction h using Relation.ReflTransGen.head_induction_on with
    | refl => exact .refl
    | @head a b hab _ ih =>
      have hparent : parentOf tasks a = some b := by
        rw [Parent, parentOf_insert, if_neg hother] at hab
        exact hab
      exact .head hparent (ih (ne_of_isSome hfresh (hclosed a b hparent)))
  · intro h
    induction h using Relation.ReflTransGen.head_induction_on with
    | refl => exact .refl
    | @head a b hab _ ih =>
      refine .head ?_ (ih (ne_of_isSome hfresh (hclosed a b hab)))
      rw [Parent, parentOf_insert, if_neg hother]
      exact hab

lemma ancestor_isSome (hclosed : Closed tasks) (hother : (tasks.get other).isSome)
    (h : Ancestor (parentOf tasks) other root) : (tasks.get root).isSome := by
  rcases Relation.ReflTransGen.cases_tail h with rfl | ⟨last, -, hlast⟩
  · exact hother
  · exact hclosed last root hlast

lemma rootOf_insert (hroot : root ≠ taskId) :
    RootOf (tasks.insert taskId record) runId root ↔ RootOf tasks runId root := by
  rw [RootOf, RootOf, Table.get_insert, if_neg hroot]

lemma lineage_insert_of_isSome (hfresh : tasks.get taskId = none) (hclosed : Closed tasks)
    (hother : (tasks.get other).isSome) :
    Lineage (tasks.insert taskId record) runId other ↔ Lineage tasks runId other := by
  have hne := ne_of_isSome hfresh hother
  constructor
  · rintro ⟨root, hroot, habove⟩
    have habove := (ancestor_insert hfresh hclosed hne).mp habove
    have hrootne := ne_of_isSome hfresh (ancestor_isSome hclosed hother habove)
    exact ⟨root, (rootOf_insert hrootne).mp hroot, habove⟩
  · rintro ⟨root, hroot, habove⟩
    have hrootne := ne_of_isSome hfresh (ancestor_isSome hclosed hother habove)
    exact ⟨root, (rootOf_insert hrootne).mpr hroot, (ancestor_insert hfresh hclosed hne).mpr habove⟩

lemma lineage_insert_self (hfresh : tasks.get taskId = none) (hclosed : Closed tasks)
    (hparent : ∀ parent, record.parentContext.taskId = some parent → (tasks.get parent).isSome) :
    Lineage (tasks.insert taskId record) runId taskId ↔
      InLineage tasks runId record.parentContext := by
  have hself : parentOf (tasks.insert taskId record) taskId = record.parentContext.taskId := by
    rw [parentOf_insert, if_pos rfl]
  have hget : (tasks.insert taskId record).get taskId = some record := by
    rw [Table.get_insert, if_pos rfl]
  cases hcontext : record.parentContext.taskId with
  | none =>
    constructor
    · rintro ⟨root, ⟨record', hget', hnone, hrun⟩, habove⟩
      obtain rfl := ancestor_of_none (hself.trans hcontext) habove
      obtain rfl := Option.some.inj (hget.symm.trans hget')
      exact .inl ⟨hnone, hrun⟩
    · rintro (⟨hnone, hrun⟩ | ⟨parent, hparent', -⟩)
      · exact ⟨taskId, ⟨record, hget, hnone, hrun⟩, .refl⟩
      · cases hcontext.symm.trans hparent'
  | some parent =>
    have hsome := hparent parent hcontext
    have hstep : Lineage (tasks.insert taskId record) runId taskId ↔
        Lineage (tasks.insert taskId record) runId parent := by
      constructor
      · rintro ⟨root, hroot, habove⟩
        rcases (ancestor_iff (hself.trans hcontext)).mp habove with rfl | habove
        · obtain ⟨record', hget', hnone, -⟩ := hroot
          obtain rfl := Option.some.inj (hget.symm.trans hget')
          cases hcontext.symm.trans hnone
        · exact ⟨root, hroot, habove⟩
      · rintro ⟨root, hroot, habove⟩
        exact ⟨root, hroot, (ancestor_iff (hself.trans hcontext)).mpr (.inr habove)⟩
    rw [hstep, lineage_insert_of_isSome hfresh hclosed hsome]
    constructor
    · exact fun h => .inr ⟨parent, hcontext, h⟩
    · rintro (⟨hnone, -⟩ | ⟨other, hother, h⟩)
      · cases hcontext.symm.trans hnone
      · rw [hcontext] at hother
        rw [Option.some.inj hother]
        exact h

end Changes

end Awaken.Background
