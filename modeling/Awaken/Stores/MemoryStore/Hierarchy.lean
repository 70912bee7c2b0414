import Awaken.Lib.Forest
import Awaken.Stores.MemoryStore.Calls
import Awaken.Stores.MemoryStore.Deletion

namespace Awaken.Stores.MemoryStore

open Awaken.Lib Awaken.Contract Awaken.Contract.Storage Awaken.Contract.MessageAppend
open InMemoryStore

variable {J C : Type}

def parentOf (threads : Table String (Thread J)) (threadId : String) : Option String :=
  (threads.get threadId).bind (·.parentThreadId)

structure Hierarchy (threads : Table String (Thread J)) : Prop where
  keyed : ∀ k thread, threads.get k = some thread → thread.id = k
  normal : ∀ k thread, threads.get k = some thread →
    normalizeLineageId thread.parentThreadId = thread.parentThreadId
  stored : ∀ k p, parentOf threads k = some p → (threads.get p).isSome
  forest : Forest (parentOf threads)

/-- The walk to the ancestors ends within a number of steps. -/
inductive ClimbEnds (threads : Table String (Thread J)) : Nat → List String → String → Prop
  | seen {n : Nat} {visited : List String} {current : String} :
      current ∈ visited → ClimbEnds threads (n + 1) visited current
  | missing {n : Nat} {visited : List String} {current : String} :
      threads.get current = none → ClimbEnds threads (n + 1) visited current
  | top {n : Nat} {visited : List String} {current : String} {thread : Thread J} :
      threads.get current = some thread → normalizeLineageId thread.parentThreadId = none →
      ClimbEnds threads (n + 1) visited current
  | up {n : Nat} {visited : List String} {current next : String} {thread : Thread J} :
      threads.get current = some thread → normalizeLineageId thread.parentThreadId = some next →
      ClimbEnds threads n (current :: visited) next → ClimbEnds threads (n + 1) visited current

section Climb

variable {threads : Table String (Thread J)} {root : String}

lemma mem_keys_of_get {k : String} {thread : Thread J} (h : threads.get k = some thread) :
    k ∈ threads.keys := by
  by_contra hk
  rw [Table.get_eq_none.mpr hk] at h
  cases h

lemma climbEnds {fuel : Nat} {visited : List String} {current : String}
    (hfuel : unseen threads.keys visited < fuel) : ClimbEnds threads fuel visited current := by
  induction fuel generalizing visited current with
  | zero => omega
  | succ fuel ih =>
    by_cases hseen : current ∈ visited
    · exact .seen hseen
    · cases hget : threads.get current with
      | none => exact .missing hget
      | some thread =>
        cases hparent : normalizeLineageId thread.parentThreadId with
        | none => exact .top hget hparent
        | some next =>
          have hless := unseen_cons_lt (mem_keys_of_get hget) hseen
          exact .up hget hparent (ih (by omega))

lemma climbHierarchy_ok (h : Hierarchy threads) {fuel : Nat} {visited : List String}
    {current : String} (hfuel : unseen threads.keys visited < fuel)
    (hok : climbHierarchy threads root fuel visited current = .ok ()) :
    (threads.get current).isSome ∧ ∀ k ∈ visited, ¬ Ancestor (parentOf threads) current k := by
  induction fuel generalizing visited current with
  | zero => omega
  | succ fuel ih =>
    rw [climbHierarchy] at hok
    split at hok
    · cases hok
    · rename_i hseen
      cases hget : threads.get current with
      | none =>
        rw [hget] at hok
        dsimp only at hok
        split at hok <;> cases hok
      | some thread =>
        refine ⟨rfl, fun k hk habove => ?_⟩
        have hne : current ≠ k := by
          rintro rfl
          exact hseen hk
        have hparentOf : parentOf threads current = thread.parentThreadId := by
          rw [parentOf, hget, Option.bind_some]
        have hnormal := h.normal current thread hget
        rw [hget] at hok
        dsimp only at hok
        cases hparent : thread.parentThreadId with
        | none => exact hne (ancestor_of_none (hparentOf.trans hparent) habove)
        | some next =>
          rw [hnormal, hparent] at hok
          have hless := unseen_cons_lt (mem_keys_of_get hget) hseen
          have hnext := (ih (by omega) hok).2 k (List.mem_cons_of_mem _ hk)
          exact ((ancestor_iff (hparentOf.trans hparent)).mp habove).elim hne hnext

lemma unseen_keys_lt (visited : List String) :
    unseen threads.keys visited < threads.entries.length + 1 := by
  have h := unseen_le threads.keys visited
  rw [Table.keys, List.length_map] at h
  exact Nat.lt_succ_of_le h

lemma validateHierarchy_ok (h : Hierarchy threads) {threadId p : String}
    (hok : validateThreadHierarchyMap threads threadId (some p) = .ok ())
    (hp : normalizeLineageId (some p) = some p) :
    (threads.get p).isSome ∧ ¬ Ancestor (parentOf threads) p threadId := by
  rw [validateThreadHierarchyMap, hp] at hok
  dsimp only at hok
  split at hok
  · cases hok
  · obtain ⟨hstored, habove⟩ := climbHierarchy_ok h (unseen_keys_lt _) hok
    exact ⟨hstored, habove threadId List.mem_cons_self⟩

end Climb

inductive ThreadsChange (threads : Table String (Thread J)) : Table String (Thread J) → Prop
  | same : ThreadsChange threads threads
  | edited {k : String} {old thread : Thread J} : threads.get k = some old → thread.id = old.id →
      thread.parentThreadId = old.parentThreadId → ThreadsChange threads (threads.insert k thread)
  | saved {k : String} {thread : Thread J} :
      (thread.id = k ∨ ∃ old, threads.get k = some old ∧ thread.id = old.id) →
      normalizeLineageId thread.parentThreadId = thread.parentThreadId →
      validateThreadHierarchyMap threads k thread.parentThreadId = .ok () →
      ThreadsChange threads (threads.insert k thread)

namespace Hierarchy

variable {threads threads' : Table String (Thread J)}

lemma mono (h : Hierarchy threads)
    (hget : ∀ k thread', threads'.get k = some thread' → ∃ thread, threads.get k = some thread ∧
      thread'.id = thread.id ∧ (thread'.parentThreadId = thread.parentThreadId ∨
        thread'.parentThreadId = none))
    (hstored : ∀ k p, parentOf threads' k = some p → (threads'.get p).isSome) :
    Hierarchy threads' := by
  refine ⟨fun k thread' hk => ?_, fun k thread' hk => ?_, hstored, ?_⟩
  · obtain ⟨thread, hold, hid, -⟩ := hget k thread' hk
    exact hid.trans (h.keyed k thread hold)
  · obtain ⟨thread, hold, -, hparent | hparent⟩ := hget k thread' hk
    · rw [hparent]
      exact h.normal k thread hold
    · rw [hparent]
      rfl
  · refine h.forest.mono (fun a b hab => ?_)
    obtain ⟨thread', hk, hb⟩ := Option.bind_eq_some_iff.mp hab
    obtain ⟨thread, hold, -, hparent | hparent⟩ := hget a thread' hk
    · rw [parentOf, hold, Option.bind_some, ← hparent, hb]
    · rw [hb] at hparent
      cases hparent

lemma insert (h : Hierarchy threads) {k : String} {thread : Thread J} (hid : thread.id = k)
    (hnormal : normalizeLineageId thread.parentThreadId = thread.parentThreadId)
    (hvalid : validateThreadHierarchyMap threads k thread.parentThreadId = .ok ()) :
    Hierarchy (threads.insert k thread) := by
  have hself : parentOf (threads.insert k thread) k = thread.parentThreadId := by
    rw [parentOf, Table.get_insert, if_pos rfl, Option.bind_some]
  have helse : ∀ a, a ≠ k → parentOf (threads.insert k thread) a = parentOf threads a := by
    intro a ha
    rw [parentOf, Table.get_insert, if_neg ha, parentOf]
  have hkept : ∀ p, (threads.get p).isSome → ((threads.insert k thread).get p).isSome := by
    intro p hp
    rw [Table.get_insert]
    split
    · rfl
    · exact hp
  refine ⟨fun j t hj => ?_, fun j t hj => ?_, fun j p hp => ?_, ?_⟩
  · rw [Table.get_insert] at hj
    split at hj
    · rename_i hjk
      rw [← Option.some.inj hj, hid, hjk]
    · exact h.keyed j t hj
  · rw [Table.get_insert] at hj
    split at hj
    · rw [← Option.some.inj hj, hnormal]
    · exact h.normal j t hj
  · by_cases hjk : j = k
    · subst hjk
      rw [hself] at hp
      rw [hp] at hvalid hnormal
      exact hkept p (validateHierarchy_ok h hvalid hnormal).1
    · rw [helse j hjk] at hp
      exact hkept p (h.stored j p hp)
  · cases hparent : thread.parentThreadId with
    | none =>
      refine h.forest.mono (fun a b hab => ?_)
      by_cases hak : a = k
      · rw [hak, hself, hparent] at hab
        cases hab
      · rwa [helse a hak] at hab
    | some p =>
      rw [hparent] at hvalid hnormal
      exact h.forest.reparent (validateHierarchy_ok h hvalid hnormal).2 (hself.trans hparent) helse

lemma change (h : Hierarchy threads) (hc : ThreadsChange threads threads') :
    Hierarchy threads' := by
  cases hc with
  | same => exact h
  | edited hold hid hparent =>
    rename_i k old thread
    have hget : ∀ j t, (threads.insert k thread).get j = some t → ∃ t₀, threads.get j = some t₀ ∧
        t.id = t₀.id ∧ t.parentThreadId = t₀.parentThreadId := by
      intro j t hj
      rw [Table.get_insert] at hj
      split at hj
      · rename_i hjk
        obtain rfl := Option.some.inj hj
        exact ⟨old, hjk ▸ hold, hid, hparent⟩
      · exact ⟨t, hj, rfl, rfl⟩
    refine h.mono (fun j t hj => ?_) (fun j p hp => ?_)
    · obtain ⟨t₀, ht₀, hid₀, hp₀⟩ := hget j t hj
      exact ⟨t₀, ht₀, hid₀, Or.inl hp₀⟩
    · obtain ⟨t, hj, hb⟩ := Option.bind_eq_some_iff.mp hp
      obtain ⟨t₀, ht₀, -, hp₀⟩ := hget j t hj
      have hstored : (threads.get p).isSome :=
        h.stored j p (by rw [parentOf, ht₀, Option.bind_some, ← hp₀, hb])
      rw [Table.get_insert]
      split
      · rfl
      · exact hstored
  | saved hid hnormal hvalid =>
    refine h.insert (hid.elim id ?_) hnormal hvalid
    rintro ⟨old, hold, heq⟩
    exact heq.trans (h.keyed _ old hold)

end Hierarchy

section Calls

variable {s : InMemoryStore J C} {threadId : String} {now : Nat} {run : RunRecord J}

lemma validateHierarchy_normalize (threads : Table String (Thread J)) (threadId : String)
    (parent : Option String) :
    validateThreadHierarchyMap threads threadId (normalizeLineageId parent) =
      validateThreadHierarchyMap threads threadId parent := by
  rw [validateThreadHierarchyMap, normalizeLineageId_normalizeLineageId, validateThreadHierarchyMap]

lemma parent_projectRun (existing : Option (Thread J)) (threadId : String) (now : Nat)
    (run : RunRecord J) :
    (projectRun existing threadId now run).parentThreadId = none ∨
      (projectRun existing threadId now run).parentThreadId =
        normalizeLineageId (checkpointParentThreadId existing run) := by
  have hparent : ((existing.getD (.withId threadId)).touch now).parentThreadId =
      existing.bind (·.parentThreadId) := by
    cases existing <;> rfl
  rw [projectRun, Thread.normalizeLineage]
  dsimp only
  rcases Thread.parent_applyRunProjection ((existing.getD (.withId threadId)).touch now) run with
    h | h
  · rw [h, hparent, checkpointParentThreadId]
    cases existing.bind (·.parentThreadId) with
    | none => exact Or.inl rfl
    | some p => exact Or.inr rfl
  · right
    rw [h, Thread.projectLatest, hparent, checkpointParentThreadId]
    cases existing.bind (·.parentThreadId) with
    | none => exact normalizeLineageId_normalizeLineageId _
    | some p => rfl

lemma id_projectRun (existing : Option (Thread J)) (threadId : String) (now : Nat)
    (run : RunRecord J) :
    (projectRun existing threadId now run).id = (existing.getD (.withId threadId)).id := by
  rw [projectRun, Thread.normalizeLineage]
  exact Thread.id_applyRunProjection _ run

lemma threads_touchMessages (s : InMemoryStore J C) (threadId : String) :
    (s.touchMessages threadId).threads = s.threads := by
  unfold touchMessages
  split <;> rfl

lemma threads_touchPending (s : InMemoryStore J C) (threadId : String) :
    (s.touchPending threadId).threads = s.threads := by
  unfold touchPending
  split <;> rfl

lemma threads_appendPending (s : InMemoryStore J C) (gen : Nat → String) (now : Nat)
    (threadId : String) (messages : List (Message J C)) (mode : DeliveryMode) :
    (s.appendPendingMessageRecords gen now threadId messages mode).2.threads = s.threads := by
  unfold appendPendingMessageRecords
  dsimp only
  split <;> exact threads_touchPending s threadId

lemma threads_freezeSelected (s : InMemoryStore J C) (gen : Nat → String) (threadId : String)
    (indexes : List Nat) : (s.freezeSelected gen threadId indexes).2.threads = s.threads := by
  unfold freezeSelected
  dsimp only
  split <;> exact threads_touchMessages s threadId

lemma threads_freezePending (s : InMemoryStore J C) (gen : Nat → String) (threadId : String)
    (boundary : DeliveryBoundary) (expected : Option Nat) :
    (s.freezePendingMessageRecords gen threadId boundary expected).2.threads = s.threads := by
  have h := threads_touchMessages s threadId
  unfold freezePendingMessageRecords
  dsimp only
  split
  · exact h
  · split
    · exact h
    · split
      · exact h
      · rw [threads_freezeSelected, h]

lemma threadsChange_storeRun {u : InMemoryStore J C} (hu : u.threads = s.threads)
    (hvalid : validateThreadHierarchyMap s.threads threadId
      (checkpointParentThreadId (s.threads.get threadId) run) = .ok ()) :
    ThreadsChange s.threads (u.storeRun threadId now run).threads := by
  rw [storeRun, putRun, hu]
  refine .saved ?_ ?_ ?_
  · rw [id_projectRun]
    cases hold : s.threads.get threadId with
    | none => exact Or.inl rfl
    | some old => exact Or.inr ⟨old, rfl, rfl⟩
  · exact normalizeLineageId_normalizeLineageId _
  · rcases parent_projectRun (s.threads.get threadId) threadId now run with h | h
    · rw [h]
      rfl
    · rw [h, validateHierarchy_normalize, hvalid]

lemma threadsChange_freezeExpected {u : InMemoryStore J C} (hu : u.threads = s.threads)
    (gen : Nat → String) (boundary : DeliveryBoundary) (ids : List String)
    (hvalid : validateThreadHierarchyMap s.threads threadId
      (checkpointParentThreadId (s.threads.get threadId) run) = .ok ()) :
    ThreadsChange s.threads (u.freezeExpected gen now threadId boundary ids run).2.threads := by
  unfold freezeExpected
  dsimp only
  split
  · rw [hu]
    exact .same
  · have h := threads_freezeSelected u gen threadId
      (selectPendingForFreezeForRun (u.pending threadId) boundary (some run.runId))
    split
    · rename_i heq
      rw [heq] at h
      dsimp only at h ⊢
      rw [h, hu]
      exact .same
    · rename_i heq
      rw [heq] at h
      exact threadsChange_storeRun (h.trans hu) hvalid

variable [DecidableEq J]

lemma checkRun_ok (h : s.checkRun threadId run = .ok ()) :
    validateThreadHierarchyMap s.threads threadId
      (checkpointParentThreadId (s.threads.get threadId) run) = .ok () := by
  obtain ⟨_, -, h⟩ := bind_ok h
  exact h

lemma checkFreeze_ok {expected : Option Nat} (h : s.checkFreeze threadId expected run = .ok ()) :
    validateThreadHierarchyMap s.threads threadId
      (checkpointParentThreadId (s.threads.get threadId) run) = .ok () := by
  obtain ⟨_, hrun, -⟩ := bind_ok h
  exact checkRun_ok hrun

def StoreCall.KeepsHierarchy : StoreCall J C → Prop
  | .saveThread _ | .deleteThread _ => False
  | _ => True

lemma threadsChange_exec (draw : Draw) (s : InMemoryStore J C) {call : StoreCall J C}
    (h : call.KeepsHierarchy) : ThreadsChange s.threads (s.exec draw call).2.threads := by
  cases call with
  | saveThread thread => exact h.elim
  | saveThreadValidated thread =>
    rw [exec]
    unfold saveThreadValidated Reply.tag
    dsimp only
    split
    · exact .same
    · split
      · exact .same
      · rename_i hvalid
        exact .saved (Or.inl rfl) (normalizeLineageId_normalizeLineageId _) hvalid
  | deleteThread threadId => exact h.elim
  | saveThreadState threadId state => exact .same
  | updateThreadMetadata id metadata =>
    rw [exec]
    unfold updateThreadMetadata Reply.tag
    split
    · exact .same
    · rename_i hget
      exact .edited hget rfl rfl
  | saveMessages threadId messages =>
    rw [exec]
    unfold saveMessages Reply.tag
    split <;> exact .same
  | appendMessageRecords threadId messages =>
    have ht := threads_touchMessages s threadId
    rw [exec]
    unfold appendMessageRecords Reply.tag
    dsimp only
    split
    · dsimp only
      rw [ht]
      exact .same
    · dsimp only [putMessages]
      rw [ht]
      exact .same
  | deleteMessages threadId =>
    rw [exec]
    unfold deleteMessages Reply.tag
    split <;> exact .same
  | createRun record =>
    rw [exec]
    unfold createRun Reply.tag
    split
    · exact .same
    · split <;> exact .same
  | checkpoint threadId messages run =>
    rw [exec]
    unfold checkpoint Reply.tag
    split
    · exact .same
    · rename_i hcheck
      obtain ⟨_, -, hcheck⟩ := bind_ok hcheck
      obtain ⟨_, -, hvalid⟩ := bind_ok hcheck
      exact threadsChange_storeRun rfl hvalid
  | checkpointAppend threadId messages expectedVersion run =>
    have ht := threads_touchMessages s threadId
    rw [exec]
    unfold checkpointAppend Reply.tag
    split
    · exact .same
    · rename_i hcheck
      split
      · exact .same
      · dsimp only
        split
        · dsimp only
          rw [ht]
          exact .same
        · exact threadsChange_storeRun ht (checkRun_ok hcheck)
  | appendPending threadId messages mode =>
    have ht := threads_appendPending s draw.gen draw.now threadId messages mode
    rw [exec, Reply.tag]
    dsimp only
    rw [ht]
    exact .same
  | updatePending threadId pendingId expectedRevision message =>
    rw [exec]
    unfold updatePendingMessageRecordChecked Reply.tag
    dsimp only
    split
    · split <;> exact .same
    · exact .same
  | retractPending threadId pendingId expectedRevision =>
    rw [exec]
    unfold retractPendingMessageRecordChecked Reply.tag
    dsimp only
    split
    · split <;> exact .same
    · exact .same
  | reorderPending threadId expectedQueueRevision ids =>
    rw [exec]
    unfold reorderPendingMessageRecordsChecked Reply.tag
    split
    · exact .same
    · split
      · exact .same
      · split
        · exact .same
        · split <;> exact .same
  | freezePending threadId boundary expected =>
    have ht := threads_freezePending s draw.gen threadId boundary expected
    rw [exec, Reply.tag]
    dsimp only
    rw [ht]
    exact .same
  | freezePendingWithRun threadId boundary expected ids run =>
    rw [exec]
    unfold freezePendingMessageRecordsWithRun Reply.tag
    split
    · exact .same
    · rename_i hcheck
      exact threadsChange_freezeExpected (threads_touchPending s threadId) draw.gen boundary ids
        (checkFreeze_ok hcheck)
  | appendAndFreezePendingWithRun threadId messages mode boundary expected ids run =>
    rw [exec]
    unfold appendAndFreezePendingMessageRecordsWithRun Reply.tag
    split
    · exact .same
    · rename_i hcheck
      have ht := threads_appendPending s draw.gen draw.now threadId messages mode
      split
      · rename_i heq
        rw [heq] at ht
        dsimp only at ht ⊢
        rw [ht]
        exact .same
      · rename_i heq
        rw [heq] at ht
        exact threadsChange_freezeExpected ht draw.gen boundary ids (checkFreeze_ok hcheck)

end Calls

section Deletion

variable {s : InMemoryStore J C} {threadId : String}

lemma Hierarchy.mem_children {threads : Table String (Thread J)} (h : Hierarchy threads)
    {k p : String} {thread : Thread J} (hk : threads.get k = some thread)
    (hp : thread.parentThreadId = some p) : k ∈ collectChildIds threads p :=
  mem_collectChildIds.mpr ⟨k, thread, hk, hp, h.keyed k thread hk⟩

lemma Hierarchy.remove {threads threads' : Table String (Thread J)} (h : Hierarchy threads)
    {ids : List String} (hclosed : ∀ p ∈ ids, ∀ c ∈ collectChildIds threads p, c ∈ ids)
    (hget : ∀ k, threads'.get k = if k ∈ ids then none else threads.get k) :
    Hierarchy threads' := by
  have hkept : ∀ k thread', threads'.get k = some thread' → threads.get k = some thread' ∧
      k ∉ ids := by
    intro k thread' hk
    rw [hget] at hk
    split at hk
    · cases hk
    · rename_i hnot
      exact ⟨hk, hnot⟩
  refine h.mono (fun k thread' hk => ⟨thread', (hkept k thread' hk).1, rfl, Or.inl rfl⟩)
    (fun k p hp => ?_)
  obtain ⟨thread', hk, hparent⟩ := Option.bind_eq_some_iff.mp hp
  obtain ⟨hold, hnot⟩ := hkept k thread' hk
  have hpnot : p ∉ ids := fun hin => hnot (hclosed p hin k (h.mem_children hold hparent))
  rw [hget, if_neg hpnot]
  exact h.stored k p (by rw [parentOf, hold, Option.bind_some, hparent])

lemma Hierarchy.detach (h : Hierarchy s.threads) (now : Nat) (threadId : String) :
    Hierarchy ((s.detachChildren now threadId).removeThread threadId).threads := by
  have hget : ∀ k, ((s.detachChildren now threadId).removeThread threadId).threads.get k =
      if k = threadId then none
      else if k ∈ collectChildIds s.threads threadId then (s.threads.get k).map (detached now)
      else s.threads.get k := by
    intro k
    rw [removeThread, Table.get_remove, get_detachChildren]
  refine h.mono (fun k thread' hk => ?_) (fun k p hp => ?_)
  · rw [hget] at hk
    split at hk
    · cases hk
    · split at hk
      · obtain ⟨thread, hold, rfl⟩ := Option.map_eq_some_iff.mp hk
        exact ⟨thread, hold, rfl, Or.inr rfl⟩
      · exact ⟨thread', hk, rfl, Or.inl rfl⟩
  · obtain ⟨thread', hk, hparent⟩ := Option.bind_eq_some_iff.mp hp
    rw [hget] at hk
    split at hk
    · cases hk
    · split at hk
      · obtain ⟨thread, -, rfl⟩ := Option.map_eq_some_iff.mp hk
        cases hparent
      · rename_i hchild
        have hne : p ≠ threadId := by
          rintro rfl
          exact hchild (h.mem_children hk hparent)
        have hstored := h.stored k p (by rw [parentOf, hk, Option.bind_some, hparent])
        rw [hget, if_neg hne]
        split
        · rw [Option.isSome_map]
          exact hstored
        · exact hstored

lemma Hierarchy.deleteThreadWithStrategy (h : Hierarchy s.threads) (now : Nat) (threadId : String)
    (strategy : ChildThreadDeleteStrategy) :
    Hierarchy (s.deleteThreadWithStrategy now threadId strategy).2.threads := by
  unfold InMemoryStore.deleteThreadWithStrategy
  split
  · exact h
  · cases strategy with
    | reject =>
      dsimp only
      split
      · exact h
      · rename_i hempty
        have hnone : collectChildIds s.threads threadId = [] := by simpa using hempty
        have hclosed : ∀ p ∈ [threadId], ∀ c ∈ collectChildIds s.threads p, c ∈ [threadId] := by
          intro p hp c hc
          rw [List.mem_singleton.mp hp, hnone] at hc
          cases hc
        refine h.remove hclosed (fun k => ?_)
        rw [removeThread, Table.get_remove]
        simp only [List.mem_singleton]
    | detach => exact h.detach now threadId
    | cascade =>
      dsimp only
      split
      · rename_i deleteOrder horder
        have hclosed := cascadeOrder_ok ⟨Or.inr List.mem_cons_self, by simp, by simp, by simp,
          by simp⟩ horder
        exact h.remove hclosed.children (fun _ => get_foldl_removeThread)
      · exact h
      · exact h

end Deletion

inductive HierarchyCall (J C : Type) where
  | store (call : StoreCall J C)
  | deleteWithStrategy (threadId : String) (strategy : ChildThreadDeleteStrategy)

/-- A call that checks the hierarchy, or a deletion that looks after the children. -/
def HierarchyStep [DecidableEq J] (s : InMemoryStore J C) (call : HierarchyCall J C)
    (s' : InMemoryStore J C) : Prop :=
  match call with
  | .store call => call.KeepsHierarchy ∧ StoreStep s call s'
  | .deleteWithStrategy threadId strategy =>
    ∃ now, (s.deleteThreadWithStrategy now threadId strategy).2 = s'

lemma Hierarchy.new : Hierarchy (InMemoryStore.new : InMemoryStore J C).threads := by
  refine ⟨fun k thread h => ?_, fun k thread h => ?_, fun k p h => ?_, fun a => ⟨_, ?_⟩⟩
  · cases h
  · cases h
  · cases h
  · intro b h
    cases h

theorem hierarchy_of_reachable [DecidableEq J] {s : InMemoryStore J C}
    (h : Reachable HierarchyStep .new s) : Hierarchy s.threads := by
  refine h.invariant (I := fun s => Hierarchy s.threads) Hierarchy.new (fun s call s' hstep hs => ?_)
  cases call with
  | store call =>
    obtain ⟨hkeeps, draw, rfl⟩ := hstep
    exact hs.change (threadsChange_exec draw s hkeeps)
  | deleteWithStrategy threadId strategy =>
    obtain ⟨now, rfl⟩ := hstep
    exact hs.deleteThreadWithStrategy now threadId strategy

/-- In every state that checked calls and deletions lead to, the parents are stored threads, no
thread is above itself, every way up ends, and so does the walk of the check. -/
theorem threads_form_forest [DecidableEq J] {s : InMemoryStore J C}
    (h : Reachable HierarchyStep .new s) :
    (∀ k thread p, s.threads.get k = some thread → thread.parentThreadId = some p →
      (s.threads.get p).isSome) ∧
    (∀ k, ¬ Relation.TransGen (Parent (parentOf s.threads)) k k) ∧ Forest (parentOf s.threads) ∧
    ∀ k p, ClimbEnds s.threads (s.threads.entries.length + 1) [k] p := by
  have hh := hierarchy_of_reachable h
  refine ⟨fun k thread p hk hp => ?_, hh.forest.not_above_self, hh.forest, fun k p => ?_⟩
  · exact hh.stored k p (by rw [parentOf, hk, Option.bind_some, hp])
  · exact climbEnds (unseen_keys_lt [k])

section Family

def threadUnder (id : String) (parent : Option String) : Thread Unit :=
  { Thread.withId id with parentThreadId := parent }

def saveFamily (s : InMemoryStore Unit Unit) (thread : Thread Unit) : InMemoryStore Unit Unit :=
  (s.exec ⟨0, fun _ => ""⟩ (.saveThreadValidated thread)).2

lemma saveFamily_step (s : InMemoryStore Unit Unit) (thread : Thread Unit) :
    HierarchyStep s (.store (.saveThreadValidated thread)) (saveFamily s thread) :=
  ⟨trivial, ⟨0, fun _ => ""⟩, rfl⟩

def rootedStore : InMemoryStore Unit Unit :=
  saveFamily (saveFamily .new (threadUnder "root" none)) (threadUnder "child" (some "root"))

def familyStore : InMemoryStore Unit Unit :=
  saveFamily rootedStore (threadUnder "leaf" (some "child"))

theorem threads_form_forest_detached :
    ∃ s : InMemoryStore Unit Unit, Reachable HierarchyStep .new s ∧
      parentOf familyStore.threads "child" = some "root" ∧
      (familyStore.saveThreadValidated (threadUnder "root" (some "leaf"))).1.isOk = false ∧
      s.threads.get "root" = none ∧ parentOf s.threads "child" = none ∧
      parentOf s.threads "leaf" = some "child" ∧ (s.threads.get "child").isSome ∧
      (∀ k, ¬ Relation.TransGen (Parent (parentOf s.threads)) k k) ∧ Forest (parentOf s.threads) ∧
      ∀ k p, ClimbEnds s.threads (s.threads.entries.length + 1) [k] p := by
  have hchildren : collectChildIds familyStore.threads "root" = ["child"] := by
    rw [collectChildIds, ← List.mergeSort_singleton "child"]
    rfl
  have hdetached : (familyStore.deleteThreadWithStrategy 1 "root" .detach).2.threads =
      (familyStore.threads.modify "child" (detached 1)).remove "root" := by
    change Table.remove ((collectChildIds familyStore.threads "root").foldl _ _) "root" = _
    rw [hchildren]
    rfl
  have hrefused : HierarchyStep familyStore (.store (.saveThreadValidated
      (threadUnder "root" (some "leaf")))) familyStore := saveFamily_step _ _
  have hdelete : HierarchyStep familyStore (.deleteWithStrategy "root" .detach)
      (familyStore.deleteThreadWithStrategy 1 "root" .detach).2 := ⟨1, rfl⟩
  have hreach : Reachable HierarchyStep .new
      (familyStore.deleteThreadWithStrategy 1 "root" .detach).2 :=
    ⟨_, .cons (saveFamily_step _ _) (.cons (saveFamily_step _ _) (.cons (saveFamily_step _ _)
      (.cons hrefused (.single hdelete))))⟩
  have hforest := threads_form_forest hreach
  refine ⟨_, hreach, rfl, rfl, ?_, ?_, ?_,
    hforest.1 "leaf" (threadUnder "leaf" (some "child")) "child" ?_ rfl, hforest.2⟩
  all_goals rw [hdetached]; rfl

end Family

end Awaken.Stores.MemoryStore
