import Awaken.Stores.MemoryStore.Hierarchy

namespace Awaken.Stores.MemoryStore

open Awaken.Lib Awaken.Contract Awaken.Contract.Storage InMemoryStore

variable {J C : Type}

/-- All calls that write the store. -/
def DeletionStep [DecidableEq J] (s : InMemoryStore J C) (call : HierarchyCall J C)
    (s' : InMemoryStore J C) : Prop :=
  match call with
  | .store call => StoreStep s call s'
  | .deleteWithStrategy threadId strategy =>
    ∃ now, (s.deleteThreadWithStrategy now threadId strategy).2 = s'

/-- The threads that a deletion is for: with a cascade all from which a way up leads to the one. -/
def Deleted (threads : Table String (Thread J)) (threadId : String) :
    ChildThreadDeleteStrategy → String → Prop
  | .cascade, id => Ancestor (parentOf threads) id threadId
  | _, id => id = threadId

structure DeletesExactly (s s' : InMemoryStore J C) (now : Nat) (threadId : String)
    (strategy : ChildThreadDeleteStrategy) : Prop where
  gone : ∀ id, Deleted s.threads threadId strategy id → s'.threads.get id = none ∧
    s'.messages.get id = none ∧ s'.pendingMessages.get id = none ∧ s'.threadStates.get id = none
  kept : ∀ id, ¬Deleted s.threads threadId strategy id →
    s'.messages.get id = s.messages.get id ∧
      s'.pendingMessages.get id = s.pendingMessages.get id ∧
      s'.threadStates.get id = s.threadStates.get id
  threads : ∀ id, ¬Deleted s.threads threadId strategy id →
    ¬(strategy = .detach ∧ parentOf s.threads id = some threadId) →
      s'.threads.get id = s.threads.get id
  detaches : ∀ id, ¬Deleted s.threads threadId strategy id → strategy = .detach →
    parentOf s.threads id = some threadId →
      s'.threads.get id = (s.threads.get id).map (detached now)
  runs : s'.runs = s.runs ∧ s'.runInsertion = s.runInsertion ∧ s'.runSeq = s.runSeq

section Keyed

variable {s s' : InMemoryStore J C}

def ThreadsKeyed (threads : Table String (Thread J)) : Prop :=
  ∀ k thread, threads.get k = some thread → thread.id = k

lemma ThreadsKeyed.insert {threads : Table String (Thread J)} (h : ThreadsKeyed threads)
    {k : String} {thread : Thread J} (hk : thread.id = k) : ThreadsKeyed (threads.insert k thread) := by
  intro j t hj
  rw [Table.get_insert] at hj
  split at hj
  · rename_i heq
    cases hj
    rw [hk, heq]
  · exact h j t hj

lemma ThreadsKeyed.mono {threads threads' : Table String (Thread J)} (h : ThreadsKeyed threads)
    (hget : ∀ k t', threads'.get k = some t' → ∃ t, threads.get k = some t ∧ t'.id = t.id) :
    ThreadsKeyed threads' := by
  intro k t' hk
  obtain ⟨t, hold, hid⟩ := hget k t' hk
  exact hid.trans (h k t hold)

lemma ThreadsKeyed.change {threads threads' : Table String (Thread J)} (h : ThreadsKeyed threads)
    (hc : ThreadsChange threads threads') : ThreadsKeyed threads' := by
  cases hc with
  | same => exact h
  | edited hold hid _ => exact h.insert (hid.trans (h _ _ hold))
  | saved hid _ _ =>
    rcases hid with hid | ⟨old, hold, hid⟩
    · exact h.insert hid
    · exact h.insert (hid.trans (h _ _ hold))

lemma ThreadsKeyed.remove {threads : Table String (Thread J)} (h : ThreadsKeyed threads)
    (id : String) : ThreadsKeyed (threads.remove id) := by
  refine h.mono (fun k t hk => ?_)
  rw [Table.get_remove] at hk
  split at hk
  · cases hk
  · exact ⟨t, hk, rfl⟩

lemma ThreadsKeyed.exec [DecidableEq J] (h : ThreadsKeyed s.threads) (draw : Draw)
    (call : StoreCall J C) : ThreadsKeyed (s.exec draw call).2.threads := by
  by_cases hkeeps : call.KeepsHierarchy
  · exact h.change (threadsChange_exec draw s hkeeps)
  · cases call with
    | saveThread thread =>
      rw [InMemoryStore.exec, Reply.tag]
      unfold InMemoryStore.saveThread
      dsimp only
      split
      · exact h
      · exact h.insert rfl
    | deleteThread threadId => exact h.remove threadId
    | _ => exact absurd trivial hkeeps

lemma ThreadsKeyed.delete (h : ThreadsKeyed s.threads) (now : Nat) (threadId : String)
    (strategy : ChildThreadDeleteStrategy) :
    ThreadsKeyed (s.deleteThreadWithStrategy now threadId strategy).2.threads := by
  unfold InMemoryStore.deleteThreadWithStrategy
  split
  · exact h
  · cases strategy with
    | reject =>
      dsimp only
      split
      · exact h
      · exact h.remove threadId
    | detach =>
      refine ThreadsKeyed.remove (h.mono (fun k t hk => ?_)) threadId
      rw [get_detachChildren] at hk
      split at hk
      · obtain ⟨thread, hold, rfl⟩ := Option.map_eq_some_iff.mp hk
        exact ⟨thread, hold, rfl⟩
      · exact ⟨t, hk, rfl⟩
    | cascade =>
      dsimp only
      split
      · refine h.mono (fun k t hk => ?_)
        rw [get_foldl_removeThread] at hk
        split at hk
        · cases hk
        · exact ⟨t, hk, rfl⟩
      · exact h
      · exact h

lemma threadsKeyed_of_reachable [DecidableEq J] (h : Reachable DeletionStep .new s) :
    ThreadsKeyed s.threads := by
  refine h.invariant (I := fun s => ThreadsKeyed s.threads) (fun k t hk => ?_)
    (fun s call s' hstep hs => ?_)
  · cases hk
  · cases call with
    | store call =>
      obtain ⟨draw, rfl⟩ := hstep
      exact hs.exec draw call
    | deleteWithStrategy threadId strategy =>
      obtain ⟨now, rfl⟩ := hstep
      exact hs.delete now threadId strategy

lemma ThreadsKeyed.mem_children {threads : Table String (Thread J)} (h : ThreadsKeyed threads)
    {c p : String} : c ∈ collectChildIds threads p ↔ parentOf threads c = some p := by
  rw [mem_collectChildIds, parentOf, Option.bind_eq_some_iff]
  constructor
  · rintro ⟨k, thread, hk, hparent, rfl⟩
    rw [h k thread hk]
    exact ⟨thread, hk, hparent⟩
  · rintro ⟨thread, hk, hparent⟩
    exact ⟨c, thread, hk, hparent, h c thread hk⟩

end Keyed

section Cascade

variable {threads : Table String (Thread J)} {root : String}

lemma cascadeOrder_below (h : ThreadsKeyed threads) {fuel : Nat} {visited deleteOrder : List String}
    {stack : List (String × Bool)} {result : List String}
    (hstack : ∀ e ∈ stack, Ancestor (parentOf threads) e.1 root)
    (hdone : ∀ id ∈ deleteOrder, Ancestor (parentOf threads) id root)
    (hok : cascadeOrder threads root fuel visited stack deleteOrder = some (.ok result)) :
    ∀ id ∈ result, Ancestor (parentOf threads) id root := by
  induction fuel generalizing visited stack deleteOrder with
  | zero => cases hok
  | succ fuel ih =>
    rcases stack with - | ⟨⟨current, expanded⟩, stack⟩
    · obtain rfl : deleteOrder = result := by simpa [cascadeOrder] using hok
      exact hdone
    · have hcurrent : Ancestor (parentOf threads) current root := hstack _ List.mem_cons_self
      have hrest : ∀ e ∈ stack, Ancestor (parentOf threads) e.1 root :=
        fun e he => hstack e (List.mem_cons_of_mem _ he)
      cases expanded with
      | true =>
        refine ih hrest (fun id hid => ?_) hok
        rcases List.mem_append.mp hid with hid | hid
        · exact hdone id hid
        · rw [List.mem_singleton.mp hid]
          exact hcurrent
      | false =>
        rw [cascadeOrder] at hok
        split at hok
        · cases hok
        · refine ih (fun e he => ?_) hdone hok
          rcases List.mem_append.mp he with he | he
          · obtain ⟨c, hc, rfl⟩ := List.mem_map.mp he
            exact (ancestor_iff (h.mem_children.mp hc)).mpr (.inr hcurrent)
          · rcases List.mem_cons.mp he with rfl | he
            · exact hcurrent
            · exact hrest e he

lemma ClosedBelow.below (h : ThreadsKeyed threads) {deleteOrder : List String}
    (hclosed : ClosedBelow threads root deleteOrder) {id : String}
    (habove : Ancestor (parentOf threads) id root) : id ∈ deleteOrder := by
  induction habove using Relation.ReflTransGen.head_induction_on with
  | refl => exact hclosed.root
  | head hparent _ ih => exact hclosed.children _ ih _ (h.mem_children.mpr hparent)

lemma cascade_exact (h : ThreadsKeyed threads) {deleteOrder : List String}
    (hok : cascadeOrder threads root (cascadeFuel threads) [] [(root, false)] [] =
      some (.ok deleteOrder)) (id : String) :
    id ∈ deleteOrder ↔ Ancestor (parentOf threads) id root := by
  constructor
  · intro hid
    refine cascadeOrder_below h (fun e he => ?_) (by simp) hok id hid
    rw [List.mem_singleton.mp he]
    exact .refl
  · exact (cascadeOrder_ok ⟨Or.inr List.mem_cons_self, by simp, by simp, by simp, by simp⟩ hok).below h

end Cascade

section Remove

variable {s : InMemoryStore J C} {ids : List String}

lemma foldl_removeThread : ∀ k,
    (ids.foldl removeThread s).messages.get k = (if k ∈ ids then none else s.messages.get k) ∧
    (ids.foldl removeThread s).pendingMessages.get k =
      (if k ∈ ids then none else s.pendingMessages.get k) := by
  induction ids generalizing s with
  | nil => simp
  | cons id ids ih =>
    intro k
    rw [List.foldl_cons, (ih k).1, (ih k).2]
    simp only [removeThread, Table.get_remove, List.mem_cons]
    by_cases hk : k = id <;> simp [hk]

lemma foldl_removeThread_rest :
    (ids.foldl removeThread s).threadStates = s.threadStates ∧
      (ids.foldl removeThread s).runs = s.runs ∧
      (ids.foldl removeThread s).runInsertion = s.runInsertion ∧
      (ids.foldl removeThread s).runSeq = s.runSeq := by
  induction ids generalizing s with
  | nil => exact ⟨rfl, rfl, rfl, rfl⟩
  | cons id ids ih => exact ih

lemma delete_ok (h : ThreadsKeyed s.threads) {now : Nat} {threadId : String}
    {strategy : ChildThreadDeleteStrategy}
    (hok : (s.deleteThreadWithStrategy now threadId strategy).1 = .ok ()) :
    ∃ ids : List String, (∀ id, id ∈ ids ↔ Deleted s.threads threadId strategy id) ∧
      (s.deleteThreadWithStrategy now threadId strategy).2 = ids.foldl removeThread
        (if strategy = .detach then s.detachChildren now threadId else s) := by
  unfold InMemoryStore.deleteThreadWithStrategy at hok ⊢
  split at hok
  · cases hok
  · cases strategy with
    | reject =>
      dsimp only at hok ⊢
      split at hok
      · cases hok
      · rename_i hchildren
        rw [if_neg hchildren]
        exact ⟨[threadId], fun id => List.mem_singleton, rfl⟩
    | detach => exact ⟨[threadId], fun id => List.mem_singleton, rfl⟩
    | cascade =>
      dsimp only at hok ⊢
      split at hok
      · rename_i deleteOrder horder
        exact ⟨deleteOrder, fun id => cascade_exact h horder id, rfl⟩
      · cases hok
      · rename_i hnone
        have hends := cascade_ends s.threads threadId
        rw [hnone] at hends
        cases hends

end Remove

/-- Exactly when no deleted thread has a stored state is all of it removed, and nothing else. -/
theorem deletes_exactly_iff [DecidableEq J] {s : InMemoryStore J C}
    (h : Reachable DeletionStep .new s) (now : Nat) (threadId : String)
    (strategy : ChildThreadDeleteStrategy)
    (hok : (s.deleteThreadWithStrategy now threadId strategy).1 = .ok ()) :
    DeletesExactly s (s.deleteThreadWithStrategy now threadId strategy).2 now threadId strategy ↔
      ∀ id, Deleted s.threads threadId strategy id → s.threadStates.get id = none := by
  have hkeyed := threadsKeyed_of_reachable h
  obtain ⟨ids, hids, hstore⟩ := delete_ok hkeyed hok
  rw [hstore]
  generalize hbase : (if strategy = .detach then s.detachChildren now threadId else s) = base
  have hsame : base.messages = s.messages ∧ base.pendingMessages = s.pendingMessages ∧
      base.threadStates = s.threadStates ∧ base.runs = s.runs ∧
      base.runInsertion = s.runInsertion ∧ base.runSeq = s.runSeq := by
    rw [← hbase]
    split <;> exact ⟨rfl, rfl, rfl, rfl, rfl, rfl⟩
  obtain ⟨hmessages, hpending, hstates, hruns, hinsertion, hseq⟩ := hsame
  obtain ⟨hstates', hruns', hinsertion', hseq'⟩ : (ids.foldl removeThread base).threadStates = _ ∧
    (ids.foldl removeThread base).runs = _ ∧ (ids.foldl removeThread base).runInsertion = _ ∧
      (ids.foldl removeThread base).runSeq = _ := foldl_removeThread_rest
  have hthreads : ∀ k, base.threads.get k =
      if strategy = .detach ∧ parentOf s.threads k = some threadId then
        (s.threads.get k).map (detached now) else s.threads.get k := by
    intro k
    rw [← hbase]
    split
    · rename_i hdetach
      rw [get_detachChildren]
      simp only [hkeyed.mem_children, hdetach, true_and]
    · rename_i hdetach
      simp [hdetach]
  have hgone : ∀ id, Deleted s.threads threadId strategy id →
      (ids.foldl removeThread base).threads.get id = none ∧
      (ids.foldl removeThread base).messages.get id = none ∧
      (ids.foldl removeThread base).pendingMessages.get id = none := by
    intro id hid
    have hmem := (hids id).mpr hid
    rw [get_foldl_removeThread, (foldl_removeThread id).1, (foldl_removeThread id).2]
    simp only [if_pos hmem, and_self]
  constructor
  · intro hexact id hid
    have hstate := (hexact.gone id hid).2.2.2
    rwa [hstates', hstates] at hstate
  · intro hnone
    refine ⟨fun id hid => ?_, fun id hid => ?_, fun id hid hother => ?_, fun id hid hdetach hchild => ?_,
      hruns'.trans hruns, hinsertion'.trans hinsertion, hseq'.trans hseq⟩
    · obtain ⟨h₁, h₂, h₃⟩ := hgone id hid
      exact ⟨h₁, h₂, h₃, by rw [hstates', hstates, hnone id hid]⟩
    · have hmem := fun hin => hid ((hids id).mp hin)
      rw [(foldl_removeThread id).1, (foldl_removeThread id).2, hstates', hstates, if_neg hmem,
        if_neg hmem, hmessages, hpending]
      exact ⟨rfl, rfl, rfl⟩
    · rw [get_foldl_removeThread, if_neg (fun hin => hid ((hids id).mp hin)), hthreads, if_neg hother]
    · rw [get_foldl_removeThread, if_neg (fun hin => hid ((hids id).mp hin)), hthreads,
        if_pos ⟨hdetach, hchild⟩]

section Populated

def saveState (s : InMemoryStore Unit Unit) (threadId : String) : InMemoryStore Unit Unit :=
  (s.exec ⟨0, fun _ => ""⟩ (.saveThreadState threadId ⟨0, .empty⟩)).2

lemma saveState_step (s : InMemoryStore Unit Unit) (threadId : String) :
    DeletionStep s (.store (.saveThreadState threadId ⟨0, .empty⟩)) (saveState s threadId) :=
  ⟨⟨0, fun _ => ""⟩, rfl⟩

lemma rootedStore_reachable : Reachable DeletionStep .new rootedStore :=
  have hsave : ∀ s thread, DeletionStep s (.store (.saveThreadValidated thread)) (saveFamily s thread) :=
    fun _ _ => ⟨⟨0, fun _ => ""⟩, rfl⟩
  ⟨_, .cons (hsave _ _) (.single (hsave _ _))⟩

def populatedStore : InMemoryStore Unit Unit :=
  saveState (rootedStore.exec ⟨0, fun _ => ""⟩
    (.saveMessages "child" [⟨some "m1", .user, [], none, none, .all, none⟩])).2 "other"

theorem deletes_exactly_populated :
    (populatedStore.messages.get "child").isSome ∧
    DeletesExactly populatedStore
      (populatedStore.deleteThreadWithStrategy 1 "root" .cascade).2 1 "root" .cascade ∧
    (populatedStore.deleteThreadWithStrategy 1 "root" .cascade).2.messages.get "child" = none ∧
    (populatedStore.deleteThreadWithStrategy 1 "root" .cascade).2.threadStates.get "other" =
      some ⟨0, .empty⟩ := by
  have hroot : collectChildIds populatedStore.threads "root" = ["child"] := by
    rw [collectChildIds, ← List.mergeSort_singleton "child"]
    rfl
  have hchild : collectChildIds populatedStore.threads "child" = [] := by
    rw [collectChildIds, ← List.mergeSort_nil]
    rfl
  have horder : cascadeOrder populatedStore.threads "root" (cascadeFuel populatedStore.threads) []
      [("root", false)] [] = some (.ok ["child", "root"]) := by
    rw [show cascadeFuel populatedStore.threads = 7 from rfl]
    simp [cascadeOrder, hroot, hchild]
  have hcascade : populatedStore.deleteThreadWithStrategy 1 "root" .cascade =
      (.ok (), ["child", "root"].foldl removeThread populatedStore) := by
    have hget : populatedStore.threads.get "root" = some (threadUnder "root" none) := rfl
    simp only [deleteThreadWithStrategy, hget, horder]
  have hmessage : ∀ draw, DeletionStep rootedStore (.store (.saveMessages "child"
      [⟨some "m1", .user, [], none, none, .all, none⟩])) (rootedStore.exec draw _).2 :=
    fun draw => ⟨draw, rfl⟩
  have hreach : Reachable DeletionStep .new populatedStore :=
    (rootedStore_reachable.step (hmessage ⟨0, fun _ => ""⟩)).step (saveState_step _ _)
  have hother : ¬Deleted populatedStore.threads "root" .cascade "other" := fun h => by
    rcases Relation.ReflTransGen.cases_head h with heq | ⟨next, hparent, -⟩
    · exact absurd heq (by decide)
    · cases hparent
  have hexact := (deletes_exactly_iff hreach 1 "root" .cascade (by rw [hcascade])).mpr (fun id hid => by
    have hne : id ≠ "other" := fun heq => hother (heq ▸ hid)
    change ((Table.empty : Table String _).insert "other" _).get id = none
    rw [Table.get_insert, if_neg hne]
    rfl)
  refine ⟨rfl, hexact, ?_, (hexact.kept "other" hother).2.2⟩
  rw [hcascade]
  rfl

end Populated

def statefulStore : InMemoryStore Unit Unit := saveState rootedStore "root"

theorem deleted_thread_leaves_state : Reachable DeletionStep .new statefulStore ∧
    (statefulStore.deleteThreadWithStrategy 1 "root" .detach).1 = .ok () ∧
    ¬DeletesExactly statefulStore (statefulStore.deleteThreadWithStrategy 1 "root" .detach).2 1 "root"
      .detach := by
  refine ⟨rootedStore_reachable.step (saveState_step _ _), rfl, fun h => ?_⟩
  have hstate : some (⟨0, .empty⟩ : State.PersistedState Unit) = none := (h.gone "root" rfl).2.2.2
  cases hstate

end Awaken.Stores.MemoryStore
