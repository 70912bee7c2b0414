import Awaken.Lib.Filtered
import Awaken.Stores.MemoryStore

namespace Awaken.Stores.MemoryStore

open Awaken.Lib Awaken.Contract Awaken.Contract.Storage

variable {J C : Type}

inductive ChildThreadDeleteStrategy where
  | reject
  | detach
  | cascade
deriving DecidableEq

def collectChildIds (threads : Table String (Thread J)) (parentThreadId : String) : List String :=
  ((threads.values.filter (fun thread => thread.parentThreadId = some parentThreadId)).map
    (·.id)).mergeSort

def detached (now : Nat) (child : Thread J) : Thread J :=
  let child := { child with parentThreadId := none }.normalizeLineage
  { child with metadata := { child.metadata with updatedAt := some now } }

/-- The stack holds the threads to visit and, marked, those to delete after the threads below
them. `none` is out of fuel. -/
def cascadeOrder (threads : Table String (Thread J)) (root : String) :
    Nat → List String → List (String × Bool) → List String →
      Option (Except StorageError (List String))
  | 0, _, _, _ => none
  | _ + 1, _, [], deleteOrder => some (.ok deleteOrder)
  | fuel + 1, visited, (current, true) :: stack, deleteOrder =>
    cascadeOrder threads root fuel visited stack (deleteOrder ++ [current])
  | fuel + 1, visited, (current, false) :: stack, deleteOrder =>
    if current ∈ visited then
      some (.error (.validation s!"thread hierarchy cycle detected while deleting '{root}'"))
    else
      cascadeOrder threads root fuel (current :: visited)
        ((collectChildIds threads current).map (·, false) ++ (current, true) :: stack) deleteOrder

def cascadeFuel (threads : Table String (Thread J)) : Nat := 2 * (threads.entries.length + 1) + 1

namespace InMemoryStore

def removeThread (self : InMemoryStore J C) (threadId : String) : InMemoryStore J C :=
  { self with
    threads := self.threads.remove threadId
    messages := self.messages.remove threadId
    pendingMessages := self.pendingMessages.remove threadId }

def detachChildren (self : InMemoryStore J C) (now : Nat) (threadId : String) : InMemoryStore J C :=
  { self with
    threads := (collectChildIds self.threads threadId).foldl
      (fun threads childId => threads.modify childId (detached now)) self.threads }

def deleteThreadWithStrategy (self : InMemoryStore J C) (now : Nat) (threadId : String)
    (strategy : ChildThreadDeleteStrategy) : Reply J C Unit :=
  match self.threads.get threadId with
  | none => (.error (.notFound threadId), self)
  | some _ =>
    match strategy with
    | .reject =>
      if !(collectChildIds self.threads threadId).isEmpty then
        (.error (.validation
          s!"thread '{threadId}' has child threads; choose 'detach' or 'cascade'"), self)
      else (.ok (), self.removeThread threadId)
    | .detach => (.ok (), (self.detachChildren now threadId).removeThread threadId)
    | .cascade =>
      match cascadeOrder self.threads threadId (cascadeFuel self.threads) [] [(threadId, false)] []
        with
      | some (.ok deleteOrder) => (.ok (), deleteOrder.foldl removeThread self)
      | some (.error e) => (.error e, self)
      | none => (.ok (), self)

end InMemoryStore

lemma detached_detached (now : Nat) (child : Thread J) :
    detached now (detached now child) = detached now child := by
  simp only [detached, Thread.normalizeLineage, normalizeLineageId_normalizeLineageId]

section Children

variable {threads : Table String (Thread J)} {parentThreadId : String}

lemma mem_collectChildIds {id : String} : id ∈ collectChildIds threads parentThreadId ↔
    ∃ k thread, threads.get k = some thread ∧ thread.parentThreadId = some parentThreadId ∧
      thread.id = id := by
  rw [collectChildIds, List.mem_mergeSort, List.mem_map]
  constructor
  · rintro ⟨thread, hmem, rfl⟩
    obtain ⟨hvalue, hparent⟩ := List.mem_filter.mp hmem
    obtain ⟨k, hk⟩ := Table.mem_values.mp hvalue
    exact ⟨k, thread, hk, of_decide_eq_true hparent, rfl⟩
  · rintro ⟨k, thread, hk, hparent, rfl⟩
    refine ⟨thread, List.mem_filter.mpr ⟨Table.mem_values.mpr ⟨k, hk⟩, ?_⟩, rfl⟩
    exact decide_eq_true hparent

end Children

section Cascade

variable {threads : Table String (Thread J)} {root : String}

def threadIds (threads : Table String (Thread J)) (root : String) : List String :=
  root :: threads.values.map (·.id)

lemma cascadeOrder_isSome {fuel : Nat} {visited deleteOrder : List String}
    {stack : List (String × Bool)} (hstack : ∀ e ∈ stack, e.2 = false → e.1 ∈ threadIds threads root)
    (hfuel : 2 * unseen (threadIds threads root) visited + (stack.filter (·.2)).length < fuel) :
    (cascadeOrder threads root fuel visited stack deleteOrder).isSome := by
  induction fuel generalizing visited stack deleteOrder with
  | zero => omega
  | succ fuel ih =>
    rcases stack with - | ⟨⟨current, expanded⟩, stack⟩
    · rfl
    · cases expanded with
      | true =>
        refine ih (fun e he => hstack e (List.mem_cons_of_mem _ he)) ?_
        rw [List.filter_cons_of_pos rfl, List.length_cons] at hfuel
        omega
      | false =>
        rw [cascadeOrder]
        split
        · rfl
        · rename_i hnew
          have hcurrent := hstack _ List.mem_cons_self rfl
          have hless := unseen_cons_lt hcurrent hnew
          dsimp only at hless
          have hunmarked : ((collectChildIds threads current).map (·, false)).filter (·.2) = [] := by
            simp
          refine ih (fun e he hfalse => ?_) ?_
          · rcases List.mem_append.mp he with he | he
            · obtain ⟨id, hid, rfl⟩ := List.mem_map.mp he
              obtain ⟨k, thread, hk, -, rfl⟩ := (mem_collectChildIds).mp hid
              refine List.mem_cons_of_mem _ (List.mem_map_of_mem ?_)
              exact Table.mem_values.mpr ⟨k, hk⟩
            · rcases List.mem_cons.mp he with rfl | he
              · cases hfalse
              · exact hstack e (List.mem_cons_of_mem _ he) hfalse
          · rw [List.filter_append, hunmarked, List.nil_append, List.filter_cons_of_pos rfl,
              List.length_cons]
            rw [List.filter_cons_of_neg (by simp)] at hfuel
            omega

theorem cascade_ends (threads : Table String (Thread J)) (threadId : String) :
    (cascadeOrder threads threadId (cascadeFuel threads) [] [(threadId, false)] []).isSome := by
  refine cascadeOrder_isSome (fun e he _ => ?_) ?_
  · rw [List.mem_singleton.mp he]
    exact List.mem_cons_self
  · have hlength : (threadIds threads threadId).length = threads.entries.length + 1 := by
      rw [threadIds, List.length_cons, List.length_map, Table.values, List.length_map]
    have hless := unseen_le (threadIds threads threadId) []
    rw [cascadeFuel, List.filter_cons_of_neg (by simp)]
    simp only [List.filter_nil, List.length_nil]
    omega

structure CascadeInv (threads : Table String (Thread J)) (root : String)
    (visited : List String) (stack : List (String × Bool)) (deleteOrder : List String) :
    Prop where
  root : root ∈ visited ∨ (root, false) ∈ stack
  children : ∀ v ∈ visited, ∀ c ∈ collectChildIds threads v, c ∈ visited ∨ (c, false) ∈ stack
  ordered : ∀ v ∈ visited, v ∈ deleteOrder ∨ (v, true) ∈ stack
  deleted : ∀ v ∈ deleteOrder, v ∈ visited
  marked : ∀ v, (v, true) ∈ stack → v ∈ visited

namespace CascadeInv

variable {visited deleteOrder : List String} {current : String} {stack : List (String × Bool)}

lemma close (h : CascadeInv threads root visited ((current, true) :: stack) deleteOrder) :
    CascadeInv threads root visited stack (deleteOrder ++ [current]) := by
  refine ⟨?_, fun v hv c hc => ?_, fun v hv => ?_, fun v hv => ?_, fun v hv => ?_⟩
  · simpa using h.root
  · simpa using h.children v hv c hc
  · rcases h.ordered v hv with hin | hin
    · exact Or.inl (List.mem_append_left _ hin)
    · rcases List.mem_cons.mp hin with heq | hin
      · exact Or.inl (List.mem_append_right _ (by simpa using congrArg Prod.fst heq))
      · exact Or.inr hin
  · rcases List.mem_append.mp hv with hin | hin
    · exact h.deleted v hin
    · rw [List.mem_singleton.mp hin]
      exact h.marked current List.mem_cons_self
  · exact h.marked v (List.mem_cons_of_mem _ hv)

lemma visit (h : CascadeInv threads root visited ((current, false) :: stack) deleteOrder) :
    CascadeInv threads root (current :: visited)
      ((collectChildIds threads current).map (·, false) ++ (current, true) :: stack)
      deleteOrder := by
  have hkept : ∀ c, (c ∈ visited ∨ (c, false) ∈ (current, false) :: stack) →
      c ∈ current :: visited ∨
        (c, false) ∈ (collectChildIds threads current).map (·, false) ++ (current, true) :: stack := by
    rintro c (hc | hc)
    · exact Or.inl (List.mem_cons_of_mem _ hc)
    · rcases List.mem_cons.mp hc with heq | hc
      · exact Or.inl (List.mem_cons.mpr (Or.inl (congrArg Prod.fst heq)))
      · exact Or.inr (List.mem_append_right _ (List.mem_cons_of_mem _ hc))
  refine ⟨hkept _ h.root, fun v hv c hc => ?_, fun v hv => ?_, fun v hv => ?_, fun v hv => ?_⟩
  · rcases List.mem_cons.mp hv with rfl | hv
    · exact Or.inr (List.mem_append_left _ (List.mem_map_of_mem hc))
    · exact hkept c (h.children v hv c hc)
  · rcases List.mem_cons.mp hv with rfl | hv
    · exact Or.inr (List.mem_append_right _ List.mem_cons_self)
    · rcases h.ordered v hv with hin | hin
      · exact Or.inl hin
      · rcases List.mem_cons.mp hin with heq | hin
        · cases congrArg Prod.snd heq
        · exact Or.inr (List.mem_append_right _ (List.mem_cons_of_mem _ hin))
  · exact List.mem_cons_of_mem _ (h.deleted v hv)
  · rcases List.mem_append.mp hv with hin | hin
    · obtain ⟨c, -, heq⟩ := List.mem_map.mp hin
      cases congrArg Prod.snd heq
    · rcases List.mem_cons.mp hin with heq | hin
      · exact List.mem_cons.mpr (Or.inl (congrArg Prod.fst heq))
      · exact List.mem_cons_of_mem _ (h.marked v (List.mem_cons_of_mem _ hin))

end CascadeInv

structure ClosedBelow (threads : Table String (Thread J)) (root : String)
    (deleteOrder : List String) : Prop where
  root : root ∈ deleteOrder
  children : ∀ v ∈ deleteOrder, ∀ c ∈ collectChildIds threads v, c ∈ deleteOrder

lemma cascadeOrder_ok {fuel : Nat} {visited deleteOrder result : List String}
    {stack : List (String × Bool)} (h : CascadeInv threads root visited stack deleteOrder)
    (hok : cascadeOrder threads root fuel visited stack deleteOrder = some (.ok result)) :
    ClosedBelow threads root result := by
  induction fuel generalizing visited stack deleteOrder with
  | zero => cases hok
  | succ fuel ih =>
    rcases stack with - | ⟨⟨current, expanded⟩, stack⟩
    · obtain rfl : deleteOrder = result := by simpa [cascadeOrder] using hok
      have hin : ∀ v ∈ visited, v ∈ deleteOrder := fun v hv => by simpa using h.ordered v hv
      refine ⟨hin _ (by simpa using h.root), fun v hv c hc => hin c ?_⟩
      simpa using h.children v (h.deleted v hv) c hc
    · cases expanded with
      | true => exact ih h.close hok
      | false =>
        rw [cascadeOrder] at hok
        split at hok
        · cases hok
        · exact ih h.visit hok

end Cascade

section Deleted

variable {s : InMemoryStore J C} {threadId : String}

lemma get_detachChildren {now : Nat} {k : String} :
    (s.detachChildren now threadId).threads.get k =
      if k ∈ collectChildIds s.threads threadId then (s.threads.get k).map (detached now)
      else s.threads.get k :=
  Table.get_foldl_modify_idempotent (detached_detached now) _ _ _

lemma get_foldl_removeThread {ids : List String} {k : String} :
    (ids.foldl InMemoryStore.removeThread s).threads.get k =
      if k ∈ ids then none else s.threads.get k := by
  induction ids generalizing s with
  | nil => simp
  | cons id ids ih =>
    rw [List.foldl_cons, ih]
    simp only [InMemoryStore.removeThread, Table.get_remove, List.mem_cons]
    by_cases hk : k = id <;> simp [hk]

end Deleted

end Awaken.Stores.MemoryStore
