import Awaken.Stores.MemoryStore.Queue

namespace Awaken.Stores.MemoryStore.InMemoryStore

open Awaken.Lib Awaken.Contract Awaken.Contract.Storage Awaken.Contract.MessageAppend

variable {J C : Type} {s s' : InMemoryStore J C} {now : Nat} {threadId : String}
  {messages : List (Message J C)} {expected : Option Nat} {run : RunRecord J}

lemma checkVersion_ok {actual : Nat} : checkVersion expected actual = .ok () ↔
    ∀ n, expected = some n → n = actual := by
  unfold checkVersion
  cases expected with
  | none => exact iff_of_true rfl fun n hn => by cases hn
  | some n =>
    dsimp only
    split
    · rename_i hne
      exact iff_of_false (fun h => by cases h) fun h => hne (h n rfl)
    · rename_i heq
      refine iff_of_true rfl fun m hm => ?_
      rw [← Option.some.inj hm]
      exact not_not.mp heq

lemma runs_touchMessages (s : InMemoryStore J C) (threadId : String) :
    (s.touchMessages threadId).runs = s.runs := by
  unfold touchMessages
  split <;> rfl

variable [DecidableEq J]

structure Appended (s : InMemoryStore J C) (threadId : String) (messages : List (Message J C))
    (expected : Option Nat) (run : RunRecord J) (s' : InMemoryStore J C) : Prop where
  valid : run.validateForPersist = .ok ()
  version : ∀ n, expected = some n → n = (s.committed threadId).length
  delta : validateAppendOnlyDelta (s.committed threadId) messages = .ok ()
  committed : s'.committed threadId = s.committed threadId ++ messages
  runs : s'.runs = s.runs.insert run.runId run

lemma checkpointAppend_ok {length : Nat}
    (h : s.checkpointAppend now threadId messages expected run = (.ok length, s')) :
    Appended s threadId messages expected run s' := by
  unfold checkpointAppend at h
  split at h
  · cases h
  · rename_i hcheck
    split at h
    · cases h
    · rename_i hversion
      dsimp only at h
      rw [committed_touchMessages] at h
      split at h
      · cases h
      · rename_i hmerge
        obtain ⟨_, hdelta, hmerged⟩ := bind_ok hmerge
        obtain rfl := Except.ok.inj hmerged
        obtain ⟨_, hvalid, -⟩ := bind_ok hcheck
        obtain rfl := (Prod.mk.inj h).2
        refine ⟨hvalid, (checkVersion_ok).mp hversion, hdelta, ?_, ?_⟩
        · change ((s.touchMessages threadId).putMessages threadId _).committed threadId = _
          rw [committed_putMessages]
        · change (s.touchMessages threadId).runs.insert run.runId run = _
          rw [runs_touchMessages]

lemma checkpointAppend_error {e : StorageError}
    (h : s.checkpointAppend now threadId messages expected run = (.error e, s')) :
    s'.committed threadId = s.committed threadId ∧ s'.runs = s.runs := by
  unfold checkpointAppend at h
  split at h
  · obtain rfl := (Prod.mk.inj h).2
    exact ⟨rfl, rfl⟩
  · split at h
    · obtain rfl := (Prod.mk.inj h).2
      exact ⟨rfl, rfl⟩
    · dsimp only at h
      split at h
      · obtain rfl := (Prod.mk.inj h).2
        exact ⟨committed_touchMessages s threadId, runs_touchMessages s threadId⟩
      · cases h

end Awaken.Stores.MemoryStore.InMemoryStore
