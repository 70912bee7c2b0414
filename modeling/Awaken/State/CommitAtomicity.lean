import Awaken.State.Plugin

namespace Awaken.State

open Awaken.Lib

variable {J κ : Type} [DecidableEq κ] {K : κ → StateKey J} (store : StateStore K)

namespace StateStore

lemma commit_isEmpty {patch : MutationBatch K} (h : patch.isEmpty = true) :
    store.commit patch = (.ok store.revision, store) := by
  rw [commit, if_pos h]

lemma commit_cases {patch : MutationBatch K} (h : patch.isEmpty = false) :
    (∃ e, store.validate patch = .error e ∧ store.commit patch = (.error e, store)) ∨
      store.validate patch = .ok () ∧
        store.commit patch = (.ok (store.revision + 1), store.applied patch.ops) := by
  rw [commit, h, if_neg Bool.false_ne_true]
  cases hvalid : store.validate patch with
  | error e => exact .inl ⟨e, rfl, rfl⟩
  | ok value => exact .inr ⟨rfl, rfl⟩

lemma commit_error {patch : MutationBatch K} {e : StateError} {store' : StateStore K}
    (h : store.commit patch = (.error e, store')) : store' = store := by
  cases hempty : patch.isEmpty with
  | true =>
    rw [commit_isEmpty store hempty] at h
    cases h
  | false =>
    obtain ⟨_, -, hcommit⟩ | ⟨-, hcommit⟩ := commit_cases store hempty
    · rw [hcommit] at h
      exact (Prod.mk.inj h).2.symm
    · rw [hcommit] at h
      cases h

lemma commit_stale {patch : MutationBatch K} {expected : Nat} (h : patch.isEmpty = false)
    (hbase : patch.baseRevision = some expected) (hstale : expected ≠ store.revision) :
    store.commit patch = (.error (.revisionConflict expected store.revision), store) := by
  have hvalid : store.validate patch = .error (.revisionConflict expected store.revision) := by
    have hne : store.inner.revision ≠ expected := Ne.symm hstale
    rw [validate, hbase, checkBase, if_pos hne]
    rfl
  rw [commit, h, if_neg Bool.false_ne_true, hvalid]

lemma installPlugin_error {plugin : Plugin κ} {e : StateError} {store' : StateStore K}
    (h : store.installPlugin plugin = (.error e, store')) : store' = store := by
  unfold installPlugin at h
  split at h
  · exact (Prod.mk.inj h).2.symm
  · unfold installPluginWithKeys at h
    split at h
    · exact (Prod.mk.inj h).2.symm
    · split at h
      · exact (Prod.mk.inj h).2.symm
      · cases h

lemma uninstallPlugin_error {name : String} {e : StateError} {store' : StateStore K}
    (h : store.uninstallPlugin name = (.error e, store')) : store' = store := by
  unfold uninstallPlugin at h
  split at h
  · exact (Prod.mk.inj h).2.symm
  · dsimp only at h
    split at h
    · rename_i hcommit
      rw [← (Prod.mk.inj h).2]
      exact commit_error store hcommit
    · cases h

end StateStore

open StateStore

/-- A batch with operations is committed whole or not at all, and not against another revision than
its base; an empty one changes nothing. A plugin that is not installed or not uninstalled leaves
keys and values as they were. -/
theorem changes_all_or_nothing :
    (∀ patch : MutationBatch K, patch.isEmpty = false →
      (∃ e, store.commit patch = (.error e, store)) ∨
        store.commit patch = (.ok (store.revision + 1), store.applied patch.ops)) ∧
    (∀ patch : MutationBatch K, patch.isEmpty = true →
      store.commit patch = (.ok store.revision, store)) ∧
    (∀ (patch : MutationBatch K) (expected : Nat), patch.isEmpty = false →
      patch.baseRevision = some expected → expected ≠ store.revision →
        store.commit patch = (.error (.revisionConflict expected store.revision), store)) ∧
    (∀ (plugin : Plugin κ) (e : StateError) (store' : StateStore K),
      store.installPlugin plugin = (.error e, store') → store' = store) ∧
    ∀ (name : String) (e : StateError) (store' : StateStore K),
      store.uninstallPlugin name = (.error e, store') → store' = store := by
  refine ⟨fun patch h => ?_, fun patch h => commit_isEmpty store h, ?_, ?_, ?_⟩
  · obtain ⟨e, -, hcommit⟩ | ⟨-, hcommit⟩ := commit_cases store h
    · exact .inl ⟨e, hcommit⟩
    · exact .inr hcommit
  · exact fun patch expected h hbase hstale => commit_stale store h hbase hstale
  · exact fun plugin e store' h => installPlugin_error store h
  · exact fun name e store' h => uninstallPlugin_error store h

theorem empty_batch_accepted :
    ¬ ∀ (store : StateStore counter) (patch : MutationBatch counter),
      ((∃ e, store.commit patch = (.error e, store)) ∨
          store.commit patch = (.ok (store.revision + 1), store.applied patch.ops)) ∧
        ∀ expected, patch.baseRevision = some expected → expected ≠ store.revision →
          ∃ e, store.commit patch = (.error e, store) := by
  intro h
  obtain ⟨e, hcommit⟩ := (h counterStore (MutationBatch.new.withBaseRevision 1)).2 1 rfl (by decide)
  cases hcommit

end Awaken.State
