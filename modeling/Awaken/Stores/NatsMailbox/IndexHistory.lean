import Awaken.Stores.NatsMailbox.Index

namespace Awaken.Stores.NatsMailbox

open Awaken.Lib Awaken.Contract.Mailbox

structure KvHistory where
  entries : List KvEntry
  increasing : entries.Pairwise (fun a b => a.revision < b.revision)
  updated : entries.Pairwise (fun a b => ∀ d e r s, a = .value d r → b = .value e s →
    d.dispatchId = e.dispatchId → d.updatedAt ≤ e.updatedAt)

inductive Report where
  | entry (entry : KvEntry)
  | read (dispatch : RunDispatch) (revision : Nat)

namespace Report

def reported : Report → KvEntry
  | entry e => e
  | read dispatch revision => .value dispatch revision

def call (index : DispatchIndex) : Report → DispatchIndex
  | entry e => applyEntry index e
  | read dispatch _ => index.upsert dispatch

def stored : Report → Option IndexedDispatch
  | entry (.value dispatch revision) => some ⟨dispatch, some revision⟩
  | entry (.tombstone _ _) => none
  | read dispatch _ => some ⟨dispatch, none⟩

end Report

structure Watched where
  index : DispatchIndex
  standing : String → Option Nat

namespace Watched

def start : Watched := ⟨.default, fun _ => none⟩

def Takes (index : DispatchIndex) (report : Report) : Prop :=
  (report.call index).byId.get report.reported.dispatchId = report.stored

instance (index : DispatchIndex) (report : Report) : Decidable (Takes index report) :=
  inferInstanceAs (Decidable (_ = _))

def step (self : Watched) (report : Report) : Watched where
  index := report.call self.index
  standing id :=
    if id = report.reported.dispatchId ∧ Takes self.index report then
      some (max ((self.standing id).getD 0) report.reported.revision)
    else self.standing id

def after (reports : List Report) : Watched := reports.foldl step start

/-- The entry turns from a later value or deletion to the value that is reported. -/
def GoesBack (self : Watched) (report : Report) : Prop :=
  report.stored.isSome ∧ Takes self.index report ∧
    ∃ standing, self.standing report.reported.dispatchId = some standing ∧
      report.reported.revision < standing

end Watched

/-- The stored ids are listed once each, under the thread and the status of what is stored. -/
structure Listed (index : DispatchIndex) : Prop where
  once : ∀ threadId, (index.threadIds threadId).Nodup
  thread : ∀ threadId id, id ∈ index.threadIds threadId ↔
    ∃ dispatch, index.get id = some dispatch ∧ dispatch.threadId = threadId
  status : ∀ status id, id ∈ index.statusIds status ↔
    ∃ dispatch, index.get id = some dispatch ∧ dispatch.status = status

namespace DispatchIndex

variable {self : DispatchIndex}

lemma listed_default : Listed DispatchIndex.default where
  once threadId := List.nodup_nil
  thread threadId id := by simp [DispatchIndex.default, threadIds, DispatchIndex.get]
  status status id := by simp [DispatchIndex.default, statusIds, DispatchIndex.get]

lemma statusKey_injective {s t : RunDispatchStatus} (h : statusKey s = statusKey t) : s = t := by
  cases s <;> cases t <;> first | rfl | exact absurd h (by decide)

def Refused (self : DispatchIndex) (dispatch : RunDispatch) (revision : Option Nat) : Prop :=
  ∃ prev, self.byId.get dispatch.dispatchId = some prev ∧ outdated prev dispatch revision = true

lemma upsertInner_refused {dispatch : RunDispatch} {revision : Option Nat}
    (h : Refused self dispatch revision) : self.upsertInner dispatch revision false = self := by
  obtain ⟨prev, hprev, hold⟩ := h
  simp only [upsertInner, hprev, hold, Bool.not_false, Bool.true_and, if_true]

lemma upsertInner_new {dispatch : RunDispatch} {revision : Option Nat}
    (h : self.byId.get dispatch.dispatchId = none) :
    self.upsertInner dispatch revision false = { self with
      byThread := self.byThread.insert dispatch.threadId
        (self.threadIds dispatch.threadId ++ [dispatch.dispatchId]) }.storeIndexed
          dispatch revision := by
  simp only [upsertInner, h]
  rfl

lemma upsertInner_over {dispatch : RunDispatch} {revision : Option Nat} {prev : IndexedDispatch}
    (hprev : self.byId.get dispatch.dispatchId = some prev)
    (h : ¬ Refused self dispatch revision) :
    self.upsertInner dispatch revision false = { self with
      byStatus := self.byStatus.modify (statusKey prev.dispatch.status)
        (·.erase dispatch.dispatchId) }.storeIndexed dispatch revision := by
  have hnew : outdated prev dispatch revision = false :=
    Bool.eq_false_iff.mpr (fun hold => h ⟨prev, hprev, hold⟩)
  simp only [upsertInner, hprev, hnew, Bool.and_false, Bool.false_eq_true, if_false]

@[simp] lemma get_storeIndexed (dispatch : RunDispatch) (revision : Option Nat) (id : String) :
    (self.storeIndexed dispatch revision).get id =
      if id = dispatch.dispatchId then some dispatch else self.get id := by
  rw [get, storeIndexed, Table.get_insert]
  split <;> rfl

@[simp] lemma threadIds_storeIndexed (dispatch : RunDispatch) (revision : Option Nat)
    (threadId : String) :
    (self.storeIndexed dispatch revision).threadIds threadId = self.threadIds threadId := rfl

@[simp] lemma mem_statusIds_storeIndexed (dispatch : RunDispatch) (revision : Option Nat)
    (status : RunDispatchStatus) (id : String) :
    id ∈ (self.storeIndexed dispatch revision).statusIds status ↔
      (id = dispatch.dispatchId ∧ status = dispatch.status) ∨ id ∈ self.statusIds status := by
  simp only [statusIds, storeIndexed, Table.get_insert]
  by_cases hs : status = dispatch.status
  · simp [hs]
  · have hne : statusKey status ≠ statusKey dispatch.status :=
      fun heq => hs (statusKey_injective heq)
    simp [hs, hne]

lemma byId_upsertInner {dispatch : RunDispatch} {revision : Option Nat}
    (h : ¬ Refused self dispatch revision) :
    (self.upsertInner dispatch revision false).byId =
      self.byId.insert dispatch.dispatchId ⟨dispatch, revision⟩ := by
  cases hprev : self.byId.get dispatch.dispatchId with
  | none =>
    rw [upsertInner_new hprev]
    rfl
  | some prev =>
    rw [upsertInner_over hprev h]
    rfl

lemma mem_statusIds_erased (self : DispatchIndex) (id other : String)
    (status kept : RunDispatchStatus) : id ∈ ({ self with
      byStatus := self.byStatus.modify (statusKey kept) (·.erase other) } :
        DispatchIndex).statusIds status ↔
      id ∈ self.statusIds status ∧ ¬ (id = other ∧ status = kept) := by
  by_cases hs : status = kept
  · subst hs
    cases hget : self.byStatus.get (statusKey status) with
    | none => simp [statusIds, hget]
    | some ids => simp [statusIds, hget, and_comm]
  · have hne : statusKey status ≠ statusKey kept := fun heq => hs (statusKey_injective heq)
    simp [statusIds, Table.get_modify_of_ne hne, hs]

lemma threadIds_withoutId (self : DispatchIndex) (byThread : Table String (List String))
    (kept other threadId : String) (h : self.byThread = withoutId byThread kept other) :
    self.threadIds threadId = if threadId = kept
      then ((byThread.get threadId).getD []).filter (· ≠ other)
      else (byThread.get threadId).getD [] := by
  rw [threadIds, h, withoutId]
  cases hget : byThread.get kept with
  | none =>
    by_cases ht : threadId = kept
    · simp [ht, hget]
    · simp [ht]
  | some ids =>
    by_cases hnil : (ids.filter (· ≠ other)).isEmpty = true
    · simp only [hnil, if_true, Table.get_remove]
      by_cases ht : threadId = kept
      · rw [if_pos ht, if_pos ht, ht, hget, Option.getD_some, List.isEmpty_iff.mp hnil]
        rfl
      · rw [if_neg ht, if_neg ht]
    · simp only [hnil, Bool.false_eq_true, if_false, Table.get_insert]
      by_cases ht : threadId = kept
      · rw [if_pos ht, if_pos ht, ht, hget]
        rfl
      · rw [if_neg ht, if_neg ht]

lemma threadIds_pushed (threadId thread id : String) :
    ({ self with byThread := self.byThread.insert thread (self.threadIds thread ++ [id]) } :
      DispatchIndex).threadIds threadId =
      self.threadIds threadId ++ if threadId = thread then [id] else [] := by
  simp only [threadIds, Table.get_insert]
  by_cases ht : threadId = thread
  · simp [ht]
  · simp [ht]

lemma listed_new (hl : Listed self) {dispatch : RunDispatch} {revision : Option Nat}
    (hprev : self.byId.get dispatch.dispatchId = none) :
    Listed (self.upsertInner dispatch revision false) := by
  have hnone : self.get dispatch.dispatchId = none := by rw [get, hprev, Option.map_none]
  have hunlisted : ∀ threadId, dispatch.dispatchId ∉ self.threadIds threadId := by
    intro threadId hmem
    obtain ⟨found, hfound, -⟩ := (hl.thread threadId _).mp hmem
    rw [hnone] at hfound
    cases hfound
  rw [upsertInner_new hprev]
  refine ⟨fun threadId => ?_, fun threadId id => ?_, fun status id => ?_⟩
  · rw [threadIds_storeIndexed, threadIds_pushed]
    split
    · refine List.nodup_append.mpr ⟨hl.once threadId, by simp, ?_⟩
      intro id hid other hother heq
      rw [heq, List.mem_singleton.mp hother] at hid
      exact hunlisted threadId hid
    · rw [List.append_nil]
      exact hl.once threadId
  · rw [threadIds_storeIndexed, threadIds_pushed, get_storeIndexed, List.mem_append]
    by_cases hid : id = dispatch.dispatchId
    · subst hid
      simp [hunlisted threadId, eq_comm]
    · have hrest : id ∉ if threadId = dispatch.threadId then [dispatch.dispatchId] else [] := by
        split <;> simp [hid]
      rw [if_neg hid, or_iff_left hrest]
      exact hl.thread threadId id
  · rw [mem_statusIds_storeIndexed, get_storeIndexed]
    have hkeep := hl.status status id
    by_cases hid : id = dispatch.dispatchId
    · subst hid
      rw [hnone] at hkeep
      rw [if_pos rfl, or_iff_left (fun hmem => by simpa using hkeep.mp hmem)]
      simp [eq_comm]
    · simp only [hid, false_and, false_or, if_false]
      exact hkeep

lemma listed_over (hl : Listed self) {dispatch : RunDispatch} {revision : Option Nat}
    {prev : IndexedDispatch} (hprev : self.byId.get dispatch.dispatchId = some prev)
    (hsame : prev.dispatch.threadId = dispatch.threadId) (h : ¬ Refused self dispatch revision) :
    Listed (self.upsertInner dispatch revision false) := by
  have hget : self.get dispatch.dispatchId = some prev.dispatch := by
    rw [get, hprev, Option.map_some]
  rw [upsertInner_over hprev h]
  refine ⟨fun threadId => hl.once threadId, fun threadId id => ?_, fun status id => ?_⟩
  · rw [threadIds_storeIndexed, get_storeIndexed]
    have hkeep := hl.thread threadId id
    by_cases hid : id = dispatch.dispatchId
    · subst hid
      rw [hget] at hkeep
      rw [if_pos rfl]
      refine Iff.trans hkeep ?_
      simp [hsame]
    · rw [if_neg hid]
      exact hkeep
  · rw [mem_statusIds_storeIndexed, mem_statusIds_erased, get_storeIndexed]
    have hkeep := hl.status status id
    by_cases hid : id = dispatch.dispatchId
    · subst hid
      rw [hget] at hkeep
      have hgone : ¬ (dispatch.dispatchId ∈ self.statusIds status ∧
          ¬ (dispatch.dispatchId = dispatch.dispatchId ∧ status = prev.dispatch.status)) := by
        rintro ⟨hmem, hne⟩
        obtain ⟨found, hfound, hstatus⟩ := hkeep.mp hmem
        obtain rfl := Option.some.inj hfound
        exact hne ⟨rfl, hstatus.symm⟩
      rw [or_iff_left hgone, if_pos rfl]
      simp [eq_comm]
    · simp only [hid, false_and, false_or, not_false_eq_true, and_true, if_false]
      exact hkeep

lemma listed_upsertInner (hl : Listed self) {dispatch : RunDispatch} {revision : Option Nat}
    (hthread : ∀ prev, self.byId.get dispatch.dispatchId = some prev →
      prev.dispatch.threadId ≠ dispatch.threadId → outdated prev dispatch revision = true) :
    Listed (self.upsertInner dispatch revision false) := by
  by_cases h : Refused self dispatch revision
  · rw [upsertInner_refused h]
    exact hl
  cases hprev : self.byId.get dispatch.dispatchId with
  | none => exact listed_new hl hprev
  | some prev =>
    refine listed_over hl hprev ?_ h
    by_contra hne
    exact h ⟨prev, hprev, hthread prev hprev hne⟩

lemma not_listed_upsertInner (hl : Listed self) {dispatch : RunDispatch} {revision : Option Nat}
    {prev : IndexedDispatch} (hprev : self.byId.get dispatch.dispatchId = some prev)
    (hne : prev.dispatch.threadId ≠ dispatch.threadId) (h : ¬ Refused self dispatch revision) :
    ¬ Listed (self.upsertInner dispatch revision false) := by
  intro hafter
  have hget : self.get dispatch.dispatchId = some prev.dispatch := by
    rw [get, hprev, Option.map_some]
  have hmem : dispatch.dispatchId ∈ self.threadIds prev.dispatch.threadId :=
    (hl.thread _ _).mpr ⟨prev.dispatch, hget, rfl⟩
  have hkept : dispatch.dispatchId ∈
      (self.upsertInner dispatch revision false).threadIds prev.dispatch.threadId := by
    rw [upsertInner_over hprev h, threadIds_storeIndexed]
    exact hmem
  obtain ⟨found, hfound, hthread⟩ := (hafter.thread _ _).mp hkept
  rw [get, byId_upsertInner h, Table.get_insert, if_pos rfl] at hfound
  obtain rfl := Option.some.inj hfound
  exact hne hthread.symm

lemma removeInner_removes {dispatchId : String} {revision : Nat} {indexed : IndexedDispatch}
    (hget : self.byId.get dispatchId = some indexed)
    (h : ∀ current, indexed.revision = some current → ¬ revision < current) :
    self.removeInner dispatchId (some revision) = self.removeIndexed dispatchId indexed := by
  simp only [removeInner, hget]
  cases hcurrent : indexed.revision with
  | none => rfl
  | some current => simp only [if_neg (h current hcurrent)]

lemma removeInner_refuses {dispatchId : String} {revision current : Nat}
    {indexed : IndexedDispatch} (hget : self.byId.get dispatchId = some indexed)
    (hcurrent : indexed.revision = some current) (h : revision < current) :
    self.removeInner dispatchId (some revision) = self := by
  simp only [removeInner, hget, hcurrent, if_pos h]

lemma listed_removeIndexed (hl : Listed self) {dispatchId : String} {indexed : IndexedDispatch}
    (hindexed : self.byId.get dispatchId = some indexed) :
    Listed (self.removeIndexed dispatchId indexed) := by
  have hget : self.get dispatchId = some indexed.dispatch := by
    rw [get, hindexed, Option.map_some]
  have hafter : ∀ id, (self.removeIndexed dispatchId indexed).get id =
      if id = dispatchId then none else self.get id := by
    intro id
    rw [get, removeIndexed, Table.get_remove]
    split <;> rfl
  have hthreads := fun threadId => threadIds_withoutId (self.removeIndexed dispatchId indexed)
    self.byThread indexed.dispatch.threadId dispatchId threadId rfl
  refine ⟨fun threadId => ?_, fun threadId id => ?_, fun status id => ?_⟩
  · rw [hthreads]
    split
    · exact (hl.once threadId).filter _
    · exact hl.once threadId
  · have hkeep := hl.thread threadId id
    rw [hthreads, hafter]
    change (id ∈ if _ then (self.threadIds threadId).filter _ else self.threadIds threadId) ↔ _
    by_cases hid : id = dispatchId
    · subst hid
      rw [hget] at hkeep
      split
      · simp
      · next hne =>
        simp only [if_true, reduceCtorEq, false_and, exists_false, iff_false]
        intro hmem
        obtain ⟨found, hfound, hthread⟩ := hkeep.mp hmem
        obtain rfl := Option.some.inj hfound
        exact hne hthread.symm
    · rw [if_neg hid, ← hkeep]
      split
      · simp [hid]
      · rfl
  · have hkeep := hl.status status id
    have herased := mem_statusIds_erased self id dispatchId status
      indexed.dispatch.status
    rw [hafter]
    refine Iff.trans herased ?_
    by_cases hid : id = dispatchId
    · subst hid
      rw [hget] at hkeep
      simp only [if_true, reduceCtorEq, false_and, exists_false, iff_false, true_and]
      rintro ⟨hmem, hne⟩
      obtain ⟨found, hfound, hstatus⟩ := hkeep.mp hmem
      obtain rfl := Option.some.inj hfound
      exact hne hstatus.symm
    · simp only [hid, false_and, not_false_eq_true, and_true, if_false]
      exact hkeep

lemma listed_removeInner (hl : Listed self) (dispatchId : String) (revision : Nat) :
    Listed (self.removeInner dispatchId (some revision)) := by
  cases hget : self.byId.get dispatchId with
  | none =>
    simp only [removeInner, hget]
    exact hl
  | some indexed =>
    by_cases hkept : ∃ current, indexed.revision = some current ∧ revision < current
    · obtain ⟨current, hcurrent, hlt⟩ := hkept
      rw [removeInner_refuses hget hcurrent hlt]
      exact hl
    · have hgone : ∀ current, indexed.revision = some current → ¬ revision < current :=
        fun current hcurrent hlt => hkept ⟨current, hcurrent, hlt⟩
      rw [removeInner_removes hget hgone]
      exact listed_removeIndexed hl hget

end DispatchIndex

namespace Report

lemma call_value {report : Report} {new : IndexedDispatch} (h : report.stored = some new)
    (index : DispatchIndex) :
    report.call index = index.upsertInner new.dispatch new.revision false ∧
      report.reported.dispatchId = new.dispatch.dispatchId := by
  rcases report with (⟨dispatch, revision⟩ | ⟨dispatchId, revision⟩) | ⟨dispatch, revision⟩
  · cases h
    exact ⟨rfl, rfl⟩
  · cases h
  · cases h
    exact ⟨rfl, rfl⟩

lemma call_deletion {report : Report} (h : report.stored = none) (index : DispatchIndex) :
    report.call index = index.removeInner report.reported.dispatchId
      (some report.reported.revision) := by
  rcases report with (⟨dispatch, revision⟩ | ⟨dispatchId, revision⟩) | ⟨dispatch, revision⟩
  · cases h
  · rfl
  · cases h

lemma stored_revision {report : Report} {new : IndexedDispatch} (h : report.stored = some new) :
    new.revision = none ∨ new.revision = some report.reported.revision := by
  rcases report with (⟨dispatch, revision⟩ | ⟨dispatchId, revision⟩) | ⟨dispatch, revision⟩
  · cases h
    exact .inr rfl
  · cases h
  · cases h
    exact .inl rfl

end Report

namespace Watched

open DispatchIndex

variable {self : Watched}

lemma takes_value {index : DispatchIndex} {report : Report} {new : IndexedDispatch}
    (h : report.stored = some new) :
    Takes index report ↔ ¬ Refused index new.dispatch new.revision := by
  obtain ⟨hcall, hid⟩ := report.call_value h index
  rw [Takes, hcall, hid, h]
  constructor
  · rintro htaken hrefused
    rw [upsertInner_refused hrefused] at htaken
    obtain ⟨prev, hprev, hold⟩ := hrefused
    obtain rfl : new = prev := Option.some.inj (htaken.symm.trans hprev)
    cases hrevision : new.revision <;> simp [outdated, hrevision] at hold
  · intro hlet
    rw [byId_upsertInner hlet, Table.get_insert, if_pos rfl]

def Standing (self : Watched) : Prop :=
  ∀ id prev, self.index.byId.get id = some prev →
    ∃ revision, self.standing id = some revision ∧
      (prev.revision = none ∨ prev.revision = some revision)

lemma byId_call_other (index : DispatchIndex) (report : Report) {id : String}
    (h : id ≠ report.reported.dispatchId) :
    (report.call index).byId.get id = index.byId.get id := by
  cases hstored : report.stored with
  | some new =>
    obtain ⟨hcall, hid⟩ := report.call_value hstored index
    rw [hcall]
    by_cases hrefused : Refused index new.dispatch new.revision
    · rw [upsertInner_refused hrefused]
    · rw [byId_upsertInner hrefused, Table.get_insert, if_neg (hid ▸ h)]
  | none =>
    rw [report.call_deletion hstored]
    cases hget : index.byId.get report.reported.dispatchId with
    | none => simp only [removeInner, hget]
    | some indexed =>
      by_cases hkept : ∃ current, indexed.revision = some current ∧
          report.reported.revision < current
      · obtain ⟨current, hcurrent, hlt⟩ := hkept
        rw [removeInner_refuses hget hcurrent hlt]
      · have hgone : ∀ current, indexed.revision = some current →
            ¬ report.reported.revision < current :=
          fun current hcurrent hlt => hkept ⟨current, hcurrent, hlt⟩
        rw [removeInner_removes hget hgone, removeIndexed, Table.get_remove, if_neg h]

lemma byId_call_self (index : DispatchIndex) (report : Report) :
    Takes index report ∨ (report.call index).byId.get report.reported.dispatchId =
      index.byId.get report.reported.dispatchId := by
  by_cases htakes : Takes index report
  · exact .inl htakes
  · refine .inr ?_
    cases hstored : report.stored with
    | some new =>
      rw [takes_value hstored, not_not] at htakes
      rw [(report.call_value hstored index).1, upsertInner_refused htakes]
    | none =>
      rw [Takes, hstored] at htakes
      rw [report.call_deletion hstored] at htakes ⊢
      cases hget : index.byId.get report.reported.dispatchId with
      | none => simp only [removeInner, hget]
      | some indexed =>
        by_cases hkept : ∃ current, indexed.revision = some current ∧
            report.reported.revision < current
        · obtain ⟨current, hcurrent, hlt⟩ := hkept
          rw [removeInner_refuses hget hcurrent hlt, hget]
        · have hgone : ∀ current, indexed.revision = some current →
              ¬ report.reported.revision < current :=
            fun current hcurrent hlt => hkept ⟨current, hcurrent, hlt⟩
          rw [removeInner_removes hget hgone, removeIndexed, Table.get_remove, if_pos rfl] at htakes
          exact absurd rfl htakes

lemma standing_step (h : Standing self) {report : Report} (hforward : ¬self.GoesBack report) :
    Standing (self.step report) := by
  intro id prev hprev
  change (report.call self.index).byId.get id = some prev at hprev
  by_cases hid : id = report.reported.dispatchId
  · subst hid
    by_cases htakes : Takes self.index report
    · have htaken := htakes
      rw [Takes, hprev] at htaken
      have hlatest : max ((self.standing report.reported.dispatchId).getD 0)
          report.reported.revision = report.reported.revision := by
        refine max_eq_right (le_of_not_gt fun hlt => hforward ⟨by rw [← htaken]; rfl, htakes, ?_⟩)
        cases hstanding : self.standing report.reported.dispatchId with
        | none =>
          rw [hstanding] at hlt
          cases hlt
        | some standing =>
          rw [hstanding] at hlt
          exact ⟨standing, rfl, hlt⟩
      refine ⟨report.reported.revision, ?_, Report.stored_revision htaken.symm⟩
      exact (if_pos ⟨rfl, htakes⟩).trans (congrArg some hlatest)
    · rw [(byId_call_self self.index report).resolve_left htakes] at hprev
      obtain ⟨revision, hstanding, hknown⟩ := h _ prev hprev
      exact ⟨revision, (if_neg (fun hand => htakes hand.2)).trans hstanding, hknown⟩
  · rw [byId_call_other self.index report hid] at hprev
    obtain ⟨revision, hstanding, hknown⟩ := h id prev hprev
    exact ⟨revision, (if_neg (fun hand => hid hand.1)).trans hstanding, hknown⟩

/-- What a step may be told: an older value only where the guards have the revision or an earlier
time of update to compare it with, and the value of another thread only where they refuse it. -/
def Timely (self : Watched) (report : Report) : Prop :=
  ∀ new, report.stored = some new →
    (∀ standing, self.standing new.dispatch.dispatchId = some standing →
      report.reported.revision < standing →
        ∃ prev, self.index.byId.get new.dispatch.dispatchId = some prev ∧
          if new.revision.isSome then prev.revision.isSome
          else new.dispatch.updatedAt < prev.dispatch.updatedAt) ∧
    ∀ prev, self.index.byId.get new.dispatch.dispatchId = some prev →
      prev.dispatch.threadId ≠ new.dispatch.threadId →
        outdated prev new.dispatch new.revision = true

lemma goesBack_iff (h : Standing self) {report : Report} {new : IndexedDispatch}
    (hnew : report.stored = some new) :
    ¬ self.GoesBack report ↔ ∀ standing, self.standing new.dispatch.dispatchId = some standing →
      report.reported.revision < standing →
        ∃ prev, self.index.byId.get new.dispatch.dispatchId = some prev ∧
          if new.revision.isSome then prev.revision.isSome
          else new.dispatch.updatedAt < prev.dispatch.updatedAt := by
  have hid := (report.call_value hnew self.index).2
  have hrefused : ∀ standing, self.standing new.dispatch.dispatchId = some standing →
      report.reported.revision < standing →
      (Refused self.index new.dispatch new.revision ↔
        ∃ prev, self.index.byId.get new.dispatch.dispatchId = some prev ∧
          if new.revision.isSome then prev.revision.isSome
          else new.dispatch.updatedAt < prev.dispatch.updatedAt) := by
    intro standing hstanding hlt
    refine exists_congr (fun prev => and_congr_right (fun hprev => ?_))
    obtain ⟨known, hknown, hrevision⟩ := h _ prev hprev
    obtain rfl : standing = known := Option.some.inj (hstanding.symm.trans hknown)
    rcases report.stored_revision hnew with hnone | hsome
    · simp [outdated, hnone]
    · rcases hrevision with hunknown | hthere
      · simp [outdated, hsome, hunknown]
      · simp [outdated, hsome, hthere, hlt]
  rw [GoesBack, hnew, hid, takes_value hnew]
  constructor
  · intro hback standing hstanding hlt
    rw [← hrefused standing hstanding hlt]
    by_contra hlet
    exact hback ⟨rfl, hlet, standing, hstanding, hlt⟩
  · rintro hguarded ⟨-, hlet, standing, hstanding, hlt⟩
    exact hlet ((hrefused standing hstanding hlt).mpr (hguarded standing hstanding hlt))

lemma timely_iff (h : Standing self) (hl : Listed self.index) (report : Report) :
    self.Timely report ↔ ¬ self.GoesBack report ∧ Listed (self.step report).index := by
  change _ ↔ _ ∧ Listed (report.call self.index)
  cases hstored : report.stored with
  | none =>
    rw [report.call_deletion hstored]
    have htimely : self.Timely report := by
      intro new hnew
      rw [hstored] at hnew
      cases hnew
    have hforward : ¬ self.GoesBack report := by
      rintro ⟨hvalue, -⟩
      rw [hstored] at hvalue
      cases hvalue
    exact ⟨fun _ => ⟨hforward, listed_removeInner hl _ _⟩, fun _ => htimely⟩
  | some new =>
    rw [goesBack_iff h hstored, (report.call_value hstored self.index).1]
    constructor
    · intro htimely
      obtain ⟨hguarded, hthread⟩ := htimely new hstored
      exact ⟨hguarded, listed_upsertInner hl hthread⟩
    · rintro ⟨hguarded, hlisted⟩ found hfound
      obtain rfl : new = found := Option.some.inj (hstored.symm.trans hfound)
      refine ⟨hguarded, fun prev hprev hne => ?_⟩
      by_contra hold
      have hlet : ¬ Refused self.index new.dispatch new.revision := by
        rintro ⟨other, hother, hrefuses⟩
        obtain rfl : prev = other := Option.some.inj (hprev.symm.trans hother)
        exact hold hrefuses
      exact not_listed_upsertInner hl hprev hne hlet hlisted

lemma after_concat (before : List Report) (report : Report) :
    after (before ++ [report]) = (after before).step report := by
  rw [after, List.foldl_append]
  rfl

lemma standing_start : Standing start := by
  intro id prev hprev
  cases hprev

lemma standing_after {reports : List Report} (hforward : ∀ before report rest,
    reports = before ++ report :: rest → ¬(after before).GoesBack report) :
    Standing (after reports) := by
  induction reports using List.reverseRecOn with
  | nil => exact standing_start
  | append_singleton reports report ih =>
    rw [after_concat]
    refine standing_step (ih fun before other rest heq => ?_) (hforward reports report [] rfl)
    exact hforward before other (rest ++ [report]) (by rw [heq]; simp)

lemma orderly_after {reports : List Report} (htimely : ∀ before report rest,
    reports = before ++ report :: rest → (after before).Timely report) :
    Standing (after reports) ∧ Listed (after reports).index := by
  induction reports using List.reverseRecOn with
  | nil => exact ⟨standing_start, listed_default⟩
  | append_singleton reports report ih =>
    obtain ⟨hstanding, hlisted⟩ := ih fun before other rest heq =>
      htimely before other (rest ++ [report]) (by rw [heq]; simp)
    obtain ⟨hforward, hnext⟩ :=
      (timely_iff hstanding hlisted report).mp (htimely reports report [] rfl)
    rw [after_concat]
    exact ⟨standing_step hstanding hforward, hnext⟩

/-- No entry goes back and the lists agree with the entries in every state of a run if and only if
every report of the run is timely. -/
theorem index_keeps_time (reports : List Report) :
    (∀ before report rest, reports = before ++ report :: rest →
      ¬ (after before).GoesBack report) ∧ (∀ before, before <+: reports →
        Listed (after before).index) ↔
    ∀ before report rest, reports = before ++ report :: rest → (after before).Timely report := by
  constructor
  · rintro ⟨hforward, hlisted⟩ before report rest rfl
    have hstanding := @standing_after before fun earlier other more heq =>
      hforward earlier other (more ++ report :: rest) (by rw [heq]; simp)
    refine (timely_iff hstanding (hlisted before ⟨_, rfl⟩) report).mpr
      ⟨hforward before report rest rfl, ?_⟩
    rw [← after_concat]
    exact hlisted _ ⟨rest, by simp⟩
  · intro htimely
    have horderly : ∀ before, before <+: reports →
        Standing (after before) ∧ Listed (after before).index := by
      rintro before ⟨more, rfl⟩
      exact orderly_after fun earlier report rest heq =>
        htimely earlier report (rest ++ more) (by rw [heq]; simp)
    refine ⟨fun before report rest hreports => ?_, fun before hprefix => (horderly before hprefix).2⟩
    obtain ⟨hstanding, hlisted⟩ := horderly before ⟨_, hreports.symm⟩
    exact ((timely_iff hstanding hlisted report).mp (htimely before report rest hreports)).1

def dispatchAt (status : RunDispatchStatus) (updatedAt : Nat) : RunDispatch :=
  { RunDispatch.queued "dispatch" "thread" "run" 1 with status := status, updatedAt := updatedAt }

def ackedHistory : KvHistory where
  entries := [.value (dispatchAt .queued 10) 1, .value (dispatchAt .acked 20) 2]
  increasing := by decide
  updated := by
    refine List.pairwise_pair.mpr ?_
    rintro d e r s hd he -
    cases hd
    cases he
    decide

theorem late_event_requeues :
    ∃ reports : List Report, (∀ report ∈ reports, report.reported ∈ ackedHistory.entries) ∧
      ∃ before report rest, reports = before ++ report :: rest ∧
        (after before).GoesBack report ∧
        (after reports).index.get "dispatch" = some (dispatchAt .queued 10) := by
  let newest : Report := .entry (.value (dispatchAt .acked 20) 2)
  let read : Report := .read (dispatchAt .acked 20) 2
  let late : Report := .entry (.value (dispatchAt .queued 10) 1)
  refine ⟨[newest, read, late], ?_, [newest, read], late, [], rfl, ⟨rfl, ?_, 2, ?_, ?_⟩, ?_⟩
  · simp [newest, read, late, ackedHistory, Report.reported]
  · decide
  · rfl
  · decide
  · rfl

end Watched

end Awaken.Stores.NatsMailbox
