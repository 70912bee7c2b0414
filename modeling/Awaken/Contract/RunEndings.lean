import Awaken.Contract.DurableEventSink
import Awaken.Lib.Filtered

namespace Awaken.Contract.EventSink

open Awaken.Lib Awaken.Lib.Text Awaken.Contract.EventStore Awaken.Contract.Lifecycle

variable {I J : Type}

namespace AgentEvent

def Starts (runId : String) : AgentEvent I J → Prop
  | .runStart _ id _ _ => id = runId
  | .runFinish .. => False

def Finishes (runId : String) : AgentEvent I J → Prop
  | .runStart .. => False
  | .runFinish _ id _ _ _ => id = runId

def Named : AgentEvent I J → Prop
  | .runStart threadId runId _ _ | .runFinish threadId runId _ _ _ =>
    isBlank threadId = false ∧ isBlank runId = false

end AgentEvent

def SameRound (runId : String) (events : List (AgentEvent I J)) : Prop :=
  ∀ event ∈ events, ¬ event.Starts runId

namespace DurableEventSink

variable (toValue : AgentEvent I J → J) (sink : DurableEventSink I J)

def emitAll (events : List (AgentEvent I J)) : DurableEventSink I J :=
  events.foldl (emit toValue) sink

def Stores (event : AgentEvent I J) : Prop :=
  match event with
  | .runStart .. => False
  | .runFinish threadId runId _ _ termination =>
    ∃ draft : CanonicalEventDraft J,
      (sink.emit toValue event).stager = sink.stager ++ [.new draft] ∧
      draft.scopes = [.thread threadId, .run runId] ∧
      draft.eventKind.1 = runFinishKind termination ∧ draft.payload = toValue event

def Suppresses (event : AgentEvent I J) : Prop := (sink.emit toValue event).stager = sink.stager

/-- The last finish of every round is stored in that round, and only a finish that the round has
had before is suppressed. -/
structure RecordsEndings (events : List (AgentEvent I J)) : Prop where
  last : ∀ pre finish post runId, events = pre ++ finish :: post → finish.Finishes runId →
    (∀ mid later rest, post = mid ++ later :: rest → later.Finishes runId →
      ¬ SameRound runId mid) →
    ∃ before mid, pre ++ [finish] = before ++ finish :: mid ∧ SameRound runId mid ∧
      (sink.emitAll toValue before).Stores toValue finish
  suppressed : ∀ pre finish post runId, events = pre ++ finish :: post →
    finish.Finishes runId → (sink.emitAll toValue pre).Suppresses toValue finish →
    ∃ before mid, pre = before ++ finish :: mid ∧ SameRound runId mid

structure SingleEnding (mode : RuntimeEventDurability) (events : List (AgentEvent I J)) :
    Prop where
  recordable : ∀ finish ∈ events, ∀ runId, finish.Finishes runId →
    mode ≠ .disabled ∧ finish.Named
  once : ∀ pre finish mid later post runId, events = pre ++ finish :: (mid ++ later :: post) →
    finish.Finishes runId → later.Finishes runId → later = finish ∧ SameRound runId mid

section Emit

variable {toValue : AgentEvent I J → J} {sink : DurableEventSink I J}

lemma shouldPersist_domainEvent (mode : RuntimeEventDurability) :
    mode.shouldPersist .domainEvent = true ↔ mode ≠ .disabled := by
  cases mode <;> simp [RuntimeEventDurability.shouldPersist]

lemma runFinishKind_named (termination : TerminationReason) :
    isBlank (runFinishKind termination) = false := by
  cases termination with
  | stopped reason | blocked reason => exact (by decide : isBlank "RunTerminated" = false)
  | error message => exact (by decide : isBlank "RunErrored" = false)
  | naturalEnd | behaviorRequested | cancelled | suspended => decide

open ScopedAgentEventNormalizer

lemma build_eq (normalizer : ScopedAgentEventNormalizer) (fidelity : FidelityClass)
    {kind : String} (threadId runId : String) (payload : J) (hk : isBlank kind = false) :
    ∃ draft : CanonicalEventDraft J, draft.scopes = [.thread threadId, .run runId] ∧
      draft.eventKind.1 = kind ∧ draft.payload = payload ∧
      normalizer.build fidelity kind (scopesFor threadId runId) payload = (do
        rejectBlank "thread_id" threadId
        rejectBlank "run_id" runId
        return ⟨fidelity, draft⟩) := by
  let draft : CanonicalEventDraft J := {
    scopes := [.thread threadId, .run runId]
    eventKind := ⟨kind, hk⟩
    payload := payload
    causationId := none
    correlationId := normalizer.context.correlationId
    origin := normalizer.context.origin
    visibility := .public
    schemaVersion := 1 }
  have hnew : CanonicalEventKind.new kind = .ok ⟨kind, hk⟩ := dif_pos hk
  have hvalid : ∀ correlationId, ({ draft with correlationId }).validate =
      (do rejectBlank "thread_id" threadId; rejectBlank "run_id" runId) := fun _ =>
    CanonicalEventDraft.validate_thread_run rfl normalizer.context.origin_named Nat.one_ne_zero
  refine ⟨draft, rfl, rfl, rfl, ?_⟩
  have hbuild : normalizer.build fidelity kind (scopesFor threadId runId) payload = (do
      ({ draft with correlationId := none }).validate
      draft.validate
      return ⟨fidelity, draft⟩) := by
    rw [build, hnew]
    change ((do
      ({ draft with correlationId := none }).validate
      return { draft with correlationId := none }) >>= fun _ => _) = _
    rw [bind_assoc]
    rfl
  rw [hbuild, hvalid, hvalid draft.correlationId]
  by_cases ht : isBlank threadId = true <;> by_cases hr : isBlank runId = true <;>
    simp [rejectBlank, rejectIf, ht, hr] <;> rfl

lemma stager_first {runId : String} {finish : AgentEvent I J} (hf : finish.Finishes runId)
    (hnew : runId ∉ sink.normalizer.terminalRuns) :
    (sink.mode ≠ .disabled ∧ finish.Named → sink.Stores toValue finish) ∧
    (¬ (sink.mode ≠ .disabled ∧ finish.Named) → sink.Suppresses toValue finish) := by
  cases finish with
  | runStart => exact hf.elim
  | runFinish threadId id identity result termination =>
    obtain rfl : id = runId := hf
    obtain ⟨draft, hscopes, hkind, hpayload, hbuild⟩ := build_eq sink.normalizer .domainEvent threadId
      id (toValue (.runFinish threadId id identity result termination))
      (runFinishKind_named termination)
    have hemit : (sink.emit toValue (.runFinish threadId id identity result termination)).stager =
        sink.stager ++ staged sink.mode
          (((sink.normalizer.build .domainEvent (runFinishKind termination) (scopesFor threadId id)
            (toValue (.runFinish threadId id identity result termination))).map some).map
              Option.toList) := by
      simp only [emit, normalizeMany, ScopedAgentEventNormalizer.normalize, hnew, if_false]
    have hpersist := shouldPersist_domainEvent sink.mode
    by_cases hnamed : isBlank threadId = false ∧ isBlank id = false
    · have hok : sink.normalizer.build .domainEvent (runFinishKind termination)
          (scopesFor threadId id) (toValue (.runFinish threadId id identity result termination)) =
          .ok ⟨.domainEvent, draft⟩ := by
        rw [hbuild]
        simp [rejectBlank, rejectIf, hnamed.1, hnamed.2]
        rfl
      rw [hok] at hemit
      refine ⟨?_, ?_⟩
      · rintro ⟨hmode, -⟩
        refine ⟨draft, ?_, hscopes, hkind, hpayload⟩
        simpa [staged, Except.map, hpersist.mpr hmode] using hemit
      · intro hmode
        have hdisabled : sink.mode = .disabled := by
          by_contra hne
          exact hmode ⟨hne, hnamed⟩
        simpa [Suppresses, staged, Except.map, hdisabled,
          RuntimeEventDurability.shouldPersist] using hemit
    · have herror : ∃ error, sink.normalizer.build .domainEvent (runFinishKind termination)
          (scopesFor threadId id) (toValue (.runFinish threadId id identity result termination)) =
          .error error := by
        rw [hbuild]
        by_cases ht : isBlank threadId = true
        · exact ⟨_, by simp only [rejectBlank, rejectIf, ht, if_true]; rfl⟩
        · have hr : isBlank id = true := by
            by_contra hr
            exact hnamed ⟨by simpa using ht, by simpa using hr⟩
          refine ⟨.validation s!"run_id is required" .none, ?_⟩
          simp only [rejectBlank, rejectIf, ht, hr, if_true, Bool.false_eq_true, if_false]
          rfl
      obtain ⟨error, herror⟩ := herror
      rw [herror] at hemit
      refine ⟨fun h => absurd h.2 hnamed, fun _ => ?_⟩
      simpa [Suppresses, staged, Except.map] using hemit

lemma suppresses_again {runId : String} {finish : AgentEvent I J} (hf : finish.Finishes runId)
    (hold : runId ∈ sink.normalizer.terminalRuns) : sink.Suppresses toValue finish := by
  cases finish with
  | runStart => exact hf.elim
  | runFinish threadId id identity result termination =>
    obtain rfl : id = runId := hf
    simp [Suppresses, emit, normalizeMany, ScopedAgentEventNormalizer.normalize, hold, staged,
      Except.map]

lemma not_suppresses {event : AgentEvent I J} (h : sink.Stores toValue event) :
    ¬ sink.Suppresses toValue event := by
  cases event with
  | runStart => exact h.elim
  | runFinish =>
    obtain ⟨draft, hstager, -⟩ := h
    simp [Suppresses, hstager]

lemma mem_terminalRuns_emit (runId : String) (event : AgentEvent I J) :
    runId ∈ (sink.emit toValue event).normalizer.terminalRuns ↔
      runId ∈ sink.normalizer.terminalRuns ∨ event.Finishes runId := by
  cases event with
  | runStart => simp [emit, normalizeMany, ScopedAgentEventNormalizer.normalize, AgentEvent.Finishes]
  | runFinish threadId id identity result termination =>
    by_cases h : id ∈ sink.normalizer.terminalRuns
    · simp only [emit, normalizeMany, ScopedAgentEventNormalizer.normalize, h, if_true, AgentEvent.Finishes]
      grind
    · simp only [emit, normalizeMany, ScopedAgentEventNormalizer.normalize, h, if_false, AgentEvent.Finishes]
      grind

lemma mem_terminalRuns_emitAll (runId : String) (events : List (AgentEvent I J)) :
    runId ∈ (sink.emitAll toValue events).normalizer.terminalRuns ↔
      runId ∈ sink.normalizer.terminalRuns ∨ ∃ event ∈ events, event.Finishes runId := by
  induction events generalizing sink with
  | nil => simp [emitAll]
  | cons event events ih =>
    change runId ∈ ((sink.emit toValue event).emitAll toValue events).normalizer.terminalRuns ↔ _
    rw [ih, mem_terminalRuns_emit]
    simp [or_assoc]

lemma mode_emitAll (events : List (AgentEvent I J)) :
    (sink.emitAll toValue events).mode = sink.mode := by
  induction events generalizing sink with
  | nil => rfl
  | cons event events ih => exact ih

end Emit

section Endings

variable {toValue : AgentEvent I J → J} {context : AgentEventNormalizationContext}
  {resumed : Bool} {mode : RuntimeEventDurability} {runId : String} {finish : AgentEvent I J}
  {before events : List (AgentEvent I J)}

lemma terminalRuns_wrap :
    (wrapRuntimeEventSink context resumed mode : DurableEventSink I J).normalizer.terminalRuns =
      [] := by
  cases resumed <;> rfl

lemma first_of_no_finish (hf : finish.Finishes runId)
    (hbefore : ∀ event ∈ before, ¬ event.Finishes runId) :
    let sink := (wrapRuntimeEventSink context resumed mode).emitAll toValue before
    (mode ≠ .disabled ∧ finish.Named → sink.Stores toValue finish) ∧
    (¬ (mode ≠ .disabled ∧ finish.Named) → sink.Suppresses toValue finish) := by
  intro sink
  have hmode : sink.mode = mode := mode_emitAll before
  have hnew : runId ∉ sink.normalizer.terminalRuns := by
    rw [mem_terminalRuns_emitAll, terminalRuns_wrap]
    rintro (h | ⟨event, hevent, h⟩)
    · simp at h
    · exact hbefore event hevent h
  simpa only [hmode] using stager_first hf hnew

lemma suppresses_of_finish (hf : finish.Finishes runId)
    (hbefore : ∃ event ∈ before, event.Finishes runId) :
    ((wrapRuntimeEventSink context resumed mode).emitAll toValue before).Suppresses
      toValue finish := by
  refine suppresses_again hf ?_
  rw [mem_terminalRuns_emitAll]
  exact .inr hbefore

lemma recordsEndings_of_singleEnding (h : SingleEnding mode events) :
    (wrapRuntimeEventSink context resumed mode).RecordsEndings toValue events := by
  have hstores : ∀ before finish post runId, events = before ++ finish :: post →
      finish.Finishes runId → (∀ event ∈ before, ¬ event.Finishes runId) →
      ((wrapRuntimeEventSink context resumed mode).emitAll toValue before).Stores
        toValue finish := by
    intro before finish post runId hev hf hbefore
    exact (first_of_no_finish hf hbefore).1
      (h.recordable finish (hev ▸ List.mem_append_right _ List.mem_cons_self) runId hf)
  refine ⟨?_, ?_⟩
  · intro pre finish post runId hev hf _
    by_cases hearlier : ∃ event ∈ pre, event.Finishes runId
    · obtain ⟨before, first, mid, rfl, hfirst, hbefore⟩ := exists_first hearlier
      have hev' : events = before ++ first :: (mid ++ finish :: post) := by
        rw [hev, List.append_assoc, List.cons_append]
      obtain ⟨rfl, hround⟩ := h.once before first mid finish post runId hev' hfirst hf
      refine ⟨before, mid ++ [finish], by simp, ?_, hstores before finish _ runId hev' hf hbefore⟩
      intro event hevent hstart
      rcases List.mem_append.mp hevent with hmid | hlast
      · exact hround event hmid hstart
      · obtain rfl := List.mem_singleton.mp hlast
        cases event with
        | runStart => exact hf
        | runFinish => exact hstart
    · refine ⟨pre, [], rfl, by simp [SameRound], hstores pre finish post runId hev hf ?_⟩
      exact fun event hevent hfinish => hearlier ⟨event, hevent, hfinish⟩
  · intro pre finish post runId hev hf hsuppressed
    by_cases hearlier : ∃ event ∈ pre, event.Finishes runId
    · obtain ⟨before, first, mid, rfl, hfirst, -⟩ := exists_first hearlier
      have hev' : events = before ++ first :: (mid ++ finish :: post) := by
        rw [hev, List.append_assoc, List.cons_append]
      obtain ⟨rfl, hround⟩ := h.once before first mid finish post runId hev' hfirst hf
      exact ⟨before, mid, rfl, hround⟩
    · have hs := hstores pre finish post runId hev hf
        (fun event hevent hfinish => hearlier ⟨event, hevent, hfinish⟩)
      exact absurd hsuppressed (not_suppresses hs)

lemma not_starts_of_finishes (hf : finish.Finishes runId) : ¬ finish.Starts runId := by
  cases finish with
  | runStart => exact hf.elim
  | runFinish => exact id

lemma once_of_recordsEndings
    (h : (wrapRuntimeEventSink context resumed mode).RecordsEndings toValue events) (n : Nat) :
    ∀ pre finish post, pre.length = n → events = pre ++ finish :: post → finish.Finishes runId →
      ∀ before first mid, pre = before ++ first :: mid → first.Finishes runId →
        first = finish ∧ SameRound runId mid := by
  induction n using Nat.strong_induction_on with
  | _ n ih =>
    intro pre finish post hlen hev hf before first mid hpre hfirst
    have hearlier : ∃ event ∈ pre, event.Finishes runId := ⟨first, by simp [hpre], hfirst⟩
    obtain ⟨b, m, hb, hm⟩ := h.suppressed pre finish post runId hev hf
      (suppresses_of_finish hf hearlier)
    have heq : before ++ first :: mid = b ++ finish :: m := hpre ▸ hb
    rcases List.append_eq_append_iff.mp heq with ⟨between, rfl, hrest⟩ | ⟨between, rfl, hrest⟩
    · cases between with
      | nil =>
        obtain ⟨rfl, rfl⟩ := List.cons.inj hrest
        exact ⟨rfl, hm⟩
      | cons event between =>
        obtain ⟨rfl, rfl⟩ := List.cons.inj hrest
        have hshort : (before ++ first :: between).length < n := by
          rw [← hlen, hb]
          simp
        have hev' : events = (before ++ first :: between) ++ finish :: (m ++ finish :: post) := by
          rw [hev, hb]
          simp
        obtain ⟨rfl, hround⟩ := ih _ hshort _ finish _ rfl hev' hf before first between rfl hfirst
        refine ⟨rfl, ?_⟩
        intro event hevent
        rcases List.mem_append.mp hevent with hmem | hmem
        · exact hround event hmem
        · rcases List.mem_cons.mp hmem with rfl | hmem
          · exact not_starts_of_finishes hf
          · exact hm event hmem
    · cases between with
      | nil =>
        obtain ⟨rfl, rfl⟩ := List.cons.inj hrest
        exact ⟨rfl, hm⟩
      | cons event between =>
        obtain ⟨rfl, rfl⟩ := List.cons.inj hrest
        have hshort : (b ++ finish :: between).length < n := by
          rw [← hlen, hpre]
          simp
        have hev' : events = (b ++ finish :: between) ++ first :: (mid ++ finish :: post) := by
          rw [hev, hpre]
          simp
        have heq := (ih _ hshort _ first _ rfl hev' hfirst b finish between rfl hf).1
        refine ⟨heq.symm, fun event hevent => hm event ?_⟩
        exact List.mem_append_right _ (List.mem_cons_of_mem _ hevent)

lemma singleEnding_of_recordsEndings
    (h : (wrapRuntimeEventSink context resumed mode).RecordsEndings toValue events) :
    SingleEnding mode events := by
  have honce : ∀ pre later post runId, events = pre ++ later :: post → later.Finishes runId →
      ∀ before finish mid, pre = before ++ finish :: mid → finish.Finishes runId →
        finish = later ∧ SameRound runId mid := fun pre later post _ =>
    once_of_recordsEndings h _ pre later post rfl
  refine ⟨?_, ?_⟩
  · intro finish hfinish runId hf
    obtain ⟨before, first, rest, hev, hfirst, hbefore⟩ :=
      exists_first (⟨finish, hfinish, hf⟩ : ∃ event ∈ events, event.Finishes runId)
    have hfirst_recordable : mode ≠ .disabled ∧ first.Named := by
      by_contra hnot
      obtain ⟨b, m, rfl, -⟩ := h.suppressed before first rest runId hev hfirst
        ((first_of_no_finish hfirst hbefore).2 hnot)
      exact hbefore first (by simp) hfirst
    rw [hev] at hfinish
    rcases List.mem_append.mp hfinish with hmem | hmem
    · exact absurd hf (hbefore finish hmem)
    · rcases List.mem_cons.mp hmem with rfl | hmem
      · exact hfirst_recordable
      · obtain ⟨mid, post, rfl⟩ := List.append_of_mem hmem
        have hev' : events = (before ++ first :: mid) ++ finish :: post := by
          rw [hev, List.append_assoc, List.cons_append]
        have heq := (honce _ finish post runId hev' hf before first mid rfl hfirst).1
        exact heq ▸ hfirst_recordable
  · intro pre finish mid later post runId hev hf hlater
    have hev' : events = (pre ++ finish :: mid) ++ later :: post := by
      rw [hev, List.append_assoc, List.cons_append]
    obtain ⟨heq, hround⟩ := honce _ later post runId hev' hlater pre finish mid rfl hf
    exact ⟨heq.symm, hround⟩

/-- The log tells how the runs ended exactly when each of them ended once. -/
theorem run_endings_recorded_iff (toValue : AgentEvent I J → J)
    (context : AgentEventNormalizationContext) (resumed : Bool) (mode : RuntimeEventDurability)
    (events : List (AgentEvent I J)) :
    (wrapRuntimeEventSink context resumed mode).RecordsEndings toValue events ↔
      SingleEnding mode events :=
  ⟨singleEnding_of_recordsEndings, recordsEndings_of_singleEnding⟩

def approvedRun : List (AgentEvent Unit Unit) :=
  [.runStart "t1" "r1" none none, .runFinish "t1" "r1" none none .suspended,
    .runStart "t1" "r1" none none, .runFinish "t1" "r1" none none .naturalEnd]

theorem approved_run_ending_lost :
    ∃ context : AgentEventNormalizationContext,
      ¬ (wrapRuntimeEventSink context false .compacted).RecordsEndings (fun _ => ())
        approvedRun := by
  refine ⟨⟨"t1", "r1", "server", none, by decide, by decide, by decide⟩, fun h => ?_⟩
  have honce := (singleEnding_of_recordsEndings h).once [.runStart "t1" "r1" none none]
    (.runFinish "t1" "r1" none none .suspended) [.runStart "t1" "r1" none none]
    (.runFinish "t1" "r1" none none .naturalEnd) [] "r1" rfl rfl rfl
  cases honce.1

end Endings

end DurableEventSink

end Awaken.Contract.EventSink
