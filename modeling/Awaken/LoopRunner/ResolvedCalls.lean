import Awaken.LoopRunner.InterruptedText
import Awaken.LoopRunner.StreamRecovery

namespace Awaken.LoopRunner

open Awaken.Lib Awaken.Contract Awaken.Contract.Executor Awaken.Contract.Event

variable {I U N E : Type}

def resolves (id : String) : AgentEvent I U (Value N) → Bool
  | .toolCallReady other _ _ | .toolCallCancel other _ _ => decide (other = id)
  | _ => false

def isReset : AgentEvent I U (Value N) → Bool
  | .streamReset _ => true
  | _ => false

def Resolved (id : String) (later : List (AgentEvent I U (Value N))) : Prop :=
  later.countP (resolves id) = 1 ∨ later.any isReset = true

/-- Each start that the sink was sent in the round is resolved by what it was sent after it. -/
def StartsResolved (round : Round I U N) : Prop :=
  ∀ before id name after, round.sent = before ++ .toolCallStart id name :: after →
    Resolved id (after ++ round.recovery)

def openCalls (json : JsonText N) (events : List (LlmStreamEvent U)) : List Partial :=
  ((startedIds events).map (callOf · events)).filter (fun part => (wholeCall json part).isNone)

def wholeCalls (json : JsonText N) (events : List (LlmStreamEvent U)) :
    List (ToolCall (Value N)) :=
  ((startedIds events).map (callOf · events)).filterMap (wholeCall json)

/-- One call at most is open, or there is neither text nor a whole call. -/
def OneOpen (json : JsonText N) (events : List (LlmStreamEvent U)) : Prop :=
  (openCalls json events).length ≤ 1 ∨ textOf events = "" ∧ wholeCalls json events = []

lemma mem_startedIds {events : List (LlmStreamEvent U)} {id : String} :
    id ∈ startedIds events ↔ ∃ name,
      (.toolCallStart id name : AgentEvent I U (Value N)) ∈
        events.flatMap LlmStreamEvent.forwarded := by
  induction events with
  | nil => simp [startedIds]
  | cons event events ih =>
    rw [List.flatMap_cons]
    cases event <;> simp [startedIds, LlmStreamEvent.forwarded, ih, exists_or]

lemma forwarded_unresolving (events : List (LlmStreamEvent U)) (id : String) :
    ∀ event ∈ (events.flatMap LlmStreamEvent.forwarded : List (AgentEvent I U (Value N))),
      resolves id event = false ∧ isReset event = false := by
  intro event hevent
  obtain ⟨source, -, hsent⟩ := List.mem_flatMap.mp hevent
  cases source <;> simp [LlmStreamEvent.forwarded] at hsent <;> subst hsent <;> exact ⟨rfl, rfl⟩

lemma resolved_append {before later : List (AgentEvent I U (Value N))} {id : String}
    (h : ∀ event ∈ before, resolves id event = false ∧ isReset event = false) :
    Resolved id (before ++ later) ↔ Resolved id later := by
  have hcount : before.countP (resolves id) = 0 :=
    List.countP_eq_zero.mpr (fun event hevent => by simp [(h event hevent).1])
  have hreset : before.any isReset = false :=
    List.any_eq_false.mpr (fun event hevent => by simp [(h event hevent).2])
  rw [Resolved, List.countP_append, hcount, List.any_append, hreset, Nat.zero_add,
    Bool.false_or, Resolved]

lemma startsResolved_iff {events : List (LlmStreamEvent U)} {round : Round I U N}
    (hsent : round.sent = events.flatMap LlmStreamEvent.forwarded) :
    StartsResolved round ↔ ∀ id ∈ startedIds events, Resolved id round.recovery := by
  have hafter : ∀ {before after : List (AgentEvent I U (Value N))} {id name : String},
      round.sent = before ++ .toolCallStart id name :: after →
        (Resolved id (after ++ round.recovery) ↔ Resolved id round.recovery) := by
    intro before after id name hsplit
    refine resolved_append (fun event hevent => ?_)
    refine forwarded_unresolving events id event ?_
    rw [← hsent, hsplit]
    exact List.mem_append_right _ (List.mem_cons_of_mem _ hevent)
  have hstarts : ∀ {id : String}, id ∈ startedIds events ↔
      ∃ name, (.toolCallStart id name : AgentEvent I U (Value N)) ∈ round.sent := by
    intro id
    rw [hsent]
    exact mem_startedIds
  constructor
  · intro hall id hid
    obtain ⟨name, hname⟩ := hstarts.mp hid
    obtain ⟨before, after, hsplit⟩ := List.append_of_mem hname
    exact (hafter hsplit).mp (hall before id name after hsplit)
  · intro hall before id name after hsplit
    refine (hafter hsplit).mpr (hall id (hstarts.mpr ⟨name, ?_⟩))
    rw [hsplit]
    exact List.mem_append_right _ List.mem_cons_self

lemma wholeCall_id {json : JsonText N} {part : Partial} {call : ToolCall (Value N)}
    (h : wholeCall json part = some call) : call.id = part.id := by
  unfold wholeCall at h
  split at h
  · cases h
  · obtain ⟨arguments, -, hcall⟩ := Option.bind_eq_some_iff.mp h
    split at hcall
    · cases hcall
    · cases hcall
      rfl

section Distinct

variable {json : JsonText N} {events : List (LlmStreamEvent U)}

lemma mem_startedIds_iff {id : String} : id ∈ startedIds events ↔
    id ∈ (wholeCalls json events).map (·.id) ∨ id ∈ (openCalls json events).map (·.id) := by
  constructor
  · intro hid
    cases hcall : wholeCall json (callOf id events) with
    | some call =>
      refine .inl (List.mem_map.mpr ⟨call, ?_, wholeCall_id hcall⟩)
      exact List.mem_filterMap.mpr ⟨_, List.mem_map_of_mem hid, hcall⟩
    | none =>
      refine .inr (List.mem_map.mpr ⟨callOf id events, ?_, rfl⟩)
      exact List.mem_filter.mpr ⟨List.mem_map_of_mem hid, by rw [hcall]; rfl⟩
  · rintro (hid | hid)
    · obtain ⟨call, hcall, rfl⟩ := List.mem_map.mp hid
      obtain ⟨part, hpart, hwhole⟩ := List.mem_filterMap.mp hcall
      obtain ⟨id, hid, rfl⟩ := List.mem_map.mp hpart
      rw [wholeCall_id hwhole]
      exact hid
    · obtain ⟨part, hpart, rfl⟩ := List.mem_map.mp hid
      obtain ⟨id, hstarted, rfl⟩ := List.mem_map.mp (List.mem_filter.mp hpart).1
      exact hstarted

lemma map_callOf_id (ids : List String) (events : List (LlmStreamEvent U)) :
    (ids.map (callOf · events)).map (·.id) = ids := by
  rw [List.map_map]
  exact List.map_id'' (fun id => rfl) ids

lemma filterMap_ids (json : JsonText N) (parts : List Partial) :
    (parts.filterMap (wholeCall json)).map (·.id) =
      (parts.filter (fun part => (wholeCall json part).isSome)).map (·.id) := by
  induction parts with
  | nil => rfl
  | cons part parts ih =>
    cases hcall : wholeCall json part with
    | some call =>
      rw [List.filterMap_cons_some hcall, List.filter_cons_of_pos (by rw [hcall]; rfl),
        List.map_cons, List.map_cons, ih, wholeCall_id hcall]
    | none =>
      rw [List.filterMap_cons_none hcall, List.filter_cons_of_neg (by simp [hcall]), ih]

lemma nodup_wholeIds (hdistinct : (startedIds events).Nodup) :
    ((wholeCalls json events).map (·.id)).Nodup := by
  rw [wholeCalls, filterMap_ids]
  refine List.Nodup.sublist (List.filter_sublist.map _) ?_
  rw [map_callOf_id]
  exact hdistinct

lemma nodup_openIds (hdistinct : (startedIds events).Nodup) :
    ((openCalls json events).map (·.id)).Nodup := by
  refine List.Nodup.sublist (List.filter_sublist.map _) ?_
  rw [map_callOf_id]
  exact hdistinct

lemma open_not_whole {id : String} (hopen : id ∈ (openCalls json events).map (·.id)) :
    id ∉ (wholeCalls json events).map (·.id) := by
  intro hwhole
  obtain ⟨part, hpart, rfl⟩ := List.mem_map.mp hopen
  obtain ⟨hstarted, hnone⟩ := List.mem_filter.mp hpart
  obtain ⟨id, -, rfl⟩ := List.mem_map.mp hstarted
  obtain ⟨call, hcall, hsame⟩ := List.mem_map.mp hwhole
  obtain ⟨other, hother, hsome⟩ := List.mem_filterMap.mp hcall
  obtain ⟨otherId, -, rfl⟩ := List.mem_map.mp hother
  have hid : otherId = id := (wholeCall_id hsome).symm.trans hsame
  rw [← hid, hsome] at hnone
  cases hnone

end Distinct

lemma all_last_iff {ids : List String} (hdistinct : ids.Nodup) :
    (∀ id ∈ ids, ids.getLast? = some id) ↔ ids.length ≤ 1 := by
  constructor
  · intro hall
    cases ids with
    | nil => simp
    | cons a ids =>
      cases ids with
      | nil => simp
      | cons b ids =>
        have ha := hall a List.mem_cons_self
        have hb := hall b (List.mem_cons_of_mem _ List.mem_cons_self)
        rw [ha] at hb
        obtain rfl := Option.some.inj hb
        exact absurd List.mem_cons_self (List.nodup_cons.mp hdistinct).1
  · intro hlength id hid
    match ids, hlength with
    | [other], _ =>
      rw [List.mem_singleton.mp hid]
      rfl

lemma countP_ready (id : String) (calls : List (ToolCall (Value N))) :
    (calls.map (fun call => (.toolCallReady call.id call.name call.arguments :
      AgentEvent I U (Value N)))).countP (resolves id) = (calls.map (·.id)).count id := by
  rw [List.countP_map, List.count_eq_countP, List.countP_map]
  rfl

lemma not_reset_ready (calls : List (ToolCall (Value N))) :
    (calls.map (fun call => (.toolCallReady call.id call.name call.arguments :
      AgentEvent I U (Value N)))).any isReset = false := by
  rw [List.any_map]
  exact List.any_eq_false.mpr (fun call _ => by simp [isReset])

section Recovery

open StreamingAccumulator

variable {json : JsonText N} {events : List (LlmStreamEvent U)}

lemma snapshot_inFlight (json : JsonText N) (events : List (LlmStreamEvent U)) :
    ((gather events).interruptSnapshot json).inFlightTool =
      (openCalls json events).getLast?.map Partial.inFlight := by
  have hopen : openPartials json ((startedIds events).map (callOf · events)) =
      openCalls json events := by
    unfold openPartials openCalls
    simp only [complete_eq_wholeCall]
  rw [interruptSnapshot, InterruptSnapshot.fromPartials_eq, partials_gather, hopen]

lemma join_eq_empty {blocks : List String} {text : String} :
    String.join blocks ++ text = "" ↔ String.join blocks = "" ∧ text = "" := by
  simp

lemma snapshot_blank (json : JsonText N) (events : List (LlmStreamEvent U)) :
    ((gather events).interruptSnapshot json).text.getD "" = "" ↔ textOf events = "" := by
  obtain ⟨hblocks, hshape⟩ := text_gather events
  rw [interruptSnapshot, InterruptSnapshot.fromPartials_eq, closedText_eq hblocks, ← hshape.whole,
    join_eq_empty]
  by_cases hcurrent : (gather events).currentText = ""
  · by_cases hjoin : String.join (gather events).contentBlocks = ""
    · simp [hcurrent, hjoin]
    · simp [hcurrent, hjoin]
  · simp [hcurrent]

def recoveryOf (json : JsonText N) (events : List (LlmStreamEvent U)) (cause : InterruptCause)
    (messages : List Continuation) : List (AgentEvent I U (Value N)) :=
  (applyRecoveryPlan (I := I) (U := U) messages cause
    ((gather events).interruptSnapshot json)).2.1

lemma resolved_synthesized (hdistinct : (startedIds events).Nodup) (cause : InterruptCause)
    {id : String} (hid : id ∈ startedIds events) :
    Resolved id (((openCalls json events).getLast?.map Partial.inFlight).toList.map
        (fun hint => (.toolCallCancel hint.id hint.name cause.display :
          AgentEvent I U (Value N))) ++
      (wholeCalls json events).map
        (fun call => .toolCallReady call.id call.name call.arguments)) ↔
      (id ∈ (openCalls json events).map (·.id) →
        ((openCalls json events).map (·.id)).getLast? = some id) := by
  rw [Resolved, List.countP_append, countP_ready, List.any_append, not_reset_ready,
    List.getLast?_map]
  have hcancels : (((openCalls json events).getLast?.map Partial.inFlight).toList.map
      (fun hint => (.toolCallCancel hint.id hint.name cause.display :
        AgentEvent I U (Value N)))).countP (resolves id) =
      if (openCalls json events).getLast?.map (·.id) = some id then 1 else 0 := by
    cases (openCalls json events).getLast? with
    | none => rfl
    | some part => simp [Partial.inFlight_eq, resolves, List.countP_cons]
  have hquiet : (((openCalls json events).getLast?.map Partial.inFlight).toList.map
      (fun hint => (.toolCallCancel hint.id hint.name cause.display :
        AgentEvent I U (Value N)))).any isReset = false := by
    cases (openCalls json events).getLast? <;> rfl
  rw [hcancels, hquiet]
  rcases (mem_startedIds_iff).mp hid with hwhole | hopen
  · have hclosed : id ∉ (openCalls json events).map (·.id) :=
      fun hopen => open_not_whole hopen hwhole
    have hlast : (openCalls json events).getLast?.map (·.id) ≠ some id := by
      intro hlast
      rw [← List.getLast?_map] at hlast
      exact hclosed (List.mem_of_getLast? hlast)
    rw [if_neg hlast, List.count_eq_one_of_mem (nodup_wholeIds hdistinct) hwhole]
    simp [hclosed]
  · rw [List.count_eq_zero_of_not_mem (open_not_whole hopen)]
    simp [hopen]

lemma resolved_truncated (hwhole : wholeCalls json events = []) (cause : InterruptCause)
    {part : Partial} (hlast : (openCalls json events).getLast? = some part) {id : String}
    (hid : id ∈ startedIds events) :
    Resolved id [(.toolCallCancel part.inFlight.id part.inFlight.name cause.display :
        AgentEvent I U (Value N))] ↔
      (id ∈ (openCalls json events).map (·.id) →
        ((openCalls json events).map (·.id)).getLast? = some id) := by
  have hopen : id ∈ (openCalls json events).map (·.id) := by
    have hstarted : id ∈ (wholeCalls json events).map (·.id) ∨
        id ∈ (openCalls json events).map (·.id) := (mem_startedIds_iff).mp hid
    rw [hwhole] at hstarted
    exact hstarted.resolve_left (by simp)
  rw [List.getLast?_map, hlast]
  simp [Resolved, Partial.inFlight_eq, resolves, isReset, List.countP_cons, hopen]

lemma recovery_resolves_iff (hdistinct : (startedIds events).Nodup) (cause : InterruptCause)
    (messages : List Continuation) :
    (∀ id ∈ startedIds events,
      Resolved id (recoveryOf json events cause messages : List (AgentEvent I U (Value N)))) ↔
    OneOpen json events := by
  have hlast : (∀ id ∈ startedIds events, id ∈ (openCalls json events).map (·.id) →
      ((openCalls json events).map (·.id)).getLast? = some id) ↔
        (openCalls json events).length ≤ 1 := by
    rw [← List.length_map (·.id), ← all_last_iff (nodup_openIds hdistinct)]
    exact ⟨fun hall id hid => hall id (mem_startedIds_iff.mpr (.inr hid)) hid,
      fun hall id _ hid => hall id hid⟩
  have hcompleted : ((gather events).interruptSnapshot json).completedToolCalls =
      wholeCalls json events := snapshot_completed json events
  have hblank := snapshot_blank json events
  unfold recoveryOf applyRecoveryPlan
  rw [InterruptSnapshot.plan, hcompleted, snapshot_inFlight]
  by_cases hwhole : wholeCalls json events = []
  · rw [hwhole, List.isEmpty_nil, Bool.not_true, if_neg Bool.false_ne_true]
    by_cases htext : textOf events = ""
    · rw [if_neg (not_not.mpr (hblank.mpr htext))]
      exact iff_of_true (fun id _ => .inr rfl) (.inr ⟨htext, hwhole⟩)
    · rw [if_pos (fun h => htext (hblank.mp h))]
      have hone : OneOpen json events ↔ (openCalls json events).length ≤ 1 :=
        or_iff_left (fun hboth => htext hboth.1)
      rw [hone, ← hlast]
      cases hopen : (openCalls json events).getLast? with
      | some part =>
        exact forall₂_congr (fun id hid => resolved_truncated hwhole cause hopen hid)
      | none =>
        have hnone : ∀ id, id ∉ startedIds events := by
          intro id hid
          have hnil := List.getLast?_eq_none_iff.mp hopen
          have hstarted : id ∈ (wholeCalls json events).map (·.id) ∨
              id ∈ (openCalls json events).map (·.id) := (mem_startedIds_iff).mp hid
          rw [hwhole, hnil] at hstarted
          simp at hstarted
        exact iff_of_true (fun id hid => absurd hid (hnone id)) (fun id hid => absurd hid (hnone id))
  · have hsome : (!(wholeCalls json events).isEmpty) = true := by simp [hwhole]
    have hone : OneOpen json events ↔ (openCalls json events).length ≤ 1 :=
      or_iff_left (fun hboth => hwhole hboth.2)
    rw [if_pos hsome, hone, ← hlast]
    exact forall₂_congr (fun id hid => resolved_synthesized hdistinct cause hid)

end Recovery

section Rounds

open StreamingAccumulator

variable {json : JsonText N} {flushing : Flushing} {maxRetries : Nat}

lemma acc_driving (json : JsonText N) (flushing : Flushing) (events : List (LlmStreamEvent U))
    (driving : Driving U N) :
    (events.foldl (Driving.receive json flushing) driving).acc =
      events.foldl StreamingAccumulator.receive driving.acc := by
  induction events generalizing driving with
  | nil => rfl
  | cons event events ih =>
    rw [List.foldl_cons, List.foldl_cons, ih]
    congr 1
    unfold Driving.receive
    split
    · split <;> rfl
    · rfl

lemma dispatch_recovered {self : Streaming N} {attempt : Attempt U E} {driven : Driven I U N E}
    {round : Round I U N} {next : Finished U N E ⊕ Streaming N}
    (h : dispatch flushing maxRetries self attempt driven = (round, next))
    (hrecovered : round.recovered = true) :
    round.events = attempt.events ∧ round.sent = driven.sent ∧
      ∃ cause snapshot, driven.outcome = .interrupted cause snapshot ∧
        round.recovery = (applyRecoveryPlan (I := I) (U := U) self.messages cause snapshot).2.1 := by
  unfold dispatch at h
  cases houtcome : driven.outcome with
  | completed result =>
    rw [houtcome] at h
    cases h
    cases hrecovered
  | cancelled result =>
    rw [houtcome] at h
    cases h
    cases hrecovered
  | error error =>
    rw [houtcome] at h
    cases h
    cases hrecovered
  | interrupted cause snapshot =>
    rw [houtcome] at h
    dsimp only at h
    split at h
    · cases h
      cases hrecovered
    · split at h
      · cases h
        exact ⟨rfl, rfl, cause, snapshot, rfl, rfl⟩
      · split at h
        · cases h
          exact ⟨rfl, rfl, cause, snapshot, rfl, rfl⟩
        · cases h
          exact ⟨rfl, rfl, cause, snapshot, rfl, rfl⟩

lemma driven_interrupted {saved : Option (StreamCheckpoint N)} {attempt : Attempt U E}
    {cause : InterruptCause} {snapshot : InterruptSnapshot N}
    (h : (driveOneStream json flushing saved attempt : Driven I U N E).outcome =
      .interrupted cause snapshot) :
    (driveOneStream json flushing saved attempt : Driven I U N E).sent =
        attempt.events.flatMap LlmStreamEvent.forwarded ∧
      snapshot = (gather attempt.events).interruptSnapshot json := by
  cases attempt with
  | refused error => cases h
  | stream events ending cancelledInBackoff =>
    cases ending with
    | drained => cases h
    | cancelled => cases h
    | failed error => cases h
    | interrupted other =>
      cases h
      refine ⟨rfl, ?_⟩
      rw [acc_driving]
      rfl

def Recovered (json : JsonText N) (attempts : List (Attempt U E)) (round : Round I U N) : Prop :=
  round.sent = round.events.flatMap LlmStreamEvent.forwarded ∧
    (round.events = [] ∨ (∃ attempt ∈ attempts, round.events = attempt.events) ∧
      ∃ cause messages, round.recovery = recoveryOf json round.events cause messages)

lemma recovered_of_dispatch {self : Streaming N} {saved : Option (StreamCheckpoint N)}
    {attempt : Attempt U E} {attempts : List (Attempt U E)} (hattempt : attempt ∈ attempts)
    {round : Round I U N} {next : Finished U N E ⊕ Streaming N}
    (h : dispatch flushing maxRetries self attempt (driveOneStream json flushing saved attempt) =
      (round, next)) (hrecovered : round.recovered = true) : Recovered json attempts round := by
  obtain ⟨hevents, hsent, cause, snapshot, houtcome, hrecovery⟩ := dispatch_recovered h hrecovered
  obtain ⟨hforwarded, rfl⟩ := driven_interrupted houtcome
  rw [← hevents] at hforwarded hrecovery
  exact ⟨hsent.trans hforwarded, .inr ⟨⟨attempt, hattempt, hevents⟩, cause, self.messages,
    hrecovery⟩⟩

lemma recovered_streamLoop (self : Streaming N) (attempts : List (Attempt U E)) :
    ∀ round ∈ (streamLoop json flushing maxRetries self attempts :
      List (Round I U N) × Option (Finished U N E)).1,
        round.recovered = true → Recovered json attempts round := by
  induction attempts generalizing self with
  | nil => simp [streamLoop]
  | cons attempt attempts ih =>
    rw [streamLoop]
    cases hdispatch : dispatch flushing maxRetries self attempt
        (driveOneStream json flushing self.saved attempt : Driven I U N E) with
    | mk first next =>
      have hfirst := recovered_of_dispatch (List.mem_cons_self (l := attempts)) hdispatch
      cases next with
      | inl finished =>
        intro round hround
        rw [List.mem_singleton.mp hround]
        exact hfirst
      | inr next =>
        intro round hround hrecovered
        rcases List.mem_cons.mp hround with rfl | hround
        · exact hfirst hrecovered
        · obtain ⟨hsent, hempty | ⟨⟨other, hother, hevents⟩, hrecovery⟩⟩ :=
            ih next round hround hrecovered
          · exact ⟨hsent, .inl hempty⟩
          · exact ⟨hsent, .inr ⟨⟨other, List.mem_cons_of_mem _ hother, hevents⟩, hrecovery⟩⟩

lemma recovered_executeStreaming (saved : Option (StreamCheckpoint N))
    (attempts : List (Attempt U E)) :
    ∀ round ∈ (executeStreaming json flushing maxRetries saved attempts :
      List (Round I U N) × Option (Finished U N E)).1,
        round.recovered = true → Recovered json attempts round := by
  unfold executeStreaming
  split
  · exact recovered_streamLoop _ _
  · next checkpoint _ =>
    cases hdispatch : dispatch flushing maxRetries ⟨[], 0, saved⟩
        (.stream [] .drained false : Attempt U E)
        (⟨.interrupted .resumedFromCheckpoint (checkpoint.restore json), [], saved⟩ :
          Driven I U N E) with
    | mk first next =>
      have hfirst : first.recovered = true → Recovered json attempts first := by
        intro hrecovered
        obtain ⟨hevents, hsent, -⟩ := dispatch_recovered hdispatch hrecovered
        refine ⟨?_, .inl hevents⟩
        rw [hsent, hevents]
        rfl
      cases next with
      | inl finished =>
        intro round hround
        rw [List.mem_singleton.mp hround]
        exact hfirst
      | inr next =>
        intro round hround hrecovered
        rcases List.mem_cons.mp hround with rfl | hround
        · exact hfirst hrecovered
        · exact recovered_streamLoop _ _ round hround hrecovered

/-- In every run, each started call of each recovered stream is resolved if and only if one at most
was open when the stream was interrupted, or there was neither text nor a whole call. -/
theorem starts_resolved_iff (json : JsonText N) (flushing : Flushing) (maxRetries : Nat)
    (saved : Option (StreamCheckpoint N)) (attempts : List (Attempt U E))
    (hdistinct : ∀ attempt ∈ attempts, (startedIds attempt.events).Nodup) :
    (∀ round ∈ (executeStreaming json flushing maxRetries saved attempts :
      List (Round I U N) × Option (Finished U N E)).1,
        round.recovered = true → StartsResolved round) ↔
    ∀ round ∈ (executeStreaming json flushing maxRetries saved attempts :
      List (Round I U N) × Option (Finished U N E)).1,
        round.recovered = true → OneOpen json round.events := by
  refine forall₂_congr (fun round hround => forall_congr' (fun hrecovered => ?_))
  obtain ⟨hsent, hempty | ⟨⟨attempt, hattempt, hevents⟩, cause, messages, hrecovery⟩⟩ :=
    recovered_executeStreaming saved attempts round hround hrecovered
  · rw [startsResolved_iff hsent, hempty]
    exact iff_of_true (fun id hid => by simp [startedIds] at hid)
      (.inl (by simp [openCalls, startedIds]))
  · rw [startsResolved_iff hsent, hrecovery]
    exact recovery_resolves_iff (hevents ▸ hdistinct attempt hattempt) cause messages

def stalled (calls : List (LlmStreamEvent Nat)) : List (Attempt Nat Unit) :=
  [.stream (.textDelta "Searching" :: calls) (.interrupted .idleStall) false]

def stalledRounds (calls : List (LlmStreamEvent Nat)) : List (Round Unit Nat Nat) :=
  (executeStreaming emptyObjects.toJsonText ⟨none, "model", 0⟩ 2 none (stalled calls)).1

def oneCall : List (LlmStreamEvent Nat) :=
  [.toolCallStart "a" "search", .toolCallDelta "a" "\x7b\x7d", .toolCallStart "b" "search"]

def twoCalls : List (LlmStreamEvent Nat) :=
  [.toolCallStart "a" "search", .toolCallStart "b" "search"]

theorem starts_resolved_iff_stalled :
    ((stalledRounds oneCall).any (·.recovered) = true ∧
      ∀ round ∈ stalledRounds oneCall, round.recovered = true → StartsResolved round) ∧
    ¬ ∀ round ∈ stalledRounds twoCalls, round.recovered = true → StartsResolved round := by
  refine ⟨⟨rfl, ?_⟩, ?_⟩
  · refine (starts_resolved_iff emptyObjects.toJsonText ⟨none, "model", 0⟩ 2 none
      (stalled oneCall) ?_).mpr ?_
    · intro attempt hattempt
      rw [List.mem_singleton.mp hattempt]
      decide
    · intro round hround _
      rw [List.mem_singleton.mp hround]
      exact .inl (by decide)
  · rw [stalledRounds, starts_resolved_iff emptyObjects.toJsonText ⟨none, "model", 0⟩ 2 none
      (stalled twoCalls) (by
        intro attempt hattempt
        rw [List.mem_singleton.mp hattempt]
        decide)]
    intro hone
    cases hone _ (List.mem_singleton.mpr rfl) rfl with
    | inl hlength => exact absurd hlength (by decide)
    | inr hblank => exact absurd hblank.1 (by decide)

theorem first_call_left_open :
    ∃ round ∈ stalledRounds twoCalls, round.recovered = true ∧ ¬ StartsResolved round := by
  let cancelled : List (AgentEvent Unit Nat (Value Nat)) :=
    [.toolCallCancel "b" "search" "idle stall"]
  let events : List (LlmStreamEvent Nat) := .textDelta "Searching" :: twoCalls
  refine ⟨⟨events, events.flatMap LlmStreamEvent.forwarded, cancelled, true⟩,
    List.mem_singleton.mpr rfl, rfl, ?_⟩
  intro hresolved
  rcases hresolved [.textDelta "Searching"] "a" "search" [.toolCallStart "b" "search"] rfl with
    hcount | hreset
  · exact absurd hcount (by decide)
  · exact absurd hreset (by decide)

end Rounds

end Awaken.LoopRunner
