import Awaken.Agent.CommutativeKeys
import Awaken.State.ParallelMerge
import Awaken.ToolBatch.Step

/-! Resuming suspended tool calls. Each decision is resolved against the states as they were before
the first one and committed on its own. -/

namespace Awaken.LoopRunner

open Awaken.Lib Awaken.State Awaken.Agent.LoopState Awaken.ToolBatch

variable {J κ : Type}

/-- A decision with the target it names and the clock when it is recorded. -/
structure ResumeRequest (J : Type) where
  targetId : String
  decision : ToolCallResume J
  now : Nat

def resolveCallTarget (order : List String) (calls : ToolCallStateMap J) (targetId : String) :
    Option (String × ToolCallState J) :=
  match calls targetId with
  | some callState => some (targetId, callState)
  | none =>
    (order.find? (fun callId =>
      decide ((calls callId).bind (·.suspensionId) = some targetId))).bind
        (fun callId => (calls callId).map (Prod.mk callId))

def ResumeRequest.status (request : ResumeRequest J) : ToolCallStatus :=
  match request.decision.action with
  | .resume => .resuming
  | .cancel => .cancelled

def resumedState (callId : String) (callState : ToolCallState J)
    (resumeModeOverride : Option ToolCallResumeMode) (request : ResumeRequest J) :
    ToolCallState J where
  callId := callId
  toolName := callState.toolName
  arguments := callState.arguments
  status := request.status
  updatedAt := request.now
  resumeMode := resumeModeOverride.getD callState.resumeMode
  suspensionId := normalizeOptionalString callState.suspensionId
  suspensionReason := normalizeOptionalString callState.suspensionReason
  resumeInput := some request.decision

variable {keys : LoopKeys J κ}

def toolCalls (store : StateStore keys.runtime.key) : ToolCallStateMap J :=
  let states : Option (ToolCallStateMap J) := store.inner.ext (.other none)
  states.getD (fun _ => none)

variable [DecidableEq κ]

def commitToolCall (store : StateStore keys.runtime.key) (state : ToolCallState J) :
    Except StateError Nat × StateStore keys.runtime.key :=
  let update : ToolCallStatesUpdate J := .put state
  store.commit (MutationBatch.new.update (.other none) update)

def resumeEach (order : List String) (calls : ToolCallStateMap J)
    (resumeModeOverride : Option ToolCallResumeMode) :
    List (ResumeRequest J) → StateStore keys.runtime.key →
      Except StateError Unit × StateStore keys.runtime.key
  | [], store => (.ok (), store)
  | request :: requests, store =>
    match resolveCallTarget order calls request.targetId with
    | none => (.error (.unknownKey s!"tool call or suspension {request.targetId} not found"), store)
    | some (callId, callState) =>
      match commitToolCall store (resumedState callId callState resumeModeOverride request) with
      | (.error e, store) => (.error e, store)
      | (.ok _, store) => resumeEach order calls resumeModeOverride requests store

def prepareResume (order : List String) (store : StateStore keys.runtime.key)
    (decisions : List (ResumeRequest J)) (resumeModeOverride : Option ToolCallResumeMode) :
    Except StateError Unit × StateStore keys.runtime.key :=
  resumeEach order (toolCalls store) resumeModeOverride decisions store

section Targets

omit [DecidableEq κ]

/-- The iteration order of a map lists its keys. -/
def Enumerates (order : List String) (calls : ToolCallStateMap J) : Prop :=
  ∀ callId, callId ∈ order ↔ (calls callId).isSome

/-- A request names a known call by its id, or else by the id of its suspension. -/
def Targets (calls : ToolCallStateMap J) (request : ResumeRequest J) (callId : String) : Prop :=
  callId = request.targetId ∧ (calls callId).isSome ∨
    calls request.targetId = none ∧
      ∃ callState, calls callId = some callState ∧ callState.suspensionId = some request.targetId

variable {order : List String} {calls : ToolCallStateMap J}

lemma resolveCallTarget_some {request : ResumeRequest J} {callId : String}
    {callState : ToolCallState J}
    (h : resolveCallTarget order calls request.targetId = some (callId, callState)) :
    calls callId = some callState ∧ Targets calls request callId := by
  unfold resolveCallTarget at h
  cases hcall : calls request.targetId with
  | some found =>
    simp only [hcall, Option.some.injEq, Prod.mk.injEq] at h
    obtain ⟨rfl, rfl⟩ := h
    exact ⟨hcall, .inl ⟨rfl, by rw [hcall]; rfl⟩⟩
  | none =>
    simp only [hcall, Option.bind_eq_some_iff, Option.map_eq_some_iff, Prod.mk.injEq] at h
    obtain ⟨id, hfind, found, hfound, rfl, rfl⟩ := h
    have hid := List.find?_some hfind
    rw [decide_eq_true_eq, hfound] at hid
    obtain ⟨w, hw, hid⟩ := hid
    cases hw
    exact ⟨hfound, .inr ⟨hcall, found, hfound, hid⟩⟩

lemma resolveCallTarget_none (horder : Enumerates order calls) {request : ResumeRequest J} :
    resolveCallTarget order calls request.targetId = none ↔
      ∀ callId, ¬ Targets calls request callId := by
  constructor
  · intro h callId htarget
    unfold resolveCallTarget at h
    obtain ⟨rfl, hsome⟩ | ⟨hnone, callState, hcall, hid⟩ := htarget
    · obtain ⟨callState, hcall⟩ := Option.isSome_iff_exists.mp hsome
      simp [hcall] at h
    · simp only [hnone] at h
      cases hfind : order.find? (fun callId =>
          decide ((calls callId).bind (·.suspensionId) = some request.targetId)) with
      | none =>
        rw [List.find?_eq_none] at hfind
        refine hfind callId ((horder callId).mpr (by rw [hcall]; rfl)) ?_
        rw [decide_eq_true_eq, hcall]
        exact hid
      | some found =>
        rw [hfind] at h
        have hin := (horder found).mp (List.mem_of_find?_eq_some hfind)
        obtain ⟨foundState, hfound⟩ := Option.isSome_iff_exists.mp hin
        simp [hfound] at h
  · intro h
    cases hres : resolveCallTarget order calls request.targetId with
    | none => rfl
    | some target =>
      obtain ⟨callId, callState⟩ := target
      exact absurd (resolveCallTarget_some hres).2 (h callId)

def targetOf (order : List String) (calls : ToolCallStateMap J) (targetId : String) :
    Option String := (resolveCallTarget order calls targetId).map Prod.fst

end Targets

section Decisive

def lastCancel (requests : List (ResumeRequest J)) : Option (ResumeRequest J) :=
  (requests.filter (fun request => request.status = .cancelled)).getLast?

def decisive (status : ToolCallStatus) (requests : List (ResumeRequest J)) :
    Option (ResumeRequest J) :=
  match status with
  | .succeeded | .failed => none
  | .running | .cancelled => lastCancel requests
  | .new | .suspended | .resuming => (lastCancel requests).or requests.getLast?

variable (request : ResumeRequest J) (requests : List (ResumeRequest J))

lemma getLast?_cons_or {α : Type} (a : α) (as : List α) :
    (a :: as).getLast? = as.getLast?.or (some a) := by
  cases as with
  | nil => rfl
  | cons b bs =>
    rw [List.getLast?_cons_cons, List.getLast?_cons]
    rfl

lemma lastCancel_cons : lastCancel (request :: requests) =
    (lastCancel requests).or (if request.status = .cancelled then some request else none) := by
  unfold lastCancel
  rw [List.filter_cons]
  by_cases hs : request.status = .cancelled
  · rw [if_pos (by simpa using hs), if_pos hs, getLast?_cons_or]
  · rw [if_neg (by simpa using hs), if_neg hs, Option.or_none]

lemma status_cases : request.status = .resuming ∨ request.status = .cancelled := by
  unfold ResumeRequest.status
  cases request.decision.action <;> simp

lemma decisive_cons (status : ToolCallStatus) :
    decisive status (request :: requests) =
      if status.canTransitionTo request.status then
        (decisive request.status requests).or (some request)
      else decisive status requests := by
  rcases status_cases request with hs | hs
  · cases status <;>
      simp [decisive, hs, lastCancel_cons, getLast?_cons_or, ToolCallStatus.canTransitionTo]
  · cases status <;>
      simp [decisive, hs, lastCancel_cons, getLast?_cons_or, ToolCallStatus.canTransitionTo]

end Decisive

section Loop

/-- The key of the tool call states may be written. -/
def Registered (store : StateStore keys.runtime.key) : Prop :=
  (store.registry.keysByName.get "__runtime.tool_call_states").isSome

variable {order : List String} {calls : ToolCallStateMap J} {mode : Option ToolCallResumeMode}
  {requests : List (ResumeRequest J)} {store store' : StateStore keys.runtime.key}

lemma commitToolCall_registered (h : Registered store) (state : ToolCallState J) :
    ∃ n store', commitToolCall store state = (.ok n, store') ∧
      toolCalls store' = applyToolCalls (toolCalls store) (.put state) ∧ Registered store' := by
  let update : ToolCallStatesUpdate J := .put state
  let patch : MutationBatch keys.runtime.key := MutationBatch.new.update (.other none) update
  have hvalid : store.validate patch = .ok () := by
    refine validate_ok.mpr ⟨rfl, fun key hkey => ?_⟩
    rw [List.mem_singleton.mp hkey]
    exact if_pos h
  refine ⟨_, _, commit_ok (p := patch) rfl hvalid, ?_, h⟩
  have hslot : (store.applied patch.ops).inner.ext (.other none) =
      some (applyToolCalls (toolCalls store) (.put state)) :=
    StateMap.update_self (K := keys.runtime.key) store.inner.ext (.other none) update
  unfold toolCalls
  rw [hslot]
  rfl

lemma commitToolCall_unregistered (h : ¬ Registered store) (state : ToolCallState J) :
    ∃ e, commitToolCall store state = (.error e, store) := by
  refine commit_error rfl (fun hvalid => h ?_)
  have hkey := (validate_ok.mp hvalid).2 "__runtime.tool_call_states" (List.mem_singleton.mpr rfl)
  unfold PluginRegistry.ensureKey at hkey
  split at hkey
  · next hs => exact hs
  · cases hkey

def recordRequest (order : List String) (calls : ToolCallStateMap J)
    (mode : Option ToolCallResumeMode) (current : ToolCallStateMap J) (request : ResumeRequest J) :
    ToolCallStateMap J :=
  match resolveCallTarget order calls request.targetId with
  | some (callId, callState) =>
    applyToolCalls current (.put (resumedState callId callState mode request))
  | none => current

lemma resumeEach_unresolved {request : ResumeRequest J}
    (h : resolveCallTarget order calls request.targetId = none) :
    resumeEach order calls mode (request :: requests) store =
      (.error (.unknownKey s!"tool call or suspension {request.targetId} not found"), store) := by
  rw [resumeEach, h]

lemma resumeEach_unregistered (order : List String) (calls : ToolCallStateMap J)
    (mode : Option ToolCallResumeMode) (request : ResumeRequest J)
    (requests : List (ResumeRequest J)) (hr : ¬ Registered store) :
    ∃ e, resumeEach order calls mode (request :: requests) store = (.error e, store) := by
  rw [resumeEach]
  cases hres : resolveCallTarget order calls request.targetId with
  | none => exact ⟨_, rfl⟩
  | some target =>
    obtain ⟨callId, callState⟩ := target
    obtain ⟨e, he⟩ := commitToolCall_unregistered hr (resumedState callId callState mode request)
    simp only [he]
    exact ⟨e, rfl⟩

lemma resumeEach_resolved (mode : Option ToolCallResumeMode) (requests : List (ResumeRequest J))
    {request : ResumeRequest J} (hr : Registered store) {callId : String}
    {callState : ToolCallState J}
    (h : resolveCallTarget order calls request.targetId = some (callId, callState)) :
    ∃ store', Registered store' ∧
      toolCalls store' = recordRequest order calls mode (toolCalls store) request ∧
      resumeEach order calls mode (request :: requests) store =
        resumeEach order calls mode requests store' := by
  obtain ⟨n, store', hcommit, hcalls, hr'⟩ :=
    commitToolCall_registered hr (resumedState callId callState mode request)
  refine ⟨store', hr', ?_, ?_⟩
  · rw [hcalls, recordRequest, h]
  · rw [resumeEach, h]
    simp only [hcommit]

lemma resumeEach_ok_iff : (resumeEach order calls mode requests store).1 = .ok () ↔
    (∀ request ∈ requests, resolveCallTarget order calls request.targetId ≠ none) ∧
      (requests = [] ∨ Registered store) := by
  induction requests generalizing store with
  | nil => simp [resumeEach]
  | cons request requests ih =>
    by_cases hr : Registered store
    · cases hres : resolveCallTarget order calls request.targetId with
      | none =>
        rw [resumeEach_unresolved hres]
        simp [hres]
      | some target =>
        obtain ⟨callId, callState⟩ := target
        obtain ⟨store', hr', -, heq⟩ := resumeEach_resolved mode requests hr hres
        rw [heq, ih]
        simp [hres, hr, hr']
    · obtain ⟨e, he⟩ := resumeEach_unregistered order calls mode request requests hr
      rw [he]
      simp [hr]

lemma resumeEach_calls (h : (resumeEach order calls mode requests store).1 = .ok ()) :
    toolCalls (resumeEach order calls mode requests store).2 =
      requests.foldl (recordRequest order calls mode) (toolCalls store) := by
  induction requests generalizing store with
  | nil => rfl
  | cons request requests ih =>
    obtain ⟨hres, hr⟩ := (resumeEach_ok_iff).mp h
    obtain ⟨⟨callId, callState⟩, htarget⟩ :=
      Option.ne_none_iff_exists'.mp (hres request List.mem_cons_self)
    obtain ⟨store', -, hcalls, heq⟩ := resumeEach_resolved mode requests
      (hr.resolve_left (List.cons_ne_nil _ _)) htarget
    rw [heq] at h ⊢
    rw [ih h, hcalls, List.foldl_cons]

lemma resumeEach_untargeted {callId : String}
    (h : ∀ request ∈ requests, targetOf order calls request.targetId ≠ some callId) :
    toolCalls (resumeEach order calls mode requests store).2 callId = toolCalls store callId := by
  induction requests generalizing store with
  | nil => rfl
  | cons request requests ih =>
    by_cases hr : Registered store
    · cases hres : resolveCallTarget order calls request.targetId with
      | none => rw [resumeEach_unresolved hres]
      | some target =>
        obtain ⟨found, callState⟩ := target
        obtain ⟨store', -, hcalls, heq⟩ := resumeEach_resolved mode requests hr hres
        have hne : callId ≠ found := by
          rintro rfl
          exact h request List.mem_cons_self (by rw [targetOf, hres]; rfl)
        rw [heq, ih (fun r hmem => h r (List.mem_cons_of_mem _ hmem)), hcalls, recordRequest, hres]
        simp only [applyToolCalls]
        split
        · exact Function.update_of_ne hne _ _
        · rfl
    · obtain ⟨e, he⟩ := resumeEach_unregistered order calls mode request requests hr
      rw [he]

lemma recordRequest_other (mode : Option ToolCallResumeMode) (current : ToolCallStateMap J)
    {callId : String} {request : ResumeRequest J} (h : targetOf order calls request.targetId ≠ some callId) :
    recordRequest order calls mode current request callId = current callId := by
  unfold recordRequest
  cases hres : resolveCallTarget order calls request.targetId with
  | none => rfl
  | some target =>
    obtain ⟨found, callState⟩ := target
    have hne : callId ≠ found := by
      rintro rfl
      exact h (by rw [targetOf, hres]; rfl)
    simp only [applyToolCalls]
    split
    · exact Function.update_of_ne hne _ _
    · rfl

lemma recordRequest_self (mode : Option ToolCallResumeMode) (current : ToolCallStateMap J)
    {callId : String} {base : ToolCallState J} {request : ResumeRequest J} (hbase : calls callId = some base)
    (h : targetOf order calls request.targetId = some callId) :
    recordRequest order calls mode current request callId =
      if (currentStatus current callId).canTransitionTo request.status then
        some (resumedState callId base mode request).normalized
      else current callId := by
  obtain ⟨⟨found, callState⟩, hres, rfl⟩ := Option.map_eq_some_iff.mp h
  have hsame : callState = base :=
    Option.some.inj ((resolveCallTarget_some hres).1.symm.trans hbase)
  rw [recordRequest, hres, hsame]
  by_cases hcan : (currentStatus current found).canTransitionTo request.status
  · rw [if_pos hcan]
    change applyToolCalls current (.put (resumedState found base mode request)) found = _
    rw [apply_put_of_can hcan]
    exact Function.update_self _ _ _
  · rw [if_neg hcan]
    change applyToolCalls current (.put (resumedState found base mode request)) found = _
    rw [apply_put_of_not hcan]

def requestsFor (order : List String) (calls : ToolCallStateMap J) (callId : String)
    (requests : List (ResumeRequest J)) : List (ResumeRequest J) :=
  requests.filter (fun request => targetOf order calls request.targetId = some callId)

lemma requestsFor_cons_pos {callId : String} {request : ResumeRequest J}
    (h : targetOf order calls request.targetId = some callId) :
    requestsFor order calls callId (request :: requests) =
      request :: requestsFor order calls callId requests := by
  simp [requestsFor, h]

lemma requestsFor_cons_neg {callId : String} {request : ResumeRequest J}
    (h : targetOf order calls request.targetId ≠ some callId) :
    requestsFor order calls callId (request :: requests) =
      requestsFor order calls callId requests := by
  simp [requestsFor, h]

lemma decisive_nil (status : ToolCallStatus) :
    decisive status ([] : List (ResumeRequest J)) = none := by
  cases status <;> rfl

lemma recordRequests_self {callId : String} {base : ToolCallState J}
    (hbase : calls callId = some base) (current : ToolCallStateMap J) :
    requests.foldl (recordRequest order calls mode) current callId =
      ((decisive (currentStatus current callId) (requestsFor order calls callId requests)).map
        (fun request => (resumedState callId base mode request).normalized)).or
          (current callId) := by
  induction requests generalizing current with
  | nil => rw [requestsFor, List.filter_nil, decisive_nil]; rfl
  | cons request requests ih =>
    rw [List.foldl_cons, ih]
    by_cases htarget : targetOf order calls request.targetId = some callId
    · have hself := recordRequest_self mode current hbase htarget
      rw [requestsFor_cons_pos htarget, decisive_cons]
      by_cases hcan : (currentStatus current callId).canTransitionTo request.status
      · rw [if_pos hcan] at hself
        have hstatus : currentStatus (recordRequest order calls mode current request) callId =
            request.status := by
          rw [currentStatus, hself]
          rfl
        rw [if_pos hcan, hstatus, hself, Option.map_or, Option.or_assoc]
        rfl
      · rw [if_neg hcan] at hself
        rw [if_neg hcan, currentStatus, hself]
        rfl
    · have hother := recordRequest_other mode current htarget
      rw [requestsFor_cons_neg htarget, currentStatus, hother]
      rfl

/-- A resume succeeds when every request names a call, and then each call holds what the request that
decides about it recorded; a call that no request names is left alone in any case. -/
theorem resume_as_decided (horder : Enumerates order (toolCalls store)) :
    ((prepareResume order store requests mode).1 = .ok () ↔
        (∀ request ∈ requests, ∃ callId, Targets (toolCalls store) request callId) ∧
          (requests = [] ∨ Registered store)) ∧
      ((prepareResume order store requests mode).1 = .ok () →
        ∃ target : ResumeRequest J → String,
          (∀ request ∈ requests, Targets (toolCalls store) request (target request)) ∧
          ∀ callId base, toolCalls store callId = some base →
            toolCalls (prepareResume order store requests mode).2 callId =
              ((decisive base.status (requests.filter (fun r => target r = callId))).map
                (fun request => (resumedState callId base mode request).normalized)).or
                  (some base)) ∧
      ∀ callId, (∀ request ∈ requests, ¬ Targets (toolCalls store) request callId) →
        toolCalls (prepareResume order store requests mode).2 callId = toolCalls store callId := by
  refine ⟨?_, fun hok => ?_, fun callId hnone => ?_⟩
  · unfold prepareResume
    rw [resumeEach_ok_iff]
    simp only [ne_eq, resolveCallTarget_none horder, not_forall, not_not]
  · have hres := (resumeEach_ok_iff.mp hok).1
    have htarget : ∀ request ∈ requests, targetOf order (toolCalls store) request.targetId =
        some ((targetOf order (toolCalls store) request.targetId).getD "") := by
      intro request hmem
      obtain ⟨target, hfound⟩ := Option.ne_none_iff_exists'.mp (hres request hmem)
      rw [targetOf, hfound]
      rfl
    refine ⟨fun request => (targetOf order (toolCalls store) request.targetId).getD "",
      fun request hmem => ?_, fun callId base hbase => ?_⟩
    · obtain ⟨⟨found, callState⟩, hfound⟩ := Option.ne_none_iff_exists'.mp (hres request hmem)
      have htargets := (resolveCallTarget_some hfound).2
      dsimp only
      rw [targetOf, hfound]
      exact htargets
    · have hfilter : requestsFor order (toolCalls store) callId requests = requests.filter
          (fun r => (targetOf order (toolCalls store) r.targetId).getD "" = callId) := by
        refine List.filter_congr (fun request hmem => ?_)
        rw [htarget request hmem]
        simp
      unfold prepareResume at hok ⊢
      rw [resumeEach_calls hok, recordRequests_self hbase, hfilter, currentStatus, hbase]
      rfl
  · refine resumeEach_untargeted (fun request hmem heq => hnone request hmem ?_)
    obtain ⟨⟨found, callState⟩, hfound, rfl⟩ := Option.map_eq_some_iff.mp heq
    exact (resolveCallTarget_some hfound).2

end Loop

section Decided

def unitKeys : LoopKeys Unit Empty where
  pendingCodec := unitCodec _ []
  failedCodec := unitCodec _ []
  toolCallsCodec := unitCodec _ (fun _ => none)
  other := fun k => k.elim

def suspendedCall : ToolCallState Unit :=
  ⟨"call", "tool", (), .suspended, 0, .replayToolCall, none, none, none⟩

def suspendedCalls : ToolCallStateMap Unit :=
  fun callId => if callId = "call" then some suspendedCall else none

def suspendedStore : StateStore unitKeys.runtime.key where
  inner := ⟨0, StateMap.insert .empty (.other none) suspendedCalls⟩
  registry := PluginRegistry.empty.insertKey
    (.new unitKeys.runtime.key (.other none) ⟨true, false, .thread⟩)

lemma enumerates_suspended : Enumerates ["call"] (toolCalls suspendedStore) := by
  intro callId
  have hcalls : toolCalls suspendedStore callId = suspendedCalls callId := rfl
  rw [hcalls, suspendedCalls, List.mem_singleton]
  split <;> simp [*]

def resumeOf (targetId : String) (action : ResumeDecisionAction) : ResumeRequest Unit :=
  ⟨targetId, ⟨"decision", action, (), none, 0⟩, 1⟩

def bothDecisions : List (ResumeRequest Unit) := [resumeOf "call" .cancel, resumeOf "call" .resume]

theorem resume_as_decided_twice :
    (prepareResume ["call"] suspendedStore bothDecisions none).1 = .ok () ∧
      toolCalls (prepareResume ["call"] suspendedStore bothDecisions none).2 "call" =
        some (resumedState "call" suspendedCall none (resumeOf "call" .cancel)).normalized ∧
      toolCalls (prepareResume ["call"] suspendedStore bothDecisions none).2 "other" = none := by
  have honly : ∀ request ∈ bothDecisions, ∀ callId,
      Targets (toolCalls suspendedStore) request callId → callId = "call" := by
    intro request _ callId htarget
    by_contra hne
    have hnone : toolCalls suspendedStore callId = none := if_neg hne
    rcases htarget with ⟨-, hsome⟩ | ⟨-, callState, hsome, -⟩
    · exact absurd hsome (by simp [hnone])
    · exact absurd hsome (by simp [hnone])
  have hnamed : ∀ request ∈ bothDecisions, Targets (toolCalls suspendedStore) request "call" := by
    rintro request (_ | ⟨_, _ | ⟨_, hmem⟩⟩)
    · exact .inl ⟨rfl, rfl⟩
    · exact .inl ⟨rfl, rfl⟩
    · cases hmem
  obtain ⟨hiff, hdecided, hother⟩ :=
    @resume_as_decided _ _ _ _ _ none bothDecisions _ enumerates_suspended
  have hok := hiff.mpr ⟨fun request hmem => ⟨"call", hnamed request hmem⟩, .inr rfl⟩
  obtain ⟨target, htarget, hcalls⟩ := hdecided hok
  refine ⟨hok, ?_, hother "other" (fun request hmem h => ?_)⟩
  · have hall : bothDecisions.filter (fun r => target r = "call") = bothDecisions :=
      List.filter_eq_self.mpr (fun request hmem =>
        decide_eq_true (honly request hmem _ (htarget request hmem)))
    rw [hcalls "call" suspendedCall rfl, hall]
    rfl
  · exact absurd (honly request hmem "other" h) (by decide)

theorem resume_not_atomic :
    (¬ ∀ (store : StateStore unitKeys.runtime.key) (order : List String)
        (requests : List (ResumeRequest Unit)), Enumerates order (toolCalls store) →
        (prepareResume order store requests none).1 ≠ .ok () →
          toolCalls (prepareResume order store requests none).2 = toolCalls store) ∧
      ¬ ∀ (store : StateStore unitKeys.runtime.key) (order : List String)
        (requests : List (ResumeRequest Unit)), Enumerates order (toolCalls store) →
        (prepareResume order store requests none).1 = .ok () →
          ∀ request ∈ requests, currentStatus (toolCalls store) request.targetId = .suspended →
            currentStatus (toolCalls (prepareResume order store requests none).2)
              request.targetId = .resuming := by
  constructor
  · intro h
    have hsame := h suspendedStore ["call"]
      [resumeOf "call" .resume, resumeOf "other" .resume] enumerates_suspended (by decide)
    have hstatus := congrArg (fun calls => currentStatus calls "call") hsame
    exact absurd hstatus (by decide)
  · intro h
    have hstatus := h suspendedStore ["call"] [resumeOf "call" .cancel] enumerates_suspended
      (by decide) _ List.mem_cons_self (by decide)
    exact absurd hstatus (by decide)

end Decided

end Awaken.LoopRunner
