import Mathlib.Data.List.MinMax
import Awaken.Engine.CircuitBreaker
import Awaken.Engine.PoolRouter
import Awaken.Lib.Process

/-! A model pool as one executor. A call is a process whose actions are the accesses to the state
that the calls of the pool share, one lock or one counter each. -/

namespace Awaken.Engine

open Awaken.Lib

def maxPoolSessionStates : Nat := 4096

def maxPoolStreamAttempts : Nat := 4096

inductive StickyScope where
  | thread
  | run
deriving DecidableEq

structure InferenceRoutingKey where
  threadId : Option String
  runId : Option String
  fallback : Option String
  logicalInferenceId : Option String
deriving DecidableEq

def InferenceRoutingKey.forScope (self : InferenceRoutingKey) : StickyScope → Option String
  | .thread => self.threadId <|> self.fallback
  | .run => self.runId <|> self.fallback

structure InferenceRequest where
  upstreamModel : String
  routingKey : Option InferenceRoutingKey
deriving DecidableEq

namespace InferenceExecutionError

def isRetryable : InferenceExecutionError → Bool
  | .provider _ | .rateLimited _ _ | .overloaded _ _ | .timeout _ | .streamInterrupted _ => true
  | _ => false

def countsTowardCircuitBreaker (self : InferenceExecutionError) : Bool := self.isRetryable

end InferenceExecutionError

structure PoolMemberExecutor where
  modelId : String
  upstreamModel : String

structure PoolSessionState where
  active : Option Nat
  switchCount : Nat
  lastAccess : Nat
deriving DecidableEq

def PoolSessionState.default : PoolSessionState := ⟨none, 0, 0⟩

structure PoolStreamAttemptState where
  active : Option Nat
  tried : List Bool
  failureObserved : Bool
  inFlight : Bool
  liveStreams : Nat
  requestCallbacksAmbiguous : Bool
  lastAccess : Nat
deriving DecidableEq

def PoolStreamAttemptState.new (memberCount : Nat) : PoolStreamAttemptState :=
  ⟨none, List.replicate memberCount false, false, false, 0, false, 0⟩

namespace PoolStreamAttemptState

def markActive (idx : Nat) (self : PoolStreamAttemptState) : PoolStreamAttemptState :=
  { self with
    tried := self.tried.set idx true
    active := some idx
    failureObserved := false
    requestCallbacksAmbiguous := self.requestCallbacksAmbiguous || self.liveStreams > 0
    liveStreams := self.liveStreams + 1
    inFlight := true }

def markOpenFailure (idx : Nat) (self : PoolStreamAttemptState) : PoolStreamAttemptState :=
  { self with
    tried := self.tried.set idx true
    active := some idx
    failureObserved := true
    inFlight := self.liveStreams > 0 }

def markFailure (current : Nat) (self : PoolStreamAttemptState) : PoolStreamAttemptState :=
  { self with
    tried := self.tried.set current true
    active := some current
    inFlight := self.liveStreams > 0 }

def finishOne (self : PoolStreamAttemptState) : PoolStreamAttemptState :=
  { self with liveStreams := self.liveStreams - 1, inFlight := self.liveStreams - 1 > 0 }

def heard (streamFinished : Bool) (access : Nat) (self : PoolStreamAttemptState) :
    PoolStreamAttemptState :=
  if streamFinished then finishOne { self with lastAccess := access }
  else { self with lastAccess := access }

def observeFailure (current : Nat) (streamFinished : Bool) (access : Nat)
    (self : PoolStreamAttemptState) : Bool × Option PoolStreamAttemptState :=
  let self := self.heard streamFinished access
  if self.active ≠ some current then (false, some self)
  else (!self.failureObserved, some { self with
    tried := self.tried.set current true
    failureObserved := true
    inFlight := self.liveStreams > 0 })

def finish (current _access : Nat) (self : PoolStreamAttemptState) :
    Bool × Option PoolStreamAttemptState :=
  if self.active ≠ some current then (false, some self.finishOne) else (true, none)

def abandon (current access : Nat) (self : PoolStreamAttemptState) :
    Bool × Option PoolStreamAttemptState :=
  if self.active ≠ some current then (false, some self.finishOne)
  else (true, if self.failureObserved then some { self.finishOne with lastAccess := access }
    else none)

end PoolStreamAttemptState

structure PoolExecutor (F : Type) where
  fallbackHomeKey : String
  members : List PoolMemberExecutor
  router : PoolRouter F
  stickyScope : StickyScope
  aligned : members.length = router.members.length
  nonempty : 0 < members.length

structure PoolState where
  breaker : CircuitBreaker
  sessions : Table String PoolSessionState
  streamAttempts : Table String PoolStreamAttemptState
  permanentQuarantine : List Bool
  homeSequence : Nat
  anonymousSessionSequence : Nat
  streamAttemptSequence : Nat
  sessionSequence : Nat

namespace PoolExecutor

variable {F : Type} [LinearOrder F]

def newState (self : PoolExecutor F) (breaker : CircuitBreaker) : PoolState :=
  ⟨breaker, .empty, .empty, List.replicate self.members.length false, 0, 0, 0, 0⟩

def modelId (self : PoolExecutor F) (idx : Nat) : String :=
  ((self.members[idx]?).map PoolMemberExecutor.modelId).getD ""

def switchesRemain (self : PoolExecutor F) (switchCount : Nat) : Bool :=
  match self.router.switch.maxSwitchesPerSession with
  | some max => switchCount < max
  | none => true

section Sessions

def ensureSessionCapacity (sessions : Table String PoolSessionState) (current : String) :
    Table String PoolSessionState :=
  (sessions.makeRoom maxPoolSessionStates PoolSessionState.lastAccess (fun key _ => key ≠ current)
    current).getD sessions

/-- Works on the state of the session under the lock of the sessions. -/
def withSession {β : Type} (key : String) (f : PoolSessionState → β × PoolSessionState)
    (state : PoolState) : β × PoolState :=
  let sessions := ensureSessionCapacity state.sessions key
  let (result, session) := f ((sessions.get key).getD .default)
  (result, { state with sessions := sessions.insert key session })

def selectSession (self : PoolExecutor F) (key : String) (health : HealthMask)
    (sequence : Option Nat) (access : Nat) (session : PoolSessionState) : Nat × PoolSessionState :=
  let session := { session with lastAccess := access }
  match session.active with
  | none =>
    let home := self.router.selectHomeWithSequence key health sequence
    (home, { session with active := some home })
  | some current =>
    if health[current]? = some false ∧ self.switchesRemain session.switchCount = true then
      match self.router.selectFailover key current health with
      | some next =>
        (next, { session with switchCount := session.switchCount + 1, active := some next })
      | none => (current, session)
    else (current, session)

def homeless (key : String) (state : PoolState) : Bool :=
  (((ensureSessionCapacity state.sessions key).get key).bind PoolSessionState.active).isNone

def selectActive (self : PoolExecutor F) (key : String) (health : HealthMask) (access : Nat)
    (state : PoolState) : Nat × PoolState :=
  if homeless key state ∧ self.router.home = .roundRobin then
    withSession key (self.selectSession key health (some state.homeSequence) access)
      { state with homeSequence := state.homeSequence + 1 }
  else withSession key (self.selectSession key health none access) state

def moveSession (self : PoolExecutor F) (key : String) (current : Nat) (mask : HealthMask)
    (access : Nat) (session : PoolSessionState) : Option Nat × PoolSessionState :=
  if session.active ≠ some current then
    (session.active.filter (fun active => (mask[active]?).getD false),
      { session with lastAccess := access })
  else if self.switchesRemain session.switchCount = true then
    match self.router.selectFailover key current mask with
    | none => (none, session)
    | some next => (some next, ⟨some next, session.switchCount + 1, access⟩)
  else (none, { session with lastAccess := access })

def move (self : PoolExecutor F) (key : String) (current : Nat) (mask : HealthMask) (access : Nat)
    (state : PoolState) : Option Nat × PoolState :=
  withSession key (self.moveSession key current mask access) state

def resetBudget (key : String) (access : Nat) (state : PoolState) : PoolState :=
  { state with sessions := state.sessions.modify key (fun session =>
      { session with lastAccess := access, switchCount := 0 }) }

end Sessions

section StreamAttempts

def ensureStreamAttemptCapacity (attempts : Table String PoolStreamAttemptState)
    (current : String) : Option (Table String PoolStreamAttemptState) :=
  attempts.makeRoom maxPoolStreamAttempts PoolStreamAttemptState.lastAccess
    (fun key attempt => key ≠ current && !attempt.inFlight) current

def withStreamAttempt (self : PoolExecutor F) (key : String)
    (f : PoolStreamAttemptState → PoolStreamAttemptState) (state : PoolState) :
    Option PoolStreamAttemptState × PoolState :=
  match ensureStreamAttemptCapacity state.streamAttempts key with
  | none => (none, state)
  | some attempts =>
    let attempt := f { (attempts.get key).getD (.new self.members.length) with
      lastAccess := state.streamAttemptSequence + 1 }
    (some attempt, { state with
      streamAttempts := attempts.insert key attempt
      streamAttemptSequence := state.streamAttemptSequence + 1 })

def streamTriedMask (self : PoolExecutor F) (key : String) (state : PoolState) :
    List Bool × PoolState :=
  match state.streamAttempts.get key with
  | none => (List.replicate self.members.length false, state)
  | some attempt => (attempt.tried, { state with
      streamAttempts := state.streamAttempts.insert key
        { attempt with lastAccess := state.streamAttemptSequence + 1 }
      streamAttemptSequence := state.streamAttemptSequence + 1 })

def markStreamActive (self : PoolExecutor F) (key : String) (idx : Nat) (state : PoolState) :
    Bool × PoolState :=
  let (attempt, state) := self.withStreamAttempt key (.markActive idx) state
  (attempt.isSome, state)

def markStreamOpenFailure (self : PoolExecutor F) (key : String) (idx : Nat) (state : PoolState) :
    PoolState :=
  (self.withStreamAttempt key (.markOpenFailure idx) state).2

def markStreamFailure (self : PoolExecutor F) (key : String) (current : Nat) (state : PoolState) :
    List Bool × PoolState :=
  let (attempt, state) := self.withStreamAttempt key (.markFailure current) state
  ((attempt.map PoolStreamAttemptState.tried).getD
    ((List.replicate self.members.length false).set current true), state)

def streamMember (key : String) (state : PoolState) : Option Nat :=
  (state.streamAttempts.get key).bind (fun attempt =>
    if attempt.requestCallbacksAmbiguous then none else attempt.active)

def onStreamAttempt (key : String) (draws : PoolStreamAttemptState → Bool)
    (f : Nat → PoolStreamAttemptState → Bool × Option PoolStreamAttemptState) (state : PoolState) :
    Bool × PoolState :=
  match state.streamAttempts.get key with
  | none => (false, state)
  | some attempt =>
    let (result, kept) := f (state.streamAttemptSequence + 1) attempt
    (result, { state with
      streamAttempts := match kept with
        | some attempt => state.streamAttempts.insert key attempt
        | none => state.streamAttempts.remove key
      streamAttemptSequence :=
        if draws attempt then state.streamAttemptSequence + 1 else state.streamAttemptSequence })

def observeStreamFailure (key : String) (current : Nat) (streamFinished : Bool)
    (state : PoolState) : Bool × PoolState :=
  onStreamAttempt key (fun _ => true) (PoolStreamAttemptState.observeFailure current streamFinished)
    state

def finishStream (key : String) (current : Nat) (state : PoolState) : Bool × PoolState :=
  onStreamAttempt key (fun _ => false) (PoolStreamAttemptState.finish current) state

def abandonStream (key : String) (current : Nat) (state : PoolState) : Bool × PoolState :=
  onStreamAttempt key (fun attempt => attempt.active = some current)
    (PoolStreamAttemptState.abandon current) state

end StreamAttempts

end PoolExecutor

inductive PoolAction where
  | nextAnonymousSession
  | nextSessionSequence
  | readQuarantine
  | checkQuarantine (idx : Nat)
  | quarantine (idx : Nat)
  | isAvailable (idx : Nat)
  | check (idx : Nat)
  | recordSuccess (idx : Nat)
  | recordFailure (idx : Nat)
  | recordAbandonedProbe (idx : Nat)
  | selectActive (key : String) (health : HealthMask) (access : Nat)
  | move (key : String) (current : Nat) (mask : HealthMask) (access : Nat)
  | resetBudget (key : String) (access : Nat)
  | execute (idx : Nat) (request : InferenceRequest)
  | executeStream (idx : Nat) (request : InferenceRequest)
  | streamTriedMask (key : String)
  | markStreamActive (key : String) (idx : Nat)
  | markStreamOpenFailure (key : String) (idx : Nat)
  | markStreamFailure (key : String) (current : Nat)
  | streamMember (key : String)
  | observeStreamFailure (key : String) (current : Nat) (streamFinished : Bool)
  | finishStream (key : String) (current : Nat)
  | abandonStream (key : String) (current : Nat)
deriving DecidableEq

def PoolAction.Response (T : Type) : PoolAction → Type
  | .nextAnonymousSession | .nextSessionSequence => Nat
  | .readQuarantine => List Bool
  | .checkQuarantine _ | .isAvailable _ => Bool
  | .check _ => Except String Unit
  | .quarantine _ | .recordSuccess _ | .recordFailure _ | .recordAbandonedProbe _ => Unit
  | .selectActive .. => Nat
  | .move .. => Option Nat
  | .resetBudget .. => Unit
  | .execute .. => Except InferenceExecutionError T
  | .executeStream .. => Except InferenceExecutionError Unit
  | .streamTriedMask _ | .markStreamFailure .. => List Bool
  | .markStreamActive .. | .observeStreamFailure .. | .finishStream .. | .abandonStream .. => Bool
  | .markStreamOpenFailure .. => Unit
  | .streamMember _ => Option Nat

namespace PoolExecutor

variable {F T : Type} [LinearOrder F]

/-- The response to an action, and the state after it. The replies of the members are given. -/
def respond (self : PoolExecutor F) (now : Nat) (state : PoolState) :
    (action : PoolAction) → action.Response T → action.Response T × PoolState
  | .nextAnonymousSession, _ => (state.anonymousSessionSequence + 1,
      { state with anonymousSessionSequence := state.anonymousSessionSequence + 1 })
  | .nextSessionSequence, _ => (state.sessionSequence + 1,
      { state with sessionSequence := state.sessionSequence + 1 })
  | .readQuarantine, _ => (state.permanentQuarantine, state)
  | .checkQuarantine idx, _ => ((state.permanentQuarantine[idx]?).getD false, state)
  | .quarantine idx, _ =>
    ((), { state with permanentQuarantine := state.permanentQuarantine.set idx true })
  | .isAvailable idx, _ => (state.breaker.isAvailable now (self.modelId idx), state)
  | .check idx, _ =>
    let (admitted, breaker) := state.breaker.check now (self.modelId idx)
    (admitted, { state with breaker := breaker })
  | .recordSuccess idx, _ =>
    ((), { state with breaker := state.breaker.recordSuccess (self.modelId idx) })
  | .recordFailure idx, _ =>
    ((), { state with breaker := state.breaker.recordFailure now (self.modelId idx) })
  | .recordAbandonedProbe idx, _ =>
    ((), { state with breaker := state.breaker.recordAbandonedProbe now (self.modelId idx) })
  | .selectActive key health access, _ => self.selectActive key health access state
  | .move key current mask access, _ => self.move key current mask access state
  | .resetBudget key access, _ => ((), resetBudget key access state)
  | .execute _ _, reply => (reply, state)
  | .executeStream _ _, opened => (opened, state)
  | .streamTriedMask key, _ => self.streamTriedMask key state
  | .markStreamActive key idx, _ => self.markStreamActive key idx state
  | .markStreamOpenFailure key idx, _ => ((), self.markStreamOpenFailure key idx state)
  | .markStreamFailure key current, _ => self.markStreamFailure key current state
  | .streamMember key, _ => (streamMember key state, state)
  | .observeStreamFailure key current finished, _ => observeStreamFailure key current finished state
  | .finishStream key current, _ => finishStream key current state
  | .abandonStream key current, _ => abandonStream key current state

def Acts (self : PoolExecutor F) (event : Event (PoolAction.Response T))
    (state state' : PoolState) : Prop :=
  ∃ now, self.respond now state event.action event.response = (event.response, state')

end PoolExecutor

abbrev PoolProcess (T α : Type) : Type := Process (PoolAction.Response T) α

namespace PoolExecutor

variable {F T : Type} [LinearOrder F]

section Calls

def perform (action : PoolAction) : PoolProcess T (action.Response T) := Process.perform action

def memberAvailable (self : PoolExecutor F) (quarantined : List Bool) (idx : Nat) :
    PoolProcess T Bool :=
  if (quarantined[idx]?).getD false then pure false
  else if self.router.switch.onCircuitOpen then perform (.isAvailable idx)
  else pure true

def availability (self : PoolExecutor F) (quarantined : List Bool) :
    List Nat → PoolProcess T HealthMask
  | [] => pure []
  | idx :: idxs => do
    let available ← self.memberAvailable quarantined idx
    return available :: (← self.availability quarantined idxs)

def healthMask (self : PoolExecutor F) : PoolProcess T HealthMask := do
  let quarantined : List Bool ← perform .readQuarantine
  self.availability quarantined (List.range self.members.length)

def sessionKey (self : PoolExecutor F) (request : InferenceRequest) : PoolProcess T String :=
  match request.routingKey.bind (fun key => key.forScope self.stickyScope) with
  | some key => pure key
  | none =>
    match request.routingKey.bind InferenceRoutingKey.logicalInferenceId with
    | some logicalId => pure (self.fallbackHomeKey ++ "\x00logical\x00" ++ logicalId)
    | none => do
      let sequence : Nat ← perform .nextAnonymousSession
      return self.fallbackHomeKey ++ "\x00anonymous\x00" ++ toString sequence

def streamAttemptKey (key : String) (request : InferenceRequest) : Option String :=
  (request.routingKey.bind InferenceRoutingKey.logicalInferenceId).map (key ++ "\x00" ++ ·)

def selectActiveMember (self : PoolExecutor F) (key : String) : PoolProcess T Nat := do
  let health ← self.healthMask
  let access : Nat ← perform .nextSessionSequence
  perform (.selectActive key health access)

def untried (mask : HealthMask) (tried : List Bool) : HealthMask :=
  mask.mapIdx (fun idx available => available && !(tried[idx]?).getD false)

def nextOnUnavailable (self : PoolExecutor F) (key : String) (current : Nat) (tried : List Bool) :
    PoolProcess T (Option Nat) := do
  let mask ← self.healthMask
  let access : Nat ← perform .nextSessionSequence
  perform (.move key current (untried mask tried) access)

def nextOnError (self : PoolExecutor F) (key : String) (current : Nat)
    (err : InferenceExecutionError) (tried : List Bool) : PoolProcess T (Option Nat) :=
  if self.router.shouldSwitchOnError err then self.nextOnUnavailable key current tried
  else pure none

def checkMember (self : PoolExecutor F) (idx : Nat) :
    PoolProcess T (Except InferenceExecutionError Unit) := do
  let quarantined : Bool ← perform (.checkQuarantine idx)
  if quarantined then
    return .error (.provider ("model pool member " ++ self.modelId idx ++ " is quarantined"))
  else if self.router.switch.onCircuitOpen then
    let admitted : Except String Unit ← perform (.check idx)
    return admitted.mapError .provider
  else return .ok ()

def noMemberAvailableError (self : PoolExecutor F) (fallback : InferenceExecutionError)
    (tried : List Bool) : PoolProcess T InferenceExecutionError := do
  let health ← self.healthMask
  return if !health.any id then .allModelsUnavailable
    else if (untried health tried).any id then fallback
    else .poolAttemptsExhausted

def errorDrivenNoMemberAvailableError (self : PoolExecutor F) (fallback : InferenceExecutionError)
    (tried : List Bool) : PoolProcess T InferenceExecutionError :=
  if (List.range self.members.length).all (fun idx => (tried[idx]?).getD false) then
    pure .poolAttemptsExhausted
  else self.noMemberAvailableError fallback tried

def resetSwitchBudget (key : String) : PoolProcess T Unit := do
  let access : Nat ← perform .nextSessionSequence
  perform (.resetBudget key access)

def isMemberPermanentError : InferenceExecutionError → Bool
  | .unauthorized _ | .modelNotFound _ => true
  | _ => false

def recordFailure (self : PoolExecutor F) (idx : Nat) (err : InferenceExecutionError) :
    PoolProcess T Unit := do
  if self.router.switch.onPermanent && isMemberPermanentError err then
    (perform (.quarantine idx) : PoolProcess T Unit)
  if err.countsTowardCircuitBreaker then perform (.recordFailure idx)

def requestFor (self : PoolExecutor F) (idx : Nat) (base : InferenceRequest) : InferenceRequest :=
  { base with upstreamModel := ((self.members[idx]?).map PoolMemberExecutor.upstreamModel).getD "" }

structure Attempt (T β γ : Type) where
  send : Nat → PoolProcess T (Except InferenceExecutionError β)
  succeed : Nat → β → PoolProcess T γ
  fail : Nat → PoolProcess T Unit
  retried : List Bool → PoolProcess T (List Bool)

/-- The loop over the members. It yields nothing where it has not ended after so many passes. -/
def attemptMembers {β γ : Type} (self : PoolExecutor F) (key : String) (attempt : Attempt T β γ) :
    Nat → Nat → List Bool → PoolProcess T (Option (Except InferenceExecutionError γ))
  | 0, _, _ => pure none
  | passes + 1, idx, tried => do
    let tried := tried.set idx true
    match ← self.checkMember idx with
    | .error err =>
      match ← self.nextOnUnavailable key idx tried with
      | some next => self.attemptMembers key attempt passes next tried
      | none => return some (.error (← self.noMemberAvailableError err tried))
    | .ok () =>
      match ← attempt.send idx with
      | .ok reply => return some (.ok (← attempt.succeed idx reply))
      | .error err => do
        self.recordFailure idx err
        attempt.fail idx
        match ← self.nextOnError key idx err tried with
        | some next => do
          let tried ← attempt.retried tried
          self.attemptMembers key attempt passes next tried
        | none =>
          if self.router.shouldSwitchOnError err then
            return some (.error (← self.errorDrivenNoMemberAvailableError err tried))
          else return some (.error err)

def executeAttempt (self : PoolExecutor F) (key : String) (request : InferenceRequest) :
    Attempt T T T where
  send idx := perform (.execute idx (self.requestFor idx request))
  succeed idx reply := do
    (perform (.recordSuccess idx) : PoolProcess T Unit)
    resetSwitchBudget key
    return reply
  fail _ := pure ()
  retried tried := pure tried

def execute (self : PoolExecutor F) (request : InferenceRequest) :
    PoolProcess T (Option (Except InferenceExecutionError T)) := do
  let key ← self.sessionKey request
  let idx ← self.selectActiveMember key
  self.attemptMembers key (self.executeAttempt key request) (self.members.length + 1) idx
    (List.replicate self.members.length false)

structure PoolObservedStream where
  sessionKey : String
  attemptKey : Option String
  memberIdx : Nat
  finished : Bool

def triedMask (self : PoolExecutor F) : Option String → PoolProcess T (List Bool)
  | some attemptKey => perform (.streamTriedMask attemptKey)
  | none => pure (List.replicate self.members.length false)

def markActive : Option String → Nat → PoolProcess T Bool
  | some attemptKey, idx => perform (.markStreamActive attemptKey idx)
  | none, _ => pure false

def markOpenFailure : Option String → Nat → PoolProcess T Unit
  | some attemptKey, idx => perform (.markStreamOpenFailure attemptKey idx)
  | none, _ => pure ()

def mergeTriedMask (self : PoolExecutor F) (attemptKey : Option String) (tried : List Bool) :
    PoolProcess T (List Bool) := do
  let cached ← self.triedMask attemptKey
  return tried.mapIdx (fun idx attempted => attempted || (cached[idx]?).getD false)

def streamAttempt (self : PoolExecutor F) (key : String) (attemptKey : Option String)
    (request : InferenceRequest) : Attempt T Unit PoolObservedStream where
  send idx := perform (.executeStream idx (self.requestFor idx request))
  succeed idx _ := do
    let marked ← markActive attemptKey idx
    return ⟨key, if marked then attemptKey else none, idx, false⟩
  fail idx := markOpenFailure attemptKey idx
  retried tried := if attemptKey.isSome then self.mergeTriedMask attemptKey tried else pure tried

def executeStream (self : PoolExecutor F) (request : InferenceRequest) :
    PoolProcess T (Option (Except InferenceExecutionError PoolObservedStream)) := do
  let key ← self.sessionKey request
  let attemptKey := streamAttemptKey key request
  let idx ← self.selectActiveMember key
  let tried ← self.triedMask attemptKey
  self.attemptMembers key (self.streamAttempt key attemptKey request) (self.members.length + 1) idx
    tried

end Calls

section Streams

def markFailure (self : PoolExecutor F) : Option String → Nat → PoolProcess T (List Bool)
  | some attemptKey, current => perform (.markStreamFailure attemptKey current)
  | none, current => pure ((List.replicate self.members.length false).set current true)

def ifRecorded (attemptKey : Option String) (ask : String → PoolProcess T Bool)
    (record : PoolProcess T Unit) : PoolProcess T Unit :=
  match attemptKey with
  | some attemptKey => do
    let recorded ← ask attemptKey
    if recorded then record else pure ()
  | none => record

def recordStreamAttemptFailure (self : PoolExecutor F) (key : String) (attemptKey : Option String)
    (current : Nat) (err : InferenceExecutionError) : PoolProcess T Unit := do
  self.recordFailure current err
  let tried ← self.markFailure attemptKey current
  if self.router.shouldSwitchOnError err then
    let _ ← self.nextOnError key current err tried
  else if self.router.switch.onCircuitOpen then
    let available : Bool ← perform (.isAvailable current)
    if !available then
      let _ ← self.nextOnUnavailable key current tried

def recordStreamAttemptFailureOnce (self : PoolExecutor F) (key : String)
    (attemptKey : Option String) (current : Nat) (err : InferenceExecutionError)
    (streamFinished : Bool) : PoolProcess T Unit :=
  ifRecorded attemptKey (fun attemptKey =>
    perform (.observeStreamFailure attemptKey current streamFinished))
    (self.recordStreamAttemptFailure key attemptKey current err)

def recordStreamAttemptSuccess (key : String) (attemptKey : Option String) (current : Nat) :
    PoolProcess T Unit :=
  ifRecorded attemptKey (fun attemptKey => perform (.finishStream attemptKey current)) do
    (perform (.recordSuccess current) : PoolProcess T Unit)
    resetSwitchBudget key

def recordStreamAttemptAbandoned (attemptKey : Option String) (current : Nat) :
    PoolProcess T Unit :=
  ifRecorded attemptKey (fun attemptKey => perform (.abandonStream attemptKey current))
    (perform (.recordAbandonedProbe current))

def recordStreamMemberFailure (self : PoolExecutor F) (request : InferenceRequest)
    (err : InferenceExecutionError) : PoolProcess T Unit := do
  let key ← self.sessionKey request
  match streamAttemptKey key request with
  | none => pure ()
  | some attemptKey =>
    let current : Option Nat ← perform (.streamMember attemptKey)
    match current with
    | none => pure ()
    | some current => self.recordStreamAttemptFailureOnce key (some attemptKey) current err false

inductive StreamPoll where
  | item
  | failed (err : InferenceExecutionError)
  | ended

def pollNext (self : PoolExecutor F) (stream : PoolObservedStream) :
    StreamPoll → PoolProcess T PoolObservedStream
  | .item => pure stream
  | .failed err => do
    self.recordStreamAttemptFailureOnce stream.sessionKey stream.attemptKey stream.memberIdx err
      true
    return { stream with finished := true }
  | .ended =>
    if stream.finished then pure stream
    else do
      recordStreamAttemptSuccess stream.sessionKey stream.attemptKey stream.memberIdx
      return { stream with finished := true }

def dropStream (stream : PoolObservedStream) : PoolProcess T Unit :=
  if stream.finished then pure ()
  else recordStreamAttemptAbandoned stream.attemptKey stream.memberIdx

def consume (self : PoolExecutor F) : PoolObservedStream → List StreamPoll → PoolProcess T Unit
  | stream, [] => dropStream stream
  | stream, poll :: polls => do
    let stream ← self.pollNext stream poll
    self.consume stream polls

end Streams

inductive PoolCall where
  | execute (request : InferenceRequest)
  | executeStream (request : InferenceRequest) (polls : List StreamPoll)
  | recordStreamFailure (request : InferenceRequest) (err : InferenceExecutionError)

abbrev PoolAnswer (T : Type) : Type := Option (Except InferenceExecutionError (Option T))

def process (self : PoolExecutor F) : PoolCall → PoolProcess T (PoolAnswer T)
  | .execute request => do
    let result ← self.execute request
    return result.map (Except.map some)
  | .executeStream request polls => do
    match ← self.executeStream request with
    | some (.ok stream) => do
      self.consume stream polls
      return some (.ok none)
    | some (.error err) => return some (.error err)
    | none => return none
  | .recordStreamFailure request err => do
    self.recordStreamMemberFailure request err
    return some (.ok none)

end PoolExecutor

namespace PoolExecutor

variable {F T : Type}

abbrev PoolSystem (ι T α : Type) : Type := System ι PoolState (PoolAction.Response T) α

abbrev PoolTransition (ι T α : Type) : Type :=
  Transition (PoolSystem ι T α) (System.Label ι (PoolAction.Response T))

abbrev Step {ι α : Type} [DecidableEq ι] [LinearOrder F] (self : PoolExecutor F) :
    PoolSystem ι T α → System.Label ι (PoolAction.Response T) → PoolSystem ι T α → Prop :=
  System.Step (fun _ => self.Acts)

def start {ι : Type} (self : PoolExecutor F) (breaker : CircuitBreaker) (calls : ι → PoolCall) :
    PoolSystem ι T (PoolAnswer T) :=
  ⟨self.newState breaker, fun i => self.process (calls i)⟩

section Samples

def samplePool : PoolExecutor Nat where
  fallbackHomeKey := "pool"
  members := [⟨"a", "upstream-a"⟩, ⟨"b", "upstream-b"⟩]
  router :=
    { members := [⟨"a", .member, 1⟩, ⟨"b", .member, 1⟩]
      home := .firstHealthy
      switch := ⟨true, true, true, some 1, none⟩
      weightedRendezvousScore := fun _ _ weight => weight }
  stickyScope := .thread
  aligned := rfl
  nonempty := by decide

def sampleReply (err : InferenceExecutionError) : (action : PoolAction) → action.Response String
  | .nextAnonymousSession | .nextSessionSequence => (0 : Nat)
  | .readQuarantine => ([] : List Bool)
  | .checkQuarantine _ | .isAvailable _ => false
  | .check _ => (.ok () : Except String Unit)
  | .quarantine _ | .recordSuccess _ | .recordFailure _ | .recordAbandonedProbe _ => ()
  | .selectActive .. => (0 : Nat)
  | .move .. => (none : Option Nat)
  | .resetBudget .. => ()
  | .execute idx _ =>
    (if idx = 0 then .error err else .ok "hello" : Except InferenceExecutionError String)
  | .executeStream .. => (.ok () : Except InferenceExecutionError Unit)
  | .streamTriedMask _ | .markStreamFailure .. => ([] : List Bool)
  | .markStreamActive .. | .observeStreamFailure .. | .finishStream .. | .abandonStream .. => false
  | .markStreamOpenFailure .. => ()
  | .streamMember _ => (none : Option Nat)

def sampleRequest (threadId : String) : InferenceRequest :=
  ⟨"", some ⟨some threadId, none, none, some "inference"⟩⟩

def sampleStart : PoolSystem Bool String (PoolAnswer String) :=
  samplePool.start (.new .default) (fun first =>
    if first then .execute (sampleRequest "t") else .executeStream (sampleRequest "u") [.item])

def sampleRun (err : InferenceExecutionError) (s : PoolSystem Bool String (PoolAnswer String))
    (first : Bool) (steps : Nat) : List (PoolTransition Bool String (PoolAnswer String)) ×
      PoolSystem Bool String (PoolAnswer String) :=
  System.schedule (fun action state => samplePool.respond 0 state action (sampleReply err action)) s
    (List.replicate steps first)

lemma respond_given [LinearOrder F] (self : PoolExecutor F) (now : Nat) (state : PoolState)
    (action : PoolAction) (given : action.Response T) :
    self.respond now state action (self.respond now state action given).1 =
      self.respond now state action given := by
  cases action <;> rfl

lemma run_sampleRun (err : InferenceExecutionError)
    (s : PoolSystem Bool String (PoolAnswer String)) (first : Bool) (steps : Nat) :
    Run (samplePool.Step) s (sampleRun err s first steps).1
      (sampleRun err s first steps).2 :=
  System.run_schedule (fun _ action state => ⟨0, respond_given samplePool 0 state action _⟩) _ s

end Samples

end PoolExecutor

end Awaken.Engine
