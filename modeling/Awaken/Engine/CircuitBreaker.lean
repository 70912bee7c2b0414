import Awaken.Lib.Run
import Awaken.Lib.Table

/-! The circuit breaker of the models of a pool. The instants of the calls are given. -/

namespace Awaken.Engine

open Awaken.Lib

inductive CircuitStatus where
  | closed
  | opened
  | halfOpen
deriving DecidableEq

structure CircuitState where
  consecutiveFailures : Nat
  lastFailure : Nat
  status : CircuitStatus
  halfOpenAttempts : Nat
deriving DecidableEq

structure CircuitBreakerConfig where
  failureThreshold : Nat
  cooldown : Nat
  halfOpenMax : Nat

def CircuitBreakerConfig.default : CircuitBreakerConfig := ⟨5, 30000, 1⟩

def CircuitState.new (now : Nat) : CircuitState := ⟨0, now, .closed, 0⟩

namespace CircuitState

def check (config : CircuitBreakerConfig) (now : Nat) (self : CircuitState) : Bool × CircuitState :=
  match self.status with
  | .closed => (true, self)
  | .opened =>
    if now - self.lastFailure ≥ config.cooldown then
      (true, { self with status := .halfOpen, halfOpenAttempts := 1 })
    else (false, self)
  | .halfOpen =>
    if self.halfOpenAttempts < config.halfOpenMax then
      (true, { self with halfOpenAttempts := self.halfOpenAttempts + 1 })
    else (false, self)

def isAvailable (config : CircuitBreakerConfig) (now : Nat) (self : CircuitState) : Bool :=
  match self.status with
  | .closed => true
  | .opened => now - self.lastFailure ≥ config.cooldown
  | .halfOpen => self.halfOpenAttempts < config.halfOpenMax

def recordSuccess (self : CircuitState) : CircuitState :=
  { self with consecutiveFailures := 0, halfOpenAttempts := 0, status := .closed }

def recordFailure (config : CircuitBreakerConfig) (now : Nat) (self : CircuitState) :
    CircuitState :=
  let self := { self with
    consecutiveFailures := self.consecutiveFailures + 1
    lastFailure := now }
  if self.status = .halfOpen then { self with status := .opened }
  else if self.consecutiveFailures ≥ config.failureThreshold then { self with status := .opened }
  else self

def recordAbandonedProbe (now : Nat) (self : CircuitState) : CircuitState :=
  if self.status = .halfOpen then
    { self with status := .opened, halfOpenAttempts := 0, lastFailure := now }
  else self

end CircuitState

structure CircuitBreaker where
  config : CircuitBreakerConfig
  states : Table String CircuitState

namespace CircuitBreaker

def new (config : CircuitBreakerConfig) : CircuitBreaker := ⟨config, .empty⟩

def state (self : CircuitBreaker) (now : Nat) (model : String) : CircuitState :=
  (self.states.get model).getD (.new now)

def check (self : CircuitBreaker) (now : Nat) (model : String) :
    Except String Unit × CircuitBreaker :=
  let (admitted, state) := (self.state now model).check self.config now
  (if admitted then .ok () else .error s!"circuit breaker open for model {model}",
    { self with states := self.states.insert model state })

def isAvailable (self : CircuitBreaker) (now : Nat) (model : String) : Bool :=
  match self.states.get model with
  | none => true
  | some state => state.isAvailable self.config now

def recordSuccess (self : CircuitBreaker) (model : String) : CircuitBreaker :=
  { self with states := self.states.modify model CircuitState.recordSuccess }

def recordFailure (self : CircuitBreaker) (now : Nat) (model : String) : CircuitBreaker :=
  { self with
    states := self.states.insert model ((self.state now model).recordFailure self.config now) }

def recordAbandonedProbe (self : CircuitBreaker) (now : Nat) (model : String) : CircuitBreaker :=
  { self with states := self.states.modify model (CircuitState.recordAbandonedProbe now) }

end CircuitBreaker

namespace CircuitBreaker

inductive Call where
  | check (model : String)
  | isAvailable (model : String)
  | recordSuccess (model : String)
  | recordFailure (model : String)
  | recordAbandonedProbe (model : String)
deriving DecidableEq

structure Label where
  now : Nat
  call : Call
deriving DecidableEq

def step (self : CircuitBreaker) (label : Label) : CircuitBreaker :=
  match label.call with
  | .check model => (self.check label.now model).2
  | .isAvailable _ => self
  | .recordSuccess model => self.recordSuccess model
  | .recordFailure model => self.recordFailure label.now model
  | .recordAbandonedProbe model => self.recordAbandonedProbe label.now model

def Step (self : CircuitBreaker) (label : Label) (self' : CircuitBreaker) : Prop :=
  self' = self.step label

abbrev Trace := List (Transition CircuitBreaker Label)

/-- The instants of the calls do not go back. -/
def Clocked (tr : Trace) : Prop := tr.Pairwise (fun τ ρ => τ.label.now ≤ ρ.label.now)

/-- The call admits a request to the model. -/
def Admits (model : String) (τ : Transition CircuitBreaker Label) : Prop :=
  τ.label.call = .check model ∧ (τ.pre.check τ.label.now model).1 = .ok ()

instance (model : String) (τ : Transition CircuitBreaker Label) : Decidable (Admits model τ) :=
  inferInstanceAs (Decidable (_ ∧ _))

/-- The call reports how a request to the model went. -/
def Reports (model : String) : Call → Prop
  | .recordSuccess m | .recordFailure m | .recordAbandonedProbe m => m = model
  | .check _ | .isAvailable _ => False

def failures (model : String) : List Label → Nat :=
  List.foldl (fun count label => match label.call with
    | .recordSuccess m => if m = model then 0 else count
    | .recordFailure m => if m = model then count + 1 else count
    | .check _ | .isAvailable _ | .recordAbandonedProbe _ => count) 0

variable {self self' : CircuitBreaker} {label : Label} {model : String} {tr : Trace} {t : Nat}

lemma config_step (self : CircuitBreaker) (label : Label) :
    (self.step label).config = self.config := by
  unfold step
  cases label.call <;> rfl

lemma failures_check (config : CircuitBreakerConfig) (now : Nat) (state : CircuitState) :
    (state.check config now).2.consecutiveFailures = state.consecutiveFailures := by
  unfold CircuitState.check
  split
  · rfl
  · split <;> rfl
  · split <;> rfl

lemma failures_recordFailure (config : CircuitBreakerConfig) (now : Nat) (state : CircuitState) :
    (state.recordFailure config now).consecutiveFailures = state.consecutiveFailures + 1 := by
  unfold CircuitState.recordFailure
  dsimp only
  split
  · rfl
  · split <;> rfl

lemma failures_recordAbandonedProbe (now : Nat) (state : CircuitState) :
    (state.recordAbandonedProbe now).consecutiveFailures = state.consecutiveFailures := by
  unfold CircuitState.recordAbandonedProbe
  split <;> rfl

lemma get_step (self : CircuitBreaker) (label : Label) (model : String) :
    (self.step label).states.get model =
      if label.call = .check model then
        some ((self.state label.now model).check self.config label.now).2
      else if label.call = .recordSuccess model then
        (self.states.get model).map CircuitState.recordSuccess
      else if label.call = .recordFailure model then
        some ((self.state label.now model).recordFailure self.config label.now)
      else if label.call = .recordAbandonedProbe model then
        (self.states.get model).map (CircuitState.recordAbandonedProbe label.now)
      else self.states.get model := by
  obtain ⟨now, call⟩ := label
  cases call with
  | check m =>
    by_cases hm : model = m
    · simp [step, check, Table.get_insert, hm]
    · simp [step, check, Table.get_insert, hm, Ne.symm hm]
  | isAvailable m => simp [step]
  | recordSuccess m =>
    by_cases hm : model = m
    · simp [step, recordSuccess, hm]
    · simp [step, recordSuccess, Table.get_modify, hm, Ne.symm hm]
  | recordFailure m =>
    by_cases hm : model = m
    · simp [step, recordFailure, Table.get_insert, hm]
    · simp [step, recordFailure, Table.get_insert, hm, Ne.symm hm]
  | recordAbandonedProbe m =>
    by_cases hm : model = m
    · simp [step, recordAbandonedProbe, hm]
    · simp [step, recordAbandonedProbe, Table.get_modify, hm, Ne.symm hm]

lemma admits_iff {τ : Transition CircuitBreaker Label} : Admits model τ ↔
    τ.label.call = .check model ∧
      ((τ.pre.state τ.label.now model).check τ.pre.config τ.label.now).1 = true := by
  refine and_congr_right (fun _ => ?_)
  unfold check
  cases h : ((τ.pre.state τ.label.now model).check τ.pre.config τ.label.now).1 <;> simp [h]

def counted (self : CircuitBreaker) (model : String) : Nat :=
  ((self.states.get model).map CircuitState.consecutiveFailures).getD 0

lemma failures_append (labels : List Label) (label : Label) :
    failures model (labels ++ [label]) = match label.call with
      | .recordSuccess m => if m = model then 0 else failures model labels
      | .recordFailure m => if m = model then failures model labels + 1 else failures model labels
      | .check _ | .isAvailable _ | .recordAbandonedProbe _ => failures model labels := by
  rw [failures, List.foldl_append]
  rfl

lemma counted_state (self : CircuitBreaker) (now : Nat) (model : String) :
    (self.state now model).consecutiveFailures = self.counted model := by
  unfold state counted
  cases self.states.get model <;> rfl

lemma counted_step (self : CircuitBreaker) (label : Label) (labels : List Label)
    (h : self.counted model = failures model labels) :
    (self.step label).counted model = failures model (labels ++ [label]) := by
  rw [failures_append, counted, get_step]
  obtain ⟨now, call⟩ := label
  cases call with
  | check m =>
    by_cases hm : m = model
    · simp [hm, failures_check, counted_state, h]
    · simpa [hm, counted] using h
  | isAvailable m => simpa [counted] using h
  | recordSuccess m =>
    by_cases hm : m = model
    · cases self.states.get model <;> simp [hm, CircuitState.recordSuccess]
    · simpa [hm, counted] using h
  | recordFailure m =>
    by_cases hm : m = model
    · simp [hm, failures_recordFailure, counted_state, h]
    · simpa [hm, counted] using h
  | recordAbandonedProbe m =>
    by_cases hm : m = model
    · rw [counted] at h
      cases hget : self.states.get model <;>
        simpa [hm, hget, failures_recordAbandonedProbe] using h
    · simpa [hm, counted] using h

lemma counted_run {labels : List Label} (h : Run Step self tr self')
    (hstart : self.counted model = failures model labels) :
    self'.counted model = failures model (labels ++ tr.map (·.label)) ∧
      self'.config = self.config := by
  induction h generalizing labels with
  | nil => simpa using hstart
  | cons hstep _ ih =>
    subst hstep
    obtain ⟨hcounted, hconfig⟩ := ih (counted_step _ _ _ hstart)
    refine ⟨?_, hconfig.trans (config_step _ _)⟩
    simpa using hcounted

lemma opened_recordFailure {config : CircuitBreakerConfig} {now : Nat} {state : CircuitState}
    (h : config.failureThreshold ≤ state.consecutiveFailures + 1) :
    (state.recordFailure config now).status = .opened ∧
      (state.recordFailure config now).lastFailure = now := by
  by_cases hhalf : state.status = .halfOpen
  · simp [CircuitState.recordFailure, hhalf]
  · simp [CircuitState.recordFailure, hhalf, h]

lemma get_step_quiet (hquiet : ¬ Reports model label.call)
    (hrefused : ¬ Admits model ⟨self, label, self.step label⟩) {state : CircuitState}
    (hstate : self.states.get model = some state) :
    (self.step label).states.get model = some state := by
  rw [get_step]
  by_cases hcheck : label.call = .check model
  · rw [if_pos hcheck]
    have hrefused : ((self.state label.now model).check self.config label.now).1 ≠ true :=
      fun hadmitted => hrefused ((admits_iff).mpr ⟨hcheck, hadmitted⟩)
    have hsame : self.state label.now model = state := by rw [CircuitBreaker.state, hstate]; rfl
    rw [hsame] at hrefused ⊢
    congr 1
    unfold CircuitState.check at hrefused ⊢
    split
    · rfl
    · split
      · next hopened hlate => simp [hopened, hlate] at hrefused
      · rfl
    · split
      · next hhalf hroom => simp [hhalf, hroom] at hrefused
      · rfl
  · have hsuccess : label.call ≠ .recordSuccess model := fun h => hquiet (by rw [h]; rfl)
    have hfailure : label.call ≠ .recordFailure model := fun h => hquiet (by rw [h]; rfl)
    have hprobe : label.call ≠ .recordAbandonedProbe model := fun h => hquiet (by rw [h]; rfl)
    rw [if_neg hcheck, if_neg hsuccess, if_neg hfailure, if_neg hprobe, hstate]

lemma halfOpen_admits (h : Run Step self tr self')
    (hquiet : ∀ ρ ∈ tr, ¬ Reports model ρ.label.call) {state : CircuitState}
    (hstate : self.states.get model = some state) (hhalf : state.status = .halfOpen) :
    tr.countP (Admits model ·) ≤ self.config.halfOpenMax - state.halfOpenAttempts := by
  induction h generalizing state with
  | nil => simp
  | @cons self next self' label tr hstep hrest ih =>
    subst hstep
    rw [List.forall_mem_cons] at hquiet
    rw [List.countP_cons]
    by_cases hadmits : Admits model ⟨self, label, self.step label⟩
    · obtain ⟨hcheck, hadmitted⟩ := (admits_iff).mp hadmits
      have hsame : self.state label.now model = state := by rw [CircuitBreaker.state, hstate]; rfl
      rw [hsame] at hadmitted
      have hroom : state.halfOpenAttempts < self.config.halfOpenMax := by
        by_contra hfull
        simp [CircuitState.check, hhalf, hfull] at hadmitted
      have hnext : (self.step label).states.get model =
          some { state with halfOpenAttempts := state.halfOpenAttempts + 1 } := by
        rw [get_step, if_pos hcheck, hsame]
        simp [CircuitState.check, hhalf, hroom]
      have hleft := ih hquiet.2 hnext hhalf
      rw [config_step] at hleft
      simp only [hadmits, decide_true, if_true]
      dsimp only at hleft
      omega
    · have hleft := ih hquiet.2 (get_step_quiet hquiet.1 hadmits hstate) hhalf
      rw [config_step] at hleft
      simpa [hadmits] using hleft

lemma opened_admits (h : Run Step self tr self') (hclock : Clocked tr)
    (hlater : ∀ ρ ∈ tr, t ≤ ρ.label.now) (hquiet : ∀ ρ ∈ tr, ¬ Reports model ρ.label.call)
    {state : CircuitState} (hstate : self.states.get model = some state)
    (hopened : state.status = .opened) (hfailure : state.lastFailure = t) :
    (∀ ρ ∈ tr, Admits model ρ → t + self.config.cooldown ≤ ρ.label.now) ∧
      tr.countP (Admits model ·) ≤ max 1 self.config.halfOpenMax ∧
      ((∃ ρ ∈ tr, ρ.label.call = .check model ∧ t + self.config.cooldown ≤ ρ.label.now) →
        ∃ ρ ∈ tr, Admits model ρ) := by
  induction h generalizing state with
  | nil => simp
  | @cons self next self' label tr hstep hrest ih =>
    subst hstep
    rw [List.forall_mem_cons] at hquiet hlater
    obtain ⟨hfirst, hclock⟩ := List.pairwise_cons.mp hclock
    have hsame : self.state label.now model = state := by rw [CircuitBreaker.state, hstate]; rfl
    by_cases hadmits : Admits model ⟨self, label, self.step label⟩
    · obtain ⟨hcheck, hadmitted⟩ := (admits_iff).mp hadmits
      rw [hsame] at hadmitted
      have hlate : label.now - t ≥ self.config.cooldown := by
        by_contra hearly
        simp [CircuitState.check, hopened, hfailure, hearly] at hadmitted
      have hnow : t + self.config.cooldown ≤ label.now := by
        have := hlater.1
        dsimp only at this
        omega
      have hnext : (self.step label).states.get model =
          some { state with status := .halfOpen, halfOpenAttempts := 1 } := by
        rw [get_step, if_pos hcheck, hsame]
        simp [CircuitState.check, hopened, hfailure, hlate]
      have hleft := halfOpen_admits hrest hquiet.2 hnext rfl
      rw [config_step] at hleft
      refine ⟨?_, ?_, fun _ => ⟨_, List.mem_cons_self, hadmits⟩⟩
      · rw [List.forall_mem_cons]
        exact ⟨fun _ => hnow, fun ρ hρ _ => Nat.le_trans hnow (hfirst ρ hρ)⟩
      · rw [List.countP_cons]
        simp only [hadmits, decide_true, if_true]
        dsimp only at hleft
        omega
    · have hnext := get_step_quiet hquiet.1 hadmits hstate
      obtain ⟨htimes, hcount, hprobe⟩ := ih hclock hlater.2 hquiet.2 hnext hopened hfailure
      rw [config_step] at htimes hcount hprobe
      refine ⟨?_, ?_, ?_⟩
      · rw [List.forall_mem_cons]
        exact ⟨fun h => absurd h hadmits, htimes⟩
      · rw [List.countP_cons]
        simpa [hadmits] using hcount
      · rintro ⟨ρ, hρ, hcheck, hlate⟩
        cases List.mem_cons.mp hρ with
        | inl heq =>
          subst heq
          refine absurd ((admits_iff).mpr ⟨hcheck, ?_⟩) hadmits
          have hover : label.now - t ≥ self.config.cooldown := by
            dsimp only at hlate
            omega
          dsimp only
          rw [hsame]
          simp [CircuitState.check, hopened, hfailure, hover]
        | inr hρ =>
          obtain ⟨probe, hmem, hadmitted⟩ := hprobe ⟨ρ, hρ, hcheck, hlate⟩
          exact ⟨probe, List.mem_cons_of_mem _ hmem, hadmitted⟩

def HalfOpen (self : CircuitBreaker) (model : String) : Prop :=
  ∃ state, self.states.get model = some state ∧ state.status = .halfOpen

/-- The call opens the circuit behind those made before: with a failure that reaches the threshold,
or as a half-open circuit is told that a request failed or was abandoned. -/
def Opens (model : String) (before : Trace) (τ : Transition CircuitBreaker Label) : Prop :=
  τ.label.call = .recordFailure model ∧
      τ.pre.config.failureThreshold ≤ failures model ((before ++ [τ]).map (fun ρ => ρ.label)) ∨
    HalfOpen τ.pre model ∧
      (τ.label.call = .recordFailure model ∨ τ.label.call = .recordAbandonedProbe model)

lemma opened_step {before : Trace}
    (hcounted : self.counted model = failures model (before.map (fun ρ => ρ.label)))
    (hopens : Opens model before ⟨self, label, self.step label⟩) :
    ∃ state, (self.step label).states.get model = some state ∧ state.status = .opened ∧
      state.lastFailure = label.now := by
  rcases hopens with ⟨hfailed, hthreshold⟩ | ⟨⟨state, hstate, hhalf⟩, hfailed | habandoned⟩
  · dsimp only at hfailed hthreshold
    rw [List.map_append, List.map_singleton, failures_append, hfailed] at hthreshold
    have hfailures : self.config.failureThreshold ≤
        (self.state label.now model).consecutiveFailures + 1 := by
      rw [counted_state, hcounted]
      simpa using hthreshold
    refine ⟨_, ?_, opened_recordFailure hfailures⟩
    simp [get_step, hfailed]
  · dsimp only at hfailed hstate
    refine ⟨state.recordFailure self.config label.now, ?_, ?_, ?_⟩
    · simp [get_step, hfailed, CircuitBreaker.state, hstate]
    · simp [CircuitState.recordFailure, hhalf]
    · simp [CircuitState.recordFailure, hhalf]
  · dsimp only at habandoned hstate
    refine ⟨state.recordAbandonedProbe label.now, ?_, ?_, ?_⟩
    · simp [get_step, habandoned, hstate]
    · simp [CircuitState.recordAbandonedProbe, hhalf]
    · simp [CircuitState.recordAbandonedProbe, hhalf]

/-- From the call that opens the circuit, and until a further request is reported, the circuit
admits no request before the cooldown is over, then at least one and at most the probes. -/
theorem open_circuit_admits (config : CircuitBreakerConfig) {before after : Trace}
    {τ : Transition CircuitBreaker Label} {self : CircuitBreaker} (model : String)
    (h : Run Step (new config) (before ++ τ :: after) self)
    (hclock : Clocked (before ++ τ :: after)) (hopens : Opens model before τ)
    (hquiet : ∀ ρ ∈ after, ¬ Reports model ρ.label.call) :
    (∀ ρ ∈ after, Admits model ρ → τ.label.now + config.cooldown ≤ ρ.label.now) ∧
      after.countP (Admits model ·) ≤ max 1 config.halfOpenMax ∧
      ((∃ ρ ∈ after, ρ.label.call = .check model ∧ τ.label.now + config.cooldown ≤ ρ.label.now) →
        ∃ ρ ∈ after, Admits model ρ) := by
  obtain ⟨mid, hbefore, hrest⟩ := h.split
  cases hrest with
  | @cons _ next _ label _ hstep hafter =>
    have hstart : (new config).counted model = failures model [] := rfl
    obtain ⟨hcounted, hconfig⟩ := counted_run hbefore hstart
    subst hstep
    obtain ⟨_, hclock, _⟩ := List.pairwise_append.mp hclock
    obtain ⟨hlater, hclock⟩ := List.pairwise_cons.mp hclock
    obtain ⟨state, hstate, hopened, hnow⟩ := opened_step hcounted hopens
    have hall := opened_admits hafter hclock hlater hquiet hstate hopened hnow
    have hconfig : mid.config = config := hconfig
    rw [config_step, hconfig] at hall
    exact hall

section Sample

def sampleConfig : CircuitBreakerConfig := ⟨2, 30, 1⟩

def sampleBefore : List Label := [⟨0, .check "m"⟩, ⟨1, .recordFailure "m"⟩, ⟨2, .check "m"⟩]
def sampleFailed : Label := ⟨3, .recordFailure "m"⟩
def sampleBetween : List Label := [⟨9, .check "m"⟩, ⟨33, .check "m"⟩, ⟨34, .check "m"⟩]
def sampleAbandoned : Label := ⟨35, .recordAbandonedProbe "m"⟩
def sampleAfter : List Label := [⟨64, .check "m"⟩, ⟨65, .check "m"⟩, ⟨65, .check "m"⟩]

def sampleProbed : List Label := sampleBefore ++ sampleFailed :: sampleBetween

def sampleAfterCalls (labels : List Label) : CircuitBreaker :=
  labels.foldl step (new sampleConfig)

def sampleFirst : Trace :=
  trace step (sampleAfterCalls (sampleBefore ++ [sampleFailed])) sampleBetween
def sampleSecond : Trace :=
  trace step (sampleAfterCalls (sampleProbed ++ [sampleAbandoned])) sampleAfter

theorem open_circuit_admits_probe :
    ((∀ ρ ∈ sampleFirst, Admits "m" ρ → 33 ≤ ρ.label.now) ∧
      sampleFirst.countP (Admits "m" ·) ≤ 1 ∧ ∃ ρ ∈ sampleFirst, Admits "m" ρ) ∧
    (∀ ρ ∈ sampleSecond, Admits "m" ρ → 65 ≤ ρ.label.now) ∧
      sampleSecond.countP (Admits "m" ·) ≤ 1 ∧ ∃ ρ ∈ sampleSecond, Admits "m" ρ := by
  constructor
  · obtain ⟨htimes, hcount, hprobe⟩ := @open_circuit_admits sampleConfig
      (trace step (new sampleConfig) sampleBefore) _ ⟨sampleAfterCalls sampleBefore, sampleFailed,
        sampleAfterCalls (sampleBefore ++ [sampleFailed])⟩ _ "m"
      (run_trace step (new sampleConfig) (sampleBefore ++ sampleFailed :: sampleBetween))
      (by simp [Clocked, trace, sampleBefore, sampleFailed, sampleBetween])
      (.inl ⟨rfl, by decide⟩) (by simp [trace, sampleBetween, Reports])
    exact ⟨htimes, hcount, hprobe ⟨_, List.mem_cons_of_mem _ List.mem_cons_self, rfl, by decide⟩⟩
  · obtain ⟨htimes, hcount, hprobe⟩ := @open_circuit_admits sampleConfig
      (trace step (new sampleConfig) sampleProbed) _ ⟨sampleAfterCalls sampleProbed,
        sampleAbandoned, sampleAfterCalls (sampleProbed ++ [sampleAbandoned])⟩ _ "m"
      (run_trace step (new sampleConfig) (sampleProbed ++ sampleAbandoned :: sampleAfter))
      (by simp [Clocked, trace, sampleProbed, sampleBefore, sampleFailed, sampleBetween,
        sampleAbandoned, sampleAfter])
      (.inr ⟨⟨_, rfl, by decide⟩, .inr rfl⟩) (by simp [trace, sampleAfter, Reports])
    exact ⟨htimes, hcount, hprobe ⟨_, List.mem_cons_of_mem _ List.mem_cons_self, rfl, by decide⟩⟩

end Sample

end CircuitBreaker

end Awaken.Engine
