import Awaken.Engine.PoolExecutor

namespace Awaken.Engine

open Awaken.Lib

namespace PoolExecutor

variable {F T : Type}

section Sessions

variable {self : PoolExecutor F} {key : String} {state : PoolState}

def SessionGoes (sessions : Table String PoolSessionState) (current victim : String) : Prop :=
  sessions.Goes maxPoolSessionStates PoolSessionState.lastAccess (fun key _ => key ≠ current)
    current victim

lemma ensureSessionCapacity_eq (sessions : Table String PoolSessionState) (current : String) :
    sessions.makeRoom maxPoolSessionStates PoolSessionState.lastAccess (fun key _ => key ≠ current)
      current = some (ensureSessionCapacity sessions current) := by
  cases hroom : sessions.makeRoom maxPoolSessionStates PoolSessionState.lastAccess
      (fun key _ => key ≠ current) current with
  | some room => rw [ensureSessionCapacity, hroom, Option.getD_some]
  | none =>
    obtain ⟨hfull, habsent, hnone⟩ := Table.makeRoom_none hroom
    obtain ⟨⟨other, session⟩, hmem⟩ :=
      List.exists_mem_of_length_pos (lt_of_lt_of_le (by decide : 0 < 4096) hfull)
    have hget := (Table.get_eq_some).mpr hmem
    have hother : other ≠ current := by
      rintro rfl
      rw [habsent] at hget
      cases hget
    exact absurd hother (by simpa using hnone other session hget)

def sessionOf (key : String) (sessions : Table String PoolSessionState) : PoolSessionState :=
  (sessions.get key).getD .default

variable {β : Type} {f : PoolSessionState → β × PoolSessionState}

lemma withSession_eq (key : String) (f : PoolSessionState → β × PoolSessionState)
    (state : PoolState) :
    withSession key f state = ((f (sessionOf key state.sessions)).1, { state with
      sessions := (ensureSessionCapacity state.sessions key).insert key
        (f (sessionOf key state.sessions)).2 }) := by
  rw [withSession, Table.get_makeRoom_self (ensureSessionCapacity_eq state.sessions key)]
  rfl

lemma get_withSession_self : (withSession key f state).2.sessions.get key =
    some (f (sessionOf key state.sessions)).2 := by
  rw [withSession_eq, Table.get_insert, if_pos rfl]

lemma get_withSession_ne {other : String} (hother : other ≠ key) :
    (withSession key f state).2.sessions.get other = state.sessions.get other ∨
      ((withSession key f state).2.sessions.get other = none ∧
        SessionGoes state.sessions key other) := by
  rw [withSession_eq, Table.get_insert, if_neg hother]
  exact Table.get_makeRoom (ensureSessionCapacity_eq state.sessions key) other

lemma length_withSession (state : PoolState) (h : state.sessions.entries.length ≤ maxPoolSessionStates) :
    (withSession key f state).2.sessions.entries.length ≤ maxPoolSessionStates := by
  rw [withSession_eq]
  exact Table.length_makeRoom (ensureSessionCapacity_eq state.sessions key) h

/-- What may drive a session away from its member. -/
inductive Drives (key : String) (current next : Nat) : PoolAction → Prop where
  | unhealthy {health : HealthMask} {access : Nat} (hcurrent : health[current]? = some false)
      (hnext : isHealthy health next = true) :
      Drives key current next (.selectActive key health access)
  | failed {mask : HealthMask} {access : Nat} (hnext : isHealthy mask next = true) :
      Drives key current next (.move key current mask access)

inductive SessionStep (self : PoolExecutor F) (key : String) (action : PoolAction)
    (before after : PoolSessionState) : Prop where
  | stays (hactive : after.active = before.active) (hcount : after.switchCount = before.switchCount)
  | homes (idx : Nat) (hidx : idx < self.members.length) (hbefore : before.active = none)
      (hafter : after.active = some idx) (hcount : after.switchCount = before.switchCount)
  | switches (current next : Nat) (hidx : next < self.members.length)
      (hbefore : before.active = some current) (hafter : after.active = some next)
      (hne : next ≠ current) (hdrives : Drives key current next action)
      (hremain : self.switchesRemain before.switchCount = true)
      (hcount : after.switchCount = before.switchCount + 1)

inductive SessionChange (self : PoolExecutor F) (key : String) (action : PoolAction)
    (before after : Table String PoolSessionState) : Prop where
  | keeps (hget : after.get key = before.get key)
  | goes (current : String) (hgoes : SessionGoes before current key) (hget : after.get key = none)
  | resets (access : Nat) (haction : action = .resetBudget key access)
      (hget : after.get key = (before.get key).map (fun session =>
        { session with lastAccess := access, switchCount := 0 }))
  | steps (session : PoolSessionState) (hget : after.get key = some session)
      (hstep : SessionStep self key action (sessionOf key before) session)

lemma withSession_change {action : PoolAction} {current : String} (state : PoolState)
    (hstep : SessionStep self current action (sessionOf current state.sessions)
      (f (sessionOf current state.sessions)).2) (key : String) :
    SessionChange self key action state.sessions (withSession current f state).2.sessions := by
  by_cases hkey : key = current
  · subst hkey
    exact .steps _ get_withSession_self hstep
  · cases get_withSession_ne hkey with
    | inl hget => exact .keeps hget
    | inr hgone => exact .goes current hgone.2 hgone.1

lemma withStreamAttempt_others (self : PoolExecutor F)
    {g : PoolStreamAttemptState → PoolStreamAttemptState} :
    (self.withStreamAttempt key g state).2.sessions = state.sessions ∧
      (self.withStreamAttempt key g state).2.permanentQuarantine = state.permanentQuarantine := by
  unfold withStreamAttempt
  split <;> exact ⟨rfl, rfl⟩

lemma onStreamAttempt_others {draws : PoolStreamAttemptState → Bool}
    {g : Nat → PoolStreamAttemptState → Bool × Option PoolStreamAttemptState} :
    (onStreamAttempt key draws g state).2.sessions = state.sessions ∧
      (onStreamAttempt key draws g state).2.permanentQuarantine = state.permanentQuarantine := by
  unfold onStreamAttempt
  split <;> exact ⟨rfl, rfl⟩

structure SessionFine (pool : PoolExecutor F) (session : PoolSessionState) : Prop where
  active : ∀ idx, session.active = some idx → idx < pool.members.length
  budget : ∀ max, pool.router.switch.maxSwitchesPerSession = some max → session.switchCount ≤ max

structure SessionsFine (pool : PoolExecutor F) (sessions : Table String PoolSessionState) :
    Prop where
  size : sessions.entries.length ≤ maxPoolSessionStates
  each : ∀ key session, sessions.get key = some session → SessionFine pool session

lemma SessionsFine.sessionOf {sessions : Table String PoolSessionState}
    (h : SessionsFine self sessions) (key : String) :
    SessionFine self (sessionOf key sessions) := by
  unfold PoolExecutor.sessionOf
  cases hget : sessions.get key with
  | none => exact ⟨nofun, fun _ _ => Nat.zero_le _⟩
  | some session => exact h.each key session hget

lemma SessionStep.fine {action : PoolAction} {before after : PoolSessionState}
    (h : SessionStep self key action before after) (hbefore : SessionFine self before) :
    SessionFine self after := by
  cases h with
  | stays hactive hcount =>
    exact ⟨fun idx hidx => hbefore.active idx (hactive.symm.trans hidx),
      fun max hmax => hcount.trans_le (hbefore.budget max hmax)⟩
  | homes home hhome _ hafter hcount =>
    refine ⟨fun idx hidx => ?_, fun max hmax => hcount.trans_le (hbefore.budget max hmax)⟩
    obtain rfl := Option.some.inj (hafter.symm.trans hidx)
    exact hhome
  | switches current next hnext _ hafter _ _ hremain hcount =>
    refine ⟨fun idx hidx => ?_, fun max hmax => ?_⟩
    · obtain rfl := Option.some.inj (hafter.symm.trans hidx)
      exact hnext
    · rw [switchesRemain, hmax] at hremain
      rw [hcount]
      simpa using hremain

lemma newState_fine (self : PoolExecutor F) (breaker : CircuitBreaker) :
    SessionsFine self (self.newState breaker).sessions :=
  ⟨Nat.zero_le _, fun _ _ hget => nomatch hget⟩

variable [LinearOrder F]

lemma selectHome_lt (self : PoolExecutor F) (key : String) (health : HealthMask)
    (sequence : Option Nat) :
    self.router.selectHomeWithSequence key health sequence < self.members.length := by
  rw [self.aligned]
  exact PoolRouter.selectHomeWithSequence_lt (self.aligned ▸ self.nonempty) key health sequence

lemma selectSession_spec (self : PoolExecutor F) (key : String) (health : HealthMask)
    (sequence : Option Nat) (access : Nat) (session : PoolSessionState) :
    (self.selectSession key health sequence access session).2.active =
        some (self.selectSession key health sequence access session).1 ∧
      SessionStep self key (.selectActive key health access) session
        (self.selectSession key health sequence access session).2 := by
  obtain ⟨active, switchCount, lastAccess⟩ := session
  unfold selectSession
  cases active with
  | none => exact ⟨rfl, .homes _ (selectHome_lt self key health sequence) rfl rfl rfl⟩
  | some current =>
    dsimp only
    split
    · next hdue =>
      cases hnext : self.router.selectFailover key current health with
      | none => exact ⟨rfl, .stays rfl rfl⟩
      | some next =>
        obtain ⟨hidx, hne, hhealthy⟩ := PoolRouter.selectFailover_some hnext
        rw [← self.aligned] at hidx
        exact ⟨rfl, .switches current next hidx rfl rfl hne (.unhealthy hdue.1 hhealthy)
          hdue.2 rfl⟩
    · exact ⟨rfl, .stays rfl rfl⟩

lemma moveSession_spec (self : PoolExecutor F) (key : String) (current : Nat) (mask : HealthMask)
    (access : Nat) (session : PoolSessionState) :
    SessionStep self key (.move key current mask access) session
      (self.moveSession key current mask access session).2 := by
  unfold moveSession
  split
  · exact .stays rfl rfl
  · next hactive =>
    rw [not_not] at hactive
    split
    · next hremain =>
      cases hnext : self.router.selectFailover key current mask with
      | none => exact .stays rfl rfl
      | some next =>
        obtain ⟨hidx, hne, hhealthy⟩ := PoolRouter.selectFailover_some hnext
        rw [← self.aligned] at hidx
        exact .switches current next hidx hactive rfl hne (.failed hhealthy) hremain rfl
    · exact .stays rfl rfl

lemma selectActive_eq (self : PoolExecutor F) (key : String) (health : HealthMask) (access : Nat)
    (state : PoolState) : ∃ sequence counter, self.selectActive key health access state =
      withSession key (self.selectSession key health sequence access)
        { state with homeSequence := counter } := by
  unfold selectActive
  split
  · exact ⟨_, _, rfl⟩
  · exact ⟨none, state.homeSequence, rfl⟩

def touchesSessions : PoolAction → Bool
  | .selectActive .. | .move .. | .resetBudget .. => true
  | _ => false

lemma respond_sessions {now : Nat} {action : PoolAction} {given : action.Response T}
    (h : touchesSessions action = false) :
    (self.respond now state action given).2.sessions = state.sessions := by
  cases action with
  | selectActive | move | resetBudget => cases h
  | streamTriedMask key =>
    change (self.streamTriedMask key state).2.sessions = _
    unfold streamTriedMask
    split <;> rfl
  | markStreamActive | markStreamOpenFailure | markStreamFailure =>
    exact (withStreamAttempt_others self).1
  | observeStreamFailure | finishStream | abandonStream => exact onStreamAttempt_others.1
  | _ => rfl

variable {event : Event (PoolAction.Response T)} {state' : PoolState}

lemma acts_state (h : self.Acts event state state') :
    ∃ now, state' = (self.respond now state event.action event.response).2 := by
  obtain ⟨now, hrespond⟩ := h
  exact ⟨now, (congrArg Prod.snd hrespond).symm⟩

lemma acts_session (h : self.Acts event state state') (key : String) :
    SessionChange self key event.action state.sessions state'.sessions := by
  obtain ⟨now, rfl⟩ := acts_state h
  obtain ⟨action, response⟩ := event
  cases htouches : touchesSessions action with
  | false => exact .keeps (congrArg (Table.get · key) (respond_sessions htouches))
  | true =>
    cases action with
    | selectActive current health access =>
      obtain ⟨sequence, counter, heq⟩ := selectActive_eq self current health access state
      change SessionChange self key _ state.sessions
        (self.selectActive current health access state).2.sessions
      rw [heq]
      exact withSession_change { state with homeSequence := counter }
        (selectSession_spec self current health sequence access _).2 key
    | move current origin mask access =>
      exact withSession_change _ (moveSession_spec self current origin mask access _) key
    | resetBudget current access =>
      by_cases hkey : key = current
      · subst hkey
        exact .resets access rfl (Table.get_modify_self ..)
      · exact .keeps (Table.get_modify_of_ne hkey)
    | _ => cases htouches

lemma acts_selectActive {health : HealthMask} {access idx : Nat}
    (h : self.Acts (T := T) ⟨.selectActive key health access, idx⟩ state state') :
    (sessionOf key state'.sessions).active = some idx := by
  obtain ⟨now, hrespond⟩ := h
  obtain ⟨sequence, counter, heq⟩ := selectActive_eq self key health access state
  have hboth := heq.symm.trans hrespond
  have hidx := congrArg Prod.fst hboth
  have hsession := congrArg (fun result => result.2.sessions.get key) hboth
  dsimp only at hsession
  rw [get_withSession_self] at hsession
  rw [sessionOf, ← hsession, Option.getD_some, (selectSession_spec self key health ..).1]
  rw [withSession_eq] at hidx
  exact congrArg some hidx

lemma acts_sessions_size (h : self.Acts event state state')
    (hsize : state.sessions.entries.length ≤ maxPoolSessionStates) :
    state'.sessions.entries.length ≤ maxPoolSessionStates := by
  obtain ⟨now, rfl⟩ := acts_state h
  obtain ⟨action, response⟩ := event
  cases htouches : touchesSessions action with
  | false => rwa [respond_sessions htouches]
  | true =>
    cases action with
    | selectActive current health access =>
      obtain ⟨sequence, counter, heq⟩ := selectActive_eq self current health access state
      change (self.selectActive current health access state).2.sessions.entries.length ≤ _
      rw [heq]
      exact length_withSession { state with homeSequence := counter } hsize
    | move => exact length_withSession _ hsize
    | resetBudget =>
      exact (Table.length_modify ..).trans_le hsize
    | _ => cases htouches

lemma acts_sessions_fine (h : self.Acts event state state')
    (hfine : SessionsFine self state.sessions) : SessionsFine self state'.sessions := by
  refine ⟨acts_sessions_size h hfine.size, fun key session hget => ?_⟩
  cases acts_session h key with
  | keeps heq => exact hfine.each key session (heq.symm.trans hget)
  | goes _ _ hnone =>
    rw [hnone] at hget
    cases hget
  | resets _ _ hmap =>
    obtain ⟨before, hbefore, rfl⟩ := Option.map_eq_some_iff.mp (hmap.symm.trans hget)
    exact ⟨(hfine.each key before hbefore).active, fun _ _ => Nat.zero_le _⟩
  | steps after hafter hstep =>
    obtain rfl := Option.some.inj (hafter.symm.trans hget)
    exact hstep.fine (hfine.sessionOf key)

variable {ι α : Type} [DecidableEq ι]

def activeOf (key : String) (s : PoolSystem ι T α) : Option Nat :=
  (sessionOf key s.shared.sessions).active

/-- The session moves from one member to another. -/
def Switches (key : String) (τ : PoolTransition ι T α) : Prop :=
  activeOf key τ.pre ≠ none ∧ activeOf key τ.post ≠ none ∧ activeOf key τ.pre ≠ activeOf key τ.post

instance (key : String) (τ : PoolTransition ι T α) : Decidable (Switches key τ) :=
  inferInstanceAs (Decidable (_ ∧ _ ∧ _))

def Resets (key : String) (τ : PoolTransition ι T α) : Prop :=
  ∃ access, τ.label.event.action = .resetBudget key access

/-- The session goes to make room for another one. -/
def Evicts (key : String) (τ : PoolTransition ι T α) : Prop :=
  ∃ current, SessionGoes τ.pre.shared.sessions current key ∧
    τ.post.shared.sessions.get key = none

/-- A call of the session starts on the member. -/
def Selects (key : String) (idx : Nat) (τ : PoolTransition ι T α) : Prop :=
  ∃ health access, τ.label.event = ⟨.selectActive key health access, idx⟩

lemma switch_drives {τ : PoolTransition ι T α}
    (hτ : self.Step τ.pre τ.label τ.post) (hswitch : Switches key τ) :
    ∃ current next, activeOf key τ.pre = some current ∧ activeOf key τ.post = some next ∧
      Drives key current next τ.label.event.action := by
  obtain ⟨_, _, hact, _⟩ := hτ
  obtain ⟨hpre, hpost, hne⟩ := hswitch
  cases acts_session hact key with
  | keeps heq => exact absurd (by rw [activeOf, activeOf, sessionOf, sessionOf, heq]) hne
  | goes _ _ hnone =>
    exact absurd (by rw [activeOf, sessionOf, hnone]; rfl) hpost
  | resets _ _ hmap =>
    refine absurd ?_ hne
    rw [activeOf, activeOf, sessionOf, sessionOf, hmap]
    cases τ.pre.shared.sessions.get key <;> rfl
  | steps after hafter hstep =>
    have hactive : activeOf key τ.post = after.active := by rw [activeOf, sessionOf, hafter]; rfl
    cases hstep with
    | stays hsame => exact absurd (hsame.symm.trans hactive.symm) hne
    | homes _ _ hbefore => exact absurd hbefore hpre
    | switches current next _ hbefore hnext _ hdrives =>
      exact ⟨current, next, hbefore, hactive.trans hnext, hdrives⟩

lemma count_switch {τ : PoolTransition ι T α}
    (hτ : self.Step τ.pre τ.label τ.post) (hkept : ¬ Evicts key τ)
    (hreset : ¬ Resets key τ) :
    (sessionOf key τ.pre.shared.sessions).switchCount + (if Switches key τ then 1 else 0) ≤
      (sessionOf key τ.post.shared.sessions).switchCount := by
  obtain ⟨_, _, hact, _⟩ := hτ
  cases acts_session hact key with
  | keeps heq =>
    have hsame : sessionOf key τ.post.shared.sessions = sessionOf key τ.pre.shared.sessions := by
      rw [sessionOf, sessionOf, heq]
    have hstays : ¬ Switches key τ := fun hswitch => hswitch.2.2 (by rw [activeOf, activeOf, hsame])
    rw [if_neg hstays, hsame, Nat.add_zero]
  | goes current hgoes hnone => exact absurd ⟨current, hgoes, hnone⟩ hkept
  | resets access haction => exact absurd ⟨access, haction⟩ hreset
  | steps after hafter hstep =>
    have hpost : sessionOf key τ.post.shared.sessions = after := by rw [sessionOf, hafter]; rfl
    rw [hpost]
    cases hstep with
    | stays hactive hcount =>
      have hstays : ¬ Switches key τ := fun hswitch =>
        hswitch.2.2 (by rw [activeOf, activeOf, hpost, hactive])
      rw [if_neg hstays, hcount, Nat.add_zero]
    | homes _ _ hbefore _ hcount =>
      have hstays : ¬ Switches key τ := fun hswitch => hswitch.1 hbefore
      rw [if_neg hstays, hcount, Nat.add_zero]
    | switches _ _ _ _ _ _ _ _ hcount =>
      rw [hcount]
      split <;> omega

lemma count_switches {s s' : PoolSystem ι T α} {tr : List (PoolTransition ι T α)}
    (hrun : Run (self.Step) s tr s') (hkept : ∀ τ ∈ tr, ¬ Evicts key τ)
    (hreset : ∀ τ ∈ tr, ¬ Resets key τ) :
    (sessionOf key s.shared.sessions).switchCount + tr.countP (Switches key ·) ≤
      (sessionOf key s'.shared.sessions).switchCount := by
  induction hrun with
  | nil => exact Nat.le_refl _
  | @cons s s₁ s' l tr hstep _ ih =>
    rw [List.forall_mem_cons] at hkept hreset
    have hrest := ih hkept.2 hreset.2
    have hfirst : (sessionOf key s.shared.sessions).switchCount +
        (if Switches key (⟨s, l, s₁⟩ : PoolTransition ι T α) then 1 else 0) ≤
          (sessionOf key s₁.shared.sessions).switchCount := count_switch hstep hkept.1 hreset.1
    rw [List.countP_cons]
    simp only [decide_eq_true_eq]
    omega

lemma keeps_active {τ : PoolTransition ι T α}
    (hτ : self.Step τ.pre τ.label τ.post) (hkept : ¬ Evicts key τ)
    (hstays : ¬ Switches key τ) (idx : Nat) (hidx : activeOf key τ.pre = some idx) :
    activeOf key τ.post = some idx := by
  obtain ⟨_, _, hact, _⟩ := hτ
  cases acts_session hact key with
  | keeps heq => rwa [activeOf, sessionOf, heq]
  | goes current hgoes hnone => exact absurd ⟨current, hgoes, hnone⟩ hkept
  | resets _ _ hmap =>
    rw [activeOf, sessionOf] at hidx ⊢
    rw [hmap]
    cases hget : τ.pre.shared.sessions.get key with
    | none =>
      rw [hget] at hidx
      cases hidx
    | some session =>
      rw [hget] at hidx
      exact hidx
  | steps after hafter hstep =>
    have hpost : activeOf key τ.post = after.active := by rw [activeOf, sessionOf, hafter]; rfl
    cases hstep with
    | stays hactive => exact hpost.trans (hactive.trans hidx)
    | homes _ _ hbefore =>
      rw [activeOf, hbefore] at hidx
      cases hidx
    | switches current next _ hbefore hnext hne =>
      have hswitches : Switches key τ := by
        refine ⟨?_, ?_, ?_⟩
        · rw [hidx]
          exact Option.some_ne_none idx
        · rw [hpost, hnext]
          exact Option.some_ne_none next
        · rw [hpost, hnext, activeOf, hbefore]
          exact fun heq => hne (Option.some.inj heq).symm
      exact absurd hswitches hstays

lemma stays_home {s s' : PoolSystem ι T α} {tr : List (PoolTransition ι T α)}
    (hrun : Run (self.Step) s tr s') (hkept : ∀ τ ∈ tr, ¬ Evicts key τ)
    (hstays : ∀ τ ∈ tr, ¬ Switches key τ) :
    ∃ home, (∀ idx, activeOf key s = some idx → idx = home) ∧
      ∀ τ ∈ tr, ∀ idx, Selects key idx τ → idx = home := by
  induction hrun with
  | nil s => exact ⟨(activeOf key s).getD 0, fun idx hidx => by rw [hidx]; rfl, by simp⟩
  | @cons s s₁ s' l tr hstep _ ih =>
    rw [List.forall_mem_cons] at hkept hstays
    obtain ⟨home, hactive, hselects⟩ := ih hkept.2 hstays.2
    have hkeeps : ∀ idx, activeOf key s = some idx → activeOf key s₁ = some idx :=
      keeps_active hstep hkept.1 hstays.1
    refine ⟨home, fun idx hidx => hactive idx (hkeeps idx hidx), ?_⟩
    rw [List.forall_mem_cons]
    refine ⟨fun idx hselect => ?_, hselects⟩
    obtain ⟨health, access, hevent⟩ := hselect
    obtain ⟨_, _, hact, _⟩ := hstep
    dsimp only at hevent
    rw [hevent] at hact
    exact hactive idx (acts_selectActive hact)

/-- As long as a session is neither reset nor makes room for another one, it switches at most as
often as its budget allows, each time away from a member that fails or is not healthy and to one
that is. As long as it does not switch, all its calls start on the same member. -/
theorem session_sticks (self : PoolExecutor F) (breaker : CircuitBreaker)
    (processes : ι → PoolProcess T α) {s s' : PoolSystem ι T α}
    {before tr : List (PoolTransition ι T α)} {key : String}
    (hbefore : Run (self.Step) ⟨self.newState breaker, processes⟩ before s)
    (hrun : Run (self.Step) s tr s') (hkept : ∀ τ ∈ tr, ¬ Evicts key τ) :
    ((∀ τ ∈ tr, ¬ Resets key τ) → ∀ max, self.router.switch.maxSwitchesPerSession = some max →
      tr.countP (Switches key ·) ≤ max) ∧
    (∀ τ ∈ tr, Switches key τ → ∃ current next, activeOf key τ.pre = some current ∧
      activeOf key τ.post = some next ∧ Drives key current next τ.label.event.action) ∧
    ((∀ τ ∈ tr, ¬ Switches key τ) → ∃ home, ∀ τ ∈ tr, ∀ idx, Selects key idx τ → idx = home) := by
  have hfine : SessionsFine self s'.shared.sessions :=
    (System.invariant_shared (I := fun state => SessionsFine self state.sessions)
      (fun _ _ _ _ => acts_sessions_fine) (hbefore.append hrun) (newState_fine self breaker)).1
  refine ⟨fun hreset max hmax => ?_, fun τ hτ => switch_drives (hrun.step_of_mem hτ), fun hstays =>
    ?_⟩
  · have hcount := count_switches hrun hkept hreset
    have hbudget := (hfine.sessionOf key).budget max hmax
    omega
  · obtain ⟨home, -, hselects⟩ := stays_home hrun hkept hstays
    exact ⟨home, hselects⟩

omit [DecidableEq ι] in
lemma not_evicts {τ : PoolTransition ι T α}
    (h : τ.pre.shared.sessions.entries.length < maxPoolSessionStates) : ¬ Evicts key τ := by
  rintro ⟨current, hgoes, -⟩
  exact absurd hgoes.full (Nat.not_le_of_lt h)

theorem session_sticks_failover :
    let tr := (sampleRun (.rateLimited "quota" none) sampleStart true 40).1
    tr.countP (Switches "t" ·) = 1 ∧ ∀ τ ∈ tr, Switches "t" τ → ∃ current next,
      activeOf "t" τ.pre = some current ∧ activeOf "t" τ.post = some next ∧
        Drives "t" current next τ.label.event.action := by
  have hsmall : ((sampleRun (.rateLimited "quota" none) sampleStart true 40).1.all
      (fun τ => τ.pre.shared.sessions.entries.length < maxPoolSessionStates)) = true := rfl
  rw [List.all_eq_true] at hsmall
  exact ⟨rfl, (session_sticks samplePool (.new .default) _ (.nil sampleStart)
    (run_sampleRun (.rateLimited "quota" none) sampleStart true 40)
    (fun τ hτ => not_evicts (of_decide_eq_true (hsmall τ hτ)))).2.1⟩

end Sessions

section StreamAttempts

variable {self : PoolExecutor F} {key : String} {state state' : PoolState}
  {event : Event (PoolAction.Response T)}

def AttemptGoes (attempts : Table String PoolStreamAttemptState) (current victim : String) : Prop :=
  attempts.Goes maxPoolStreamAttempts PoolStreamAttemptState.lastAccess
    (fun key attempt => key ≠ current && !attempt.inFlight) current victim

structure AttemptFine (pool : PoolExecutor F) (attempt : PoolStreamAttemptState) : Prop where
  tried : attempt.tried.length = pool.members.length
  inFlight : attempt.inFlight = true ↔ 0 < attempt.liveStreams

structure AttemptsFine (pool : PoolExecutor F) (attempts : Table String PoolStreamAttemptState) :
    Prop where
  size : attempts.entries.length ≤ maxPoolStreamAttempts
  each : ∀ key attempt, attempts.get key = some attempt → AttemptFine pool attempt

structure AttemptStep (pool : PoolExecutor F) (before after : PoolStreamAttemptState) : Prop where
  fine : AttemptFine pool before → AttemptFine pool after
  tried : ∀ idx : Nat, before.tried[idx]? = some true → after.tried[idx]? = some true

inductive AttemptChange (self : PoolExecutor F) (key : String) (action : PoolAction)
    (before after : Table String PoolStreamAttemptState) : Prop where
  | keeps (hget : after.get key = before.get key)
  | goes (current : String) (hgoes : AttemptGoes before current key) (hget : after.get key = none)
  | ends (attempt : PoolStreamAttemptState) (current : Nat)
      (hbefore : before.get key = some attempt) (hactive : attempt.active = some current)
      (haction : action = .finishStream key current ∨ action = .abandonStream key current)
      (hget : after.get key = none)
  | steps (attempt : PoolStreamAttemptState) (hget : after.get key = some attempt)
      (hstep : AttemptStep self ((before.get key).getD (.new self.members.length)) attempt)

lemma getElem?_set_true {tried : List Bool} {idx i : Nat} (h : tried[i]? = some true) :
    (tried.set idx true)[i]? = some true := by
  rw [List.getElem?_set]
  split
  · next heq =>
    subst heq
    rw [if_pos (List.getElem?_eq_some_iff.mp h).1]
  · exact h

lemma new_fine (self : PoolExecutor F) : AttemptFine self (.new self.members.length) :=
  ⟨List.length_replicate, by simp [PoolStreamAttemptState.new]⟩

lemma AttemptStep.trans {a b c : PoolStreamAttemptState} (h : AttemptStep self a b)
    (h' : AttemptStep self b c) : AttemptStep self a c :=
  ⟨h'.fine ∘ h.fine, fun idx hidx => h'.tried idx (h.tried idx hidx)⟩

lemma accessed_step (attempt : PoolStreamAttemptState) (access : Nat) :
    AttemptStep self attempt { attempt with lastAccess := access } :=
  ⟨fun h => ⟨h.tried, h.inFlight⟩, fun _ h => h⟩

lemma markActive_step (idx : Nat) (attempt : PoolStreamAttemptState) :
    AttemptStep self attempt (attempt.markActive idx) :=
  ⟨fun h => ⟨(List.length_set ..).trans h.tried, by simp [PoolStreamAttemptState.markActive]⟩,
    fun _ => getElem?_set_true⟩

lemma markOpenFailure_step (idx : Nat) (attempt : PoolStreamAttemptState) :
    AttemptStep self attempt (attempt.markOpenFailure idx) :=
  ⟨fun h => ⟨(List.length_set ..).trans h.tried, by simp [PoolStreamAttemptState.markOpenFailure]⟩,
    fun _ => getElem?_set_true⟩

lemma markFailure_step (current : Nat) (attempt : PoolStreamAttemptState) :
    AttemptStep self attempt (attempt.markFailure current) :=
  ⟨fun h => ⟨(List.length_set ..).trans h.tried, by simp [PoolStreamAttemptState.markFailure]⟩,
    fun _ => getElem?_set_true⟩

lemma finishOne_step (attempt : PoolStreamAttemptState) :
    AttemptStep self attempt attempt.finishOne :=
  ⟨fun h => ⟨h.tried, by simp [PoolStreamAttemptState.finishOne]⟩, fun _ h => h⟩

lemma heard_step (streamFinished : Bool) (access : Nat) (attempt : PoolStreamAttemptState) :
    AttemptStep self attempt (attempt.heard streamFinished access) := by
  cases streamFinished with
  | true => exact (accessed_step attempt access).trans (finishOne_step _)
  | false => exact accessed_step attempt access

def EndsOrSteps (self : PoolExecutor F) (current : Nat) (attempt : PoolStreamAttemptState) :
    Option PoolStreamAttemptState → Prop
  | none => attempt.active = some current
  | some kept => AttemptStep self attempt kept

lemma observeFailure_step (self : PoolExecutor F) (current : Nat) (streamFinished : Bool) (access : Nat)
    (attempt : PoolStreamAttemptState) : ∃ kept,
      (attempt.observeFailure current streamFinished access).2 = some kept ∧
        AttemptStep self attempt kept := by
  unfold PoolStreamAttemptState.observeFailure
  dsimp only
  split
  · exact ⟨_, rfl, heard_step streamFinished access attempt⟩
  · refine ⟨_, rfl, (heard_step streamFinished access attempt).trans
      ⟨fun h => ⟨(List.length_set ..).trans h.tried, ?_⟩, fun _ => getElem?_set_true⟩⟩
    simp

lemma finish_step (current access : Nat) (attempt : PoolStreamAttemptState) :
    EndsOrSteps self current attempt (attempt.finish current access).2 := by
  unfold PoolStreamAttemptState.finish
  split
  · exact finishOne_step attempt
  · next hactive => exact not_not.mp hactive

lemma abandon_step (current access : Nat) (attempt : PoolStreamAttemptState) :
    EndsOrSteps self current attempt (attempt.abandon current access).2 := by
  unfold PoolStreamAttemptState.abandon
  split
  · exact finishOne_step attempt
  · next hactive =>
    dsimp only
    split
    · exact (finishOne_step attempt).trans (accessed_step _ access)
    · exact not_not.mp hactive

lemma withStreamAttempt_change {action : PoolAction} {current : String}
    {g : PoolStreamAttemptState → PoolStreamAttemptState}
    (hg : ∀ attempt, AttemptStep self attempt (g attempt)) (key : String) :
    AttemptChange self key action state.streamAttempts
      (self.withStreamAttempt current g state).2.streamAttempts := by
  unfold withStreamAttempt
  cases hroom : ensureStreamAttemptCapacity state.streamAttempts current with
  | none => exact .keeps rfl
  | some room =>
    dsimp only
    by_cases hkey : key = current
    · subst hkey
      refine .steps _ (by rw [Table.get_insert, if_pos rfl]) ?_
      rw [Table.get_makeRoom_self hroom]
      exact (accessed_step _ _).trans (hg _)
    · cases Table.get_makeRoom hroom key with
      | inl hkept => exact .keeps (by rw [Table.get_insert, if_neg hkey, hkept])
      | inr hgone => exact .goes current hgone.2 (by rw [Table.get_insert, if_neg hkey, hgone.1])

lemma size_withStreamAttempt (self : PoolExecutor F) {current : String}
    {g : PoolStreamAttemptState → PoolStreamAttemptState}
    (h : state.streamAttempts.entries.length ≤ maxPoolStreamAttempts) :
    (self.withStreamAttempt current g state).2.streamAttempts.entries.length ≤
      maxPoolStreamAttempts := by
  unfold withStreamAttempt
  cases hroom : ensureStreamAttemptCapacity state.streamAttempts current with
  | none => exact h
  | some room => exact Table.length_makeRoom hroom h

lemma onStreamAttempt_change {action : PoolAction} {current : String} (idx : Nat)
    {draws : PoolStreamAttemptState → Bool}
    {g : Nat → PoolStreamAttemptState → Bool × Option PoolStreamAttemptState}
    (hg : ∀ access attempt, EndsOrSteps self idx attempt (g access attempt).2)
    (haction : (∃ access attempt, (g access attempt).2 = none) →
      action = .finishStream current idx ∨ action = .abandonStream current idx) (key : String) :
    AttemptChange self key action state.streamAttempts
      (onStreamAttempt current draws g state).2.streamAttempts := by
  unfold onStreamAttempt
  cases hbefore : state.streamAttempts.get current with
  | none => exact .keeps rfl
  | some attempt =>
    have hends := hg (state.streamAttemptSequence + 1) attempt
    dsimp only
    cases hkept : (g (state.streamAttemptSequence + 1) attempt).2 with
    | none =>
      dsimp only
      by_cases hkey : key = current
      · subst hkey
        rw [hkept] at hends
        exact .ends attempt idx hbefore hends (haction ⟨_, attempt, hkept⟩)
          (by rw [Table.get_remove, if_pos rfl])
      · exact .keeps (by rw [Table.get_remove, if_neg hkey])
    | some kept =>
      dsimp only
      by_cases hkey : key = current
      · subst hkey
        rw [hkept] at hends
        refine .steps kept (by rw [Table.get_insert, if_pos rfl]) ?_
        rw [hbefore]
        exact hends
      · exact .keeps (by rw [Table.get_insert, if_neg hkey])

lemma size_onStreamAttempt {current : String} {draws : PoolStreamAttemptState → Bool}
    {g : Nat → PoolStreamAttemptState → Bool × Option PoolStreamAttemptState}
    (h : state.streamAttempts.entries.length ≤ maxPoolStreamAttempts) :
    (onStreamAttempt current draws g state).2.streamAttempts.entries.length ≤
      maxPoolStreamAttempts := by
  unfold onStreamAttempt
  cases hbefore : state.streamAttempts.get current with
  | none => exact h
  | some attempt =>
    dsimp only
    cases (g (state.streamAttemptSequence + 1) attempt).2 with
    | none =>
      have hlength := Table.length_remove hbefore
      dsimp only
      omega
    | some kept =>
      dsimp only
      rwa [Table.length_insert, hbefore, Option.isSome_some, if_pos rfl]

lemma streamTriedMask_change {action : PoolAction} (current key : String) :
    AttemptChange self key action state.streamAttempts
      (self.streamTriedMask current state).2.streamAttempts := by
  unfold streamTriedMask
  cases hbefore : state.streamAttempts.get current with
  | none => exact .keeps rfl
  | some attempt =>
    dsimp only
    by_cases hkey : key = current
    · subst hkey
      refine .steps _ (by rw [Table.get_insert, if_pos rfl]) ?_
      rw [hbefore]
      exact accessed_step attempt _
    · exact .keeps (by rw [Table.get_insert, if_neg hkey])

lemma size_streamTriedMask {current : String}
    (h : state.streamAttempts.entries.length ≤ maxPoolStreamAttempts) :
    (self.streamTriedMask current state).2.streamAttempts.entries.length ≤
      maxPoolStreamAttempts := by
  unfold streamTriedMask
  cases hbefore : state.streamAttempts.get current with
  | none => exact h
  | some attempt =>
    dsimp only
    rwa [Table.length_insert, hbefore, Option.isSome_some, if_pos rfl]

def touchesAttempts : PoolAction → Bool
  | .streamTriedMask _ | .markStreamActive .. | .markStreamOpenFailure .. | .markStreamFailure ..
  | .observeStreamFailure .. | .finishStream .. | .abandonStream .. => true
  | _ => false

variable [LinearOrder F]

lemma respond_attempts {now : Nat} {action : PoolAction} {given : action.Response T}
    (h : touchesAttempts action = false) :
    (self.respond now state action given).2.streamAttempts = state.streamAttempts := by
  cases action with
  | streamTriedMask | markStreamActive | markStreamOpenFailure | markStreamFailure
  | observeStreamFailure | finishStream | abandonStream => cases h
  | selectActive key health access =>
    obtain ⟨sequence, counter, heq⟩ := selectActive_eq self key health access state
    change (self.selectActive key health access state).2.streamAttempts = _
    rw [heq]
    rfl
  | _ => rfl

lemma acts_attempt (h : self.Acts event state state') (key : String) :
    AttemptChange self key event.action state.streamAttempts state'.streamAttempts := by
  obtain ⟨now, rfl⟩ := acts_state h
  obtain ⟨action, response⟩ := event
  cases htouches : touchesAttempts action with
  | false => exact .keeps (congrArg (Table.get · key) (respond_attempts htouches))
  | true =>
    cases action with
    | streamTriedMask current => exact streamTriedMask_change current key
    | markStreamActive current idx => exact withStreamAttempt_change (markActive_step idx) key
    | markStreamOpenFailure current idx =>
      exact withStreamAttempt_change (markOpenFailure_step idx) key
    | markStreamFailure current idx => exact withStreamAttempt_change (markFailure_step idx) key
    | observeStreamFailure current idx finished =>
      refine onStreamAttempt_change idx (fun access attempt => ?_) (fun hnone => ?_) key
      · obtain ⟨kept, hkept, hstep⟩ := observeFailure_step self idx finished access attempt
        rw [hkept]
        exact hstep
      · obtain ⟨access, attempt, hnone⟩ := hnone
        obtain ⟨kept, hkept, -⟩ := observeFailure_step self idx finished access attempt
        rw [hkept] at hnone
        cases hnone
    | finishStream current idx =>
      exact onStreamAttempt_change idx (finish_step idx) (fun _ => .inl rfl) key
    | abandonStream current idx =>
      exact onStreamAttempt_change idx (abandon_step idx) (fun _ => .inr rfl) key
    | _ => cases htouches

lemma acts_attempts_size (h : self.Acts event state state')
    (hsize : state.streamAttempts.entries.length ≤ maxPoolStreamAttempts) :
    state'.streamAttempts.entries.length ≤ maxPoolStreamAttempts := by
  obtain ⟨now, rfl⟩ := acts_state h
  obtain ⟨action, response⟩ := event
  cases htouches : touchesAttempts action with
  | false => rwa [respond_attempts htouches]
  | true =>
    cases action with
    | streamTriedMask => exact size_streamTriedMask hsize
    | markStreamActive | markStreamOpenFailure | markStreamFailure =>
      exact size_withStreamAttempt self hsize
    | observeStreamFailure | finishStream | abandonStream => exact size_onStreamAttempt hsize
    | _ => cases htouches

lemma acts_attempts_fine (h : self.Acts event state state')
    (hfine : AttemptsFine self state.streamAttempts) : AttemptsFine self state'.streamAttempts := by
  refine ⟨acts_attempts_size h hfine.size, fun key attempt hget => ?_⟩
  cases acts_attempt h key with
  | keeps heq => exact hfine.each key attempt (heq.symm.trans hget)
  | goes _ _ hnone | ends _ _ _ _ _ hnone =>
    rw [hnone] at hget
    cases hget
  | steps after hafter hstep =>
    obtain rfl := Option.some.inj (hafter.symm.trans hget)
    refine hstep.fine ?_
    cases hbefore : state.streamAttempts.get key with
    | none => exact new_fine self
    | some before => exact hfine.each key before hbefore

variable {ι α : Type} [DecidableEq ι]

/-- What the pool keeps of an attempt in a step. -/
inductive KeepsAttempt (key : String) (attempt : PoolStreamAttemptState)
    (τ : PoolTransition ι T α) : Prop where
  | stays (attempt' : PoolStreamAttemptState)
      (hget : τ.post.shared.streamAttempts.get key = some attempt')
      (htried : ∀ idx : Nat, attempt.tried[idx]? = some true → attempt'.tried[idx]? = some true)
  | ends (current : Nat) (hactive : attempt.active = some current)
      (haction : τ.label.event.action = .finishStream key current ∨
        τ.label.event.action = .abandonStream key current)
  | goes (current : String) (hidle : attempt.liveStreams = 0)
      (hgoes : AttemptGoes τ.pre.shared.streamAttempts current key)

/-- The tables of the pool do not outgrow their limits. An attempt keeps what it has tried until a
stream of its own member ends it, and while it has live streams it makes room for no other. -/
theorem attempts_kept (self : PoolExecutor F) (breaker : CircuitBreaker)
    (processes : ι → PoolProcess T α) {s' : PoolSystem ι T α} {tr : List (PoolTransition ι T α)}
    (hrun : Run (self.Step) ⟨self.newState breaker, processes⟩ tr s') :
    s'.shared.sessions.entries.length ≤ maxPoolSessionStates ∧
    s'.shared.streamAttempts.entries.length ≤ maxPoolStreamAttempts ∧
    ∀ τ ∈ tr, ∀ key attempt, τ.pre.shared.streamAttempts.get key = some attempt →
      KeepsAttempt key attempt τ := by
  have hfine := System.invariant_shared
    (I := fun state => SessionsFine self state.sessions ∧ AttemptsFine self state.streamAttempts)
    (fun _ _ _ _ h hpre => ⟨acts_sessions_fine h hpre.1, acts_attempts_fine h hpre.2⟩) hrun
    ⟨newState_fine self breaker, Nat.zero_le _, fun _ _ hget => nomatch hget⟩
  refine ⟨hfine.1.1.size, hfine.1.2.size, fun τ hτ key attempt hget => ?_⟩
  have hattempt := (hfine.2 τ hτ).1.2.each key attempt hget
  cases acts_attempt (System.acts_of_mem hrun hτ) key with
  | keeps heq => exact .stays attempt (heq.trans hget) (fun _ h => h)
  | ends before current hbefore hactive haction =>
    obtain rfl := Option.some.inj (hbefore.symm.trans hget)
    exact .ends current hactive haction
  | goes current hgoes =>
    refine .goes current ?_ hgoes
    obtain ⟨victim, hvictim, hidle, -⟩ := hgoes.least
    obtain rfl := Option.some.inj (hvictim.symm.trans hget)
    have hflight : victim.inFlight = false := by
      simp only [Bool.and_eq_true, Bool.not_eq_true'] at hidle
      exact hidle.2
    by_contra hlive
    rw [(hattempt.inFlight).mpr (Nat.pos_of_ne_zero hlive)] at hflight
    cases hflight
  | steps after hafter hstep =>
    rw [hget] at hstep
    exact .stays after hafter hstep.tried

theorem attempts_kept_dropped :
    let (tr, last) := sampleRun (.rateLimited "quota" none) sampleStart false 40
    last.shared.streamAttempts.entries.length ≤ maxPoolStreamAttempts ∧
      ∀ τ ∈ tr, ∀ key attempt, τ.pre.shared.streamAttempts.get key = some attempt →
        KeepsAttempt key attempt τ :=
  (attempts_kept samplePool (.new .default) _
    (run_sampleRun (.rateLimited "quota" none) sampleStart false 40)).2

end StreamAttempts

end PoolExecutor

end Awaken.Engine
