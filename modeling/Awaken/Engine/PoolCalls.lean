import Awaken.Engine.PoolSessions

namespace Awaken.Engine

open Awaken.Lib

namespace PoolExecutor

variable {F T : Type}

section Calls

variable [LinearOrder F] {self : PoolExecutor F} {key : String} {state state' : PoolState}
  {event : Event (PoolAction.Response T)}

structure StateFine (pool : PoolExecutor F) (state : PoolState) : Prop where
  sessions : SessionsFine pool state.sessions
  streamAttempts : AttemptsFine pool state.streamAttempts

structure Allowed (pool : PoolExecutor F) (event : Event (PoolAction.Response T)) : Prop where
  selectActive : ∀ key health access (idx : Nat),
    event = ⟨.selectActive key health access, idx⟩ → idx < pool.members.length
  move : ∀ key current mask access (next : Nat),
    event = ⟨.move key current mask access, some next⟩ →
      next < pool.members.length ∧ isHealthy mask next = true
  streamTriedMask : ∀ key (tried : List Bool),
    event = ⟨.streamTriedMask key, tried⟩ → tried.length = pool.members.length

lemma moveSession_some {current access next : Nat} {mask : HealthMask} {session : PoolSessionState}
    (hfine : SessionFine self session)
    (h : (self.moveSession key current mask access session).1 = some next) :
    next < self.members.length ∧ isHealthy mask next = true := by
  unfold moveSession at h
  split at h
  · obtain ⟨hactive, hmask⟩ := Option.filter_eq_some_iff.mp h
    refine ⟨hfine.active next hactive, ?_⟩
    unfold isHealthy
    cases hget : mask[next]? with
    | none => rfl
    | some available =>
      rw [hget] at hmask
      exact hmask
  · split at h
    · cases hnext : self.router.selectFailover key current mask with
      | none =>
        rw [hnext] at h
        cases h
      | some other =>
        rw [hnext] at h
        obtain rfl := Option.some.inj h
        obtain ⟨hidx, -, hhealthy⟩ := PoolRouter.selectFailover_some hnext
        exact ⟨self.aligned ▸ hidx, hhealthy⟩
    · cases h

lemma acts_allowed (h : self.Acts event state state') (hfine : StateFine self state) :
    Allowed self event ∧ StateFine self state' := by
  have hsessions := acts_sessions_fine h hfine.sessions
  have hattempts := acts_attempts_fine h hfine.streamAttempts
  refine ⟨⟨?_, ?_, ?_⟩, hsessions, hattempts⟩
  · rintro key health access idx rfl
    exact (hsessions.sessionOf key).active idx (acts_selectActive h)
  · rintro key current mask access next rfl
    obtain ⟨now, hrespond⟩ := h
    have hnext : (withSession key (self.moveSession key current mask access) state).1 = some next :=
      congrArg Prod.fst hrespond
    rw [withSession_eq] at hnext
    exact moveSession_some (hfine.sessions.sessionOf key) hnext
  · rintro key tried rfl
    obtain ⟨now, hrespond⟩ := h
    have htried : (self.streamTriedMask key state).1 = tried := congrArg Prod.fst hrespond
    rw [← htried, streamTriedMask]
    cases hget : state.streamAttempts.get key with
    | none => exact List.length_replicate
    | some attempt => exact (hfine.streamAttempts.each key attempt hget).tried

end Calls

end PoolExecutor

namespace PoolExecutor

variable {F T : Type}

section Calls

variable {self : PoolExecutor F} {key : String} {α β γ : Type}

def sent : PoolAction → Option (Nat × InferenceRequest)
  | .execute idx request | .executeStream idx request => some (idx, request)
  | _ => none

def sentTo (past : List (Event (PoolAction.Response T))) : List Nat :=
  past.filterMap (fun event => (sent event.action).map Prod.fst)

def passedCheck (self : PoolExecutor F) (idx : Nat) : List (Event (PoolAction.Response T)) :=
  ⟨.checkQuarantine idx, false⟩ ::
    if self.router.switch.onCircuitOpen then [⟨.check idx, .ok ()⟩] else []

structure SentOnce (pool : PoolExecutor F) (past : List (Event (PoolAction.Response T)))
    (idx : Nat) (request : InferenceRequest) : Prop where
  member : ∃ member, pool.members[idx]? = some member ∧
    request.upstreamModel = member.upstreamModel
  first : idx ∉ sentTo past
  checked : pool.passedCheck idx <:+ past

def recorded : PoolAction → Option Nat
  | .quarantine idx | .recordSuccess idx => some idx
  | .recordFailure idx | .recordAbandonedProbe idx => some idx
  | _ => none

def Known (past : List (Event (PoolAction.Response T))) (idx : Nat) : Prop :=
  idx ∈ sentTo past ∨ ∃ key, (⟨.streamMember key, some idx⟩ : Event _) ∈ past

structure Honest (pool : PoolExecutor F) (past : List (Event (PoolAction.Response T)))
    (event : Event (PoolAction.Response T)) : Prop where
  sends : ∀ idx request, sent event.action = some (idx, request) → SentOnce pool past idx request
  records : ∀ idx, recorded event.action = some idx → Known past idx

def Follows (self : PoolExecutor F) (post : List (Event (PoolAction.Response T)) → α → Prop)
    (past : List (Event (PoolAction.Response T))) (p : PoolProcess T α) : Prop :=
  p.Guarded (Allowed self) (Honest self) post past

structure Extends (past past' : List (Event (PoolAction.Response T))) : Prop where
  isPrefix : past <+: past'
  sentTo : sentTo past' = sentTo past

def Quiet (self : PoolExecutor F) (M : Nat → Prop) (Q : α → Prop) (p : PoolProcess T α) : Prop :=
  ∀ past, (∀ idx, M idx → Known past idx) →
    Follows self (fun past' a => Extends past past' ∧ Q a) past p

variable {M : Nat → Prop} {Q : α → Prop} {Q' : β → Prop} {p : PoolProcess T α}
  {f : α → PoolProcess T β}
  {past past' past'' : List (Event (PoolAction.Response T))}
  {post : List (Event (PoolAction.Response T)) → β → Prop}

lemma Extends.refl (past : List (Event (PoolAction.Response T))) : Extends past past :=
  ⟨List.prefix_rfl, rfl⟩

lemma Extends.trans (h : Extends past past') (h' : Extends past' past'') : Extends past past'' :=
  ⟨h.isPrefix.trans h'.isPrefix, h'.sentTo.trans h.sentTo⟩

lemma extends_append {event : Event (PoolAction.Response T)} (h : sent event.action = none) :
    Extends past (past ++ [event]) := by
  refine ⟨List.prefix_append _ _, ?_⟩
  rw [PoolExecutor.sentTo, List.filterMap_append, List.filterMap_cons_none (by rw [h]; rfl),
    List.filterMap_nil, List.append_nil]
  rfl

lemma Known.mono {idx : Nat} (h : Known past idx) (hpast : Extends past past') :
    Known past' idx := by
  cases h with
  | inl hsent => exact .inl (hpast.sentTo ▸ hsent)
  | inr hlearnt =>
    obtain ⟨key, hmem⟩ := hlearnt
    exact .inr ⟨key, hpast.isPrefix.subset hmem⟩

lemma honest_of_none {event : Event (PoolAction.Response T)} (hsent : sent event.action = none)
    (hrecords : ∀ idx, recorded event.action = some idx → Known past idx) :
    Honest self past event :=
  ⟨fun _ _ hsome => absurd (hsent.symm.trans hsome) (Option.some_ne_none _).symm, hrecords⟩

lemma quiet_pure {a : α} (h : Q a) : Quiet self M Q (pure a : PoolProcess T α) :=
  fun past _ => Process.guarded_pure ⟨.refl past, h⟩

lemma quiet_perform {action : PoolAction} {Q : action.Response T → Prop}
    (hsent : sent action = none) (hrecords : ∀ idx, recorded action = some idx → M idx)
    (h : ∀ r, Allowed self ⟨action, r⟩ → Q r) : Quiet self M Q (perform action) := by
  intro past hknown
  exact Process.guarded_perform (fun r hr =>
    ⟨honest_of_none hsent (fun idx hidx => hknown idx (hrecords idx hidx)),
      extends_append hsent, h r hr⟩)

lemma quiet_silent {action : PoolAction} {Q : action.Response T → Prop} (hsent : sent action = none)
    (hrecorded : recorded action = none) (h : ∀ r, Allowed self ⟨action, r⟩ → Q r) :
    Quiet self M Q (perform action) :=
  quiet_perform hsent
    (fun _ hidx => absurd (hrecorded.symm.trans hidx) (Option.some_ne_none _).symm) h

lemma quiet_any {action : PoolAction} (hsent : sent action = none)
    (hrecorded : recorded action = none) :
    Quiet self M (fun _ : action.Response T => True) (perform action) :=
  quiet_silent hsent hrecorded (fun _ _ => trivial)

lemma Quiet.follows (h : Quiet self M Q p) (hknown : ∀ idx, M idx → Known past idx)
    (hf : ∀ past' a, Extends past past' → Q a → Follows self post past' (f a)) :
    Follows self post past (p >>= f) :=
  Process.Guarded.bind (h past hknown) (fun past' a hpost => hf past' a hpost.1 hpost.2)

lemma Quiet.silently (h : Quiet self (fun _ => False) Q p)
    (hf : ∀ past' a, Extends past past' → Q a → Follows self post past' (f a)) :
    Follows self post past (p >>= f) := h.follows nofun hf

lemma Quiet.bind (h : Quiet self M Q p) (hf : ∀ a, Q a → Quiet self M Q' (f a)) :
    Quiet self M Q' (p >>= f) := by
  intro past hknown
  refine h.follows hknown (fun past' a hpast ha => ?_)
  exact Process.Guarded.mono (hf a ha past' (fun idx hidx => (hknown idx hidx).mono hpast))
    (fun _ _ hpost => ⟨hpast.trans hpost.1, hpost.2⟩)

lemma quiet_ite {c : Prop} [Decidable c] {p q : PoolProcess T α} (hp : c → Quiet self M Q p)
    (hq : ¬ c → Quiet self M Q q) : Quiet self M Q (if c then p else q) := by
  by_cases hc : c
  · rw [if_pos hc]
    exact hp hc
  · rw [if_neg hc]
    exact hq hc

lemma quiet_availability {Q : List Bool → Prop} {quarantined : List Bool} (idxs : List Nat)
    (hQ : ∀ mask : List Bool, mask.length = idxs.length → Q mask) :
    Quiet self M Q (self.availability quarantined idxs : PoolProcess T HealthMask) := by
  induction idxs generalizing Q with
  | nil => exact quiet_pure (hQ [] rfl)
  | cons idx idxs ih =>
    unfold availability
    have hfirst : Quiet self M (fun _ => True)
        (self.memberAvailable quarantined idx : PoolProcess T Bool) := by
      refine quiet_ite (fun _ => quiet_pure trivial) (fun _ => ?_)
      exact quiet_ite (fun _ => quiet_any rfl rfl)
        (fun _ => quiet_pure trivial)
    refine hfirst.bind (fun available _ => ?_)
    refine Quiet.bind (ih (Q := fun mask => mask.length = idxs.length) (fun _ h => h))
      (fun mask hmask => ?_)
    exact quiet_pure (hQ _ (congrArg Nat.succ hmask))

lemma quiet_healthMask : Quiet self M (fun mask => mask.length = self.members.length)
    (self.healthMask : PoolProcess T HealthMask) := by
  unfold healthMask
  refine (quiet_any rfl rfl).bind (fun quarantined _ => ?_)
  exact quiet_availability _ (fun mask hmask => hmask.trans List.length_range)

lemma quiet_selectActiveMember : Quiet self M (fun idx => idx < self.members.length)
    (self.selectActiveMember key : PoolProcess T Nat) := by
  unfold selectActiveMember
  refine quiet_healthMask.bind (fun health _ => ?_)
  refine (quiet_any rfl rfl).bind (fun access _ => ?_)
  exact quiet_silent rfl rfl (fun idx hallowed => hallowed.selectActive key health access idx rfl)

def Untried (self : PoolExecutor F) (tried : List Bool) (next : Option Nat) : Prop :=
  ∀ idx, next = some idx → idx < self.members.length ∧ tried[idx]? ≠ some true

lemma quiet_nextOnUnavailable {current : Nat} {tried : List Bool} :
    Quiet self M (Untried self tried)
      (self.nextOnUnavailable key current tried : PoolProcess T (Option Nat)) := by
  unfold nextOnUnavailable
  refine quiet_healthMask.bind (fun mask hmask => ?_)
  refine (quiet_any rfl rfl).bind (fun access _ => ?_)
  refine quiet_silent rfl rfl (fun next hallowed idx hidx => ?_)
  subst hidx
  obtain ⟨hlt, hhealthy⟩ := hallowed.move key current _ access idx rfl
  refine ⟨hlt, fun htried => ?_⟩
  have hbound : idx < mask.length := hmask.symm ▸ hlt
  have hget : mask[idx]? = some mask[idx] := List.getElem?_eq_getElem hbound
  rw [isHealthy, untried, List.getElem?_mapIdx, hget, htried] at hhealthy
  simp at hhealthy

lemma quiet_nextOnError {current : Nat} {err : InferenceExecutionError} {tried : List Bool} :
    Quiet self M (Untried self tried)
      (self.nextOnError key current err tried : PoolProcess T (Option Nat)) := by
  unfold nextOnError
  split
  · exact quiet_nextOnUnavailable
  · exact quiet_pure (fun _ hnone => nomatch hnone)

lemma quiet_noMemberAvailableError {fallback : InferenceExecutionError} {tried : List Bool} :
    Quiet self M (fun _ => True)
      (self.noMemberAvailableError fallback tried : PoolProcess T InferenceExecutionError) := by
  unfold noMemberAvailableError
  exact quiet_healthMask.bind (fun _ _ => quiet_pure trivial)

lemma quiet_errorDriven {fallback : InferenceExecutionError} {tried : List Bool} :
    Quiet self M (fun _ => True) (self.errorDrivenNoMemberAvailableError fallback tried :
      PoolProcess T InferenceExecutionError) := by
  unfold errorDrivenNoMemberAvailableError
  split
  · exact quiet_pure trivial
  · exact quiet_noMemberAvailableError

lemma quiet_resetSwitchBudget :
    Quiet self M (fun _ => True) (resetSwitchBudget key : PoolProcess T Unit) := by
  unfold resetSwitchBudget
  refine (quiet_any rfl rfl).bind (fun access _ => ?_)
  exact quiet_any rfl rfl

lemma quiet_recordFailure {idx : Nat} {err : InferenceExecutionError} (hidx : M idx) :
    Quiet self M (fun _ => True) (self.recordFailure idx err : PoolProcess T Unit) := by
  have hmember : ∀ i, some idx = some i → M i := fun i hi => Option.some.inj hi ▸ hidx
  have hcount : Quiet self M (fun _ => True)
      (if err.countsTowardCircuitBreaker then perform (.recordFailure idx) else pure () :
        PoolProcess T Unit) :=
    quiet_ite (fun _ => quiet_perform rfl hmember (fun _ _ => trivial))
      (fun _ => quiet_pure trivial)
  refine quiet_ite (fun _ => ?_) (fun _ => hcount)
  have hquarantine : Quiet self M (fun _ => True)
      (perform (.quarantine idx) : PoolProcess T Unit) :=
    quiet_perform rfl hmember (fun _ _ => trivial)
  exact hquarantine.bind (fun _ _ => hcount)

lemma follows_checkMember {idx : Nat} : Follows self
    (fun past' r => Extends past past' ∧ (r = .ok () → self.passedCheck idx <:+ past')) past
    (self.checkMember idx : PoolProcess T (Except InferenceExecutionError Unit)) := by
  intro quarantined _
  have hquarantine : Extends past (past ++ [⟨.checkQuarantine idx, quarantined⟩]) :=
    extends_append rfl
  refine ⟨honest_of_none rfl nofun, ?_⟩
  cases quarantined with
  | true => exact ⟨hquarantine, nofun⟩
  | false =>
    cases hopen : self.router.switch.onCircuitOpen with
    | false =>
      refine ⟨hquarantine, fun _ => ?_⟩
      rw [passedCheck, hopen]
      exact List.suffix_append ..
    | true =>
      intro admitted _
      refine ⟨honest_of_none rfl nofun, hquarantine.trans (extends_append rfl), fun hok => ?_⟩
      cases admitted with
      | error text => cases hok
      | ok _ =>
        rw [passedCheck, hopen, List.append_assoc]
        exact List.suffix_append ..

/-- What the loop needs of an attempt: where it sends, that it sends nothing else, and that it does
not forget what was tried. -/
structure Fair (pool : PoolExecutor F) (attempt : Attempt T β γ)
    (heard : List (Event (PoolAction.Response T)) → Nat → β → Prop)
    (post : List (Event (PoolAction.Response T)) → γ → Prop) : Prop where
  send : ∀ past idx, idx < pool.members.length → idx ∉ sentTo past →
    pool.passedCheck idx <:+ past → Follows pool (fun past' r => past <+: past' ∧
      sentTo past' = sentTo past ++ [idx] ∧ ∀ reply, r = .ok reply → heard past' idx reply) past
        (attempt.send idx)
  succeed : ∀ past idx reply, heard past idx reply →
    Follows pool post past (attempt.succeed idx reply)
  fail : ∀ idx, Quiet pool (· = idx) (fun _ => True) (attempt.fail idx)
  retried : ∀ tried, Quiet pool (fun _ => False) (fun tried' => tried'.length = tried.length ∧
    ∀ i : Nat, tried[i]? = some true → tried'[i]? = some true) (attempt.retried tried)

lemma count_false_le {tried tried' : List Bool} (hlength : tried'.length = tried.length)
    (h : ∀ i : Nat, tried[i]? = some true → tried'[i]? = some true) :
    tried'.count false ≤ tried.count false := by
  induction tried generalizing tried' with
  | nil => rw [List.length_eq_zero_iff.mp hlength]
  | cons attempted tried ih =>
    obtain ⟨attempted', tried', rfl⟩ := List.exists_cons_of_length_eq_add_one hlength
    have hrest := ih (Nat.succ.inj hlength) (fun i hi => h (i + 1) hi)
    have hfirst := h 0
    cases attempted <;> cases attempted' <;> simp at hfirst ⊢ <;> omega

lemma count_false_set {tried : List Bool} {idx : Nat} (hidx : idx < tried.length)
    (huntried : tried[idx]? ≠ some true) :
    (tried.set idx true).count false + 1 = tried.count false := by
  have hget : tried[idx] = false := by
    rw [List.getElem?_eq_getElem hidx] at huntried
    simpa using huntried
  have hpos : 0 < tried.count false := List.count_pos_iff.mpr (hget ▸ List.getElem_mem hidx)
  rw [List.count_set hidx, hget]
  simp
  omega

lemma set_true_mono {tried tried' : List Bool} {idx i : Nat}
    (h : ∀ i : Nat, tried[i]? = some true → tried'[i]? = some true)
    (hlength : tried'.length = tried.length) (hi : (tried.set idx true)[i]? = some true) :
    (tried'.set idx true)[i]? = some true := by
  rw [List.getElem?_set] at hi ⊢
  rw [hlength]
  by_cases heq : idx = i
  · rwa [if_pos heq] at hi ⊢
  · rw [if_neg heq] at hi ⊢
    exact h i hi

lemma guarded_attemptMembers {attempt : Attempt T β γ}
    {heard : List (Event (PoolAction.Response T)) → Nat → β → Prop}
    {post : List (Event (PoolAction.Response T)) → γ → Prop} (hfair : Fair self attempt heard post)
    (passes : Nat) {idx : Nat} {tried : List Bool} {past : List (Event (PoolAction.Response T))}
    (hidx : idx < self.members.length) (hlength : tried.length = self.members.length)
    (hsent : ∀ i ∈ sentTo past, tried[i]? = some true) (hfirst : idx ∉ sentTo past)
    (hpasses : (tried.set idx true).count false < passes) :
    Follows self (fun past' r => ∃ result, r = some result ∧
      ∀ c, result = .ok c → post past' c) past (self.attemptMembers key attempt passes idx tried) := by
  induction passes generalizing idx tried past with
  | zero => exact absurd hpasses (Nat.not_lt_zero _)
  | succ passes ih =>
    have hlength' : (tried.set idx true).length = self.members.length :=
      (List.length_set ..).trans hlength
    have hself : (tried.set idx true)[idx]? = some true := by
      rw [List.getElem?_set, if_pos rfl, if_pos (hlength.symm ▸ hidx)]
    have hsent' : ∀ i ∈ sentTo past, (tried.set idx true)[i]? = some true :=
      fun i hi => getElem?_set_true (hsent i hi)
    unfold attemptMembers
    dsimp only
    generalize tried.set idx true = tried₁ at hlength' hself hsent' hpasses ⊢
    refine Process.Guarded.bind follows_checkMember (fun past₁ checked hchecked => ?_)
    obtain ⟨hextends, hok⟩ := hchecked
    rw [← hextends.sentTo] at hsent' hfirst
    cases checked with
    | error err =>
      refine quiet_nextOnUnavailable.silently (fun past₂ next hpast₂ hnext => ?_)
      rw [← hpast₂.sentTo] at hsent'
      cases next with
      | none =>
        refine quiet_noMemberAvailableError.silently (fun past₃ final _ _ => ?_)
        exact ⟨.error final, rfl, fun c hc => nomatch hc⟩
      | some next =>
        obtain ⟨hlt, huntried⟩ := hnext next rfl
        refine ih hlt hlength' hsent' (fun hmem => huntried (hsent' next hmem)) ?_
        have hcount := count_false_set (hlength'.symm ▸ hlt) huntried
        omega
    | ok _ =>
      refine Process.Guarded.bind (hfair.send past₁ idx hidx hfirst (hok rfl))
        (fun past₂ reply hreply => ?_)
      obtain ⟨-, hsent₂, hheard⟩ := hreply
      cases reply with
      | ok reply =>
        refine Process.Guarded.bind (hfair.succeed past₂ idx reply (hheard reply rfl))
          (fun past₃ c hc => ?_)
        refine ⟨.ok c, rfl, fun c' hc' => ?_⟩
        obtain rfl := Except.ok.inj hc'
        exact hc
      | error err =>
        have hall : ∀ i ∈ sentTo past₂, tried₁[i]? = some true := by
          intro i hi
          rw [hsent₂, List.mem_append, List.mem_singleton] at hi
          cases hi with
          | inl hold => exact hsent' i hold
          | inr hnew => exact hnew ▸ hself
        have hknown : ∀ i, i = idx → Known past₂ i := by
          rintro i rfl
          rw [Known, hsent₂]
          exact .inl (List.mem_append_right _ List.mem_cons_self)
        refine (quiet_recordFailure (M := (· = idx)) rfl).follows hknown
          (fun past₃ _ hpast₃ _ => ?_)
        refine (hfair.fail idx).follows (fun i hi => (hknown i hi).mono hpast₃)
          (fun past₄ _ hpast₄ _ => ?_)
        refine quiet_nextOnError.silently (fun past₅ next hpast₅ hnext => ?_)
        rw [← hpast₃.sentTo, ← hpast₄.sentTo, ← hpast₅.sentTo] at hall
        cases next with
        | none =>
          dsimp only
          by_cases hswitch : self.router.shouldSwitchOnError err = true
          · rw [if_pos hswitch]
            refine quiet_errorDriven.silently (fun past₆ final _ _ => ?_)
            exact ⟨.error final, rfl, fun c hc => nomatch hc⟩
          · rw [if_neg hswitch]
            exact ⟨.error err, rfl, fun c hc => nomatch hc⟩
        | some next =>
          obtain ⟨hlt, huntried⟩ := hnext next rfl
          refine (hfair.retried tried₁).silently (fun past₆ tried₂ hpast₆ hretried => ?_)
          obtain ⟨hlength₂, hkept⟩ := hretried
          have hnew : next ∉ sentTo past₆ := by
            rw [hpast₆.sentTo]
            exact fun hmem => huntried (hall next hmem)
          rw [← hpast₆.sentTo] at hall
          refine ih hlt (hlength₂.trans hlength') (fun i hi => hkept i (hall i hi)) hnew ?_
          have hcount := count_false_set (hlength'.symm ▸ hlt) huntried
          have hle : (tried₂.set next true).count false ≤ (tried₁.set next true).count false :=
            count_false_le (by rw [List.length_set, List.length_set, hlength₂])
              (fun i hi => set_true_mono hkept hlength₂ hi)
          omega

lemma sentTo_append {event : Event (PoolAction.Response T)} {idx : Nat} {request : InferenceRequest}
    (h : sent event.action = some (idx, request)) :
    sentTo (past ++ [event]) = sentTo past ++ [idx] := by
  rw [sentTo, List.filterMap_append, List.filterMap_cons_some (by rw [h]; rfl), List.filterMap_nil]
  rfl

lemma sentOnce_requestFor {idx : Nat} (request : InferenceRequest)
    (hidx : idx < self.members.length) (hfirst : idx ∉ sentTo past)
    (hchecked : self.passedCheck idx <:+ past) :
    SentOnce self past idx (self.requestFor idx request) := by
  have hget : self.members[idx]? = some self.members[idx] := List.getElem?_eq_getElem hidx
  refine ⟨⟨self.members[idx], hget, ?_⟩, hfirst, hchecked⟩
  rw [requestFor, hget]
  rfl

lemma follows_send {action : PoolAction} {idx : Nat} {request : InferenceRequest}
    {post : List (Event (PoolAction.Response T)) → action.Response T → Prop}
    (hsent : sent action = some (idx, request)) (hrecorded : recorded action = none)
    (honce : SentOnce self past idx request) (hpost : ∀ r, post (past ++ [⟨action, r⟩]) r) :
    Follows self post past (perform action) := by
  refine Process.guarded_perform (fun r _ =>
    ⟨⟨fun i other hsome => ?_, fun i hsome => ?_⟩, hpost r⟩)
  · obtain ⟨rfl, rfl⟩ := Prod.mk.inj (Option.some.inj (hsent.symm.trans hsome))
    exact honce
  · exact absurd (hrecorded.symm.trans hsome) (Option.some_ne_none _).symm

def Replied (past : List (Event (PoolAction.Response T))) (idx : Nat) (reply : T) : Prop :=
  idx ∈ sentTo past ∧
    ∃ request, (⟨.execute idx request, .ok reply⟩ : Event (PoolAction.Response T)) ∈ past

lemma fair_executeAttempt (request : InferenceRequest) :
    Fair self (self.executeAttempt key request : Attempt T T T) Replied
      (fun past reply => ∃ idx, Replied past idx reply) where
  send past idx hidx hfirst hchecked := by
    refine follows_send rfl rfl (sentOnce_requestFor request hidx hfirst hchecked) (fun r => ?_)
    refine ⟨List.prefix_append .., sentTo_append rfl, fun reply hreply => ⟨?_, ?_⟩⟩
    · rw [sentTo_append rfl]
      exact List.mem_append_right _ List.mem_cons_self
    · subst hreply
      exact ⟨_, List.mem_append_right _ List.mem_cons_self⟩
  succeed past idx reply hreplied := by
    have hsuccess : Quiet self (· = idx) (fun _ => True)
        (perform (.recordSuccess idx) : PoolProcess T Unit) :=
      quiet_perform rfl (fun _ hi => (Option.some.inj hi).symm) (fun _ _ => trivial)
    refine hsuccess.follows (fun i hi => .inl (hi ▸ hreplied.1)) (fun past₁ _ hpast₁ _ => ?_)
    refine quiet_resetSwitchBudget.silently (fun past₂ _ hpast₂ _ => ?_)
    obtain ⟨sentRequest, hmem⟩ := hreplied.2
    refine ⟨idx, ?_, sentRequest, (hpast₁.trans hpast₂).isPrefix.subset hmem⟩
    rw [(hpast₁.trans hpast₂).sentTo]
    exact hreplied.1
  fail idx := quiet_pure trivial
  retried tried := quiet_pure ⟨rfl, fun _ hi => hi⟩

lemma quiet_triedMask (attemptKey : Option String) :
    Quiet self M (fun tried => tried.length = self.members.length)
      (self.triedMask attemptKey : PoolProcess T (List Bool)) := by
  cases attemptKey with
  | none => exact quiet_pure List.length_replicate
  | some attemptKey =>
    exact quiet_silent rfl rfl (fun tried hallowed => hallowed.streamTriedMask attemptKey tried rfl)

lemma quiet_markActive (attemptKey : Option String) (idx : Nat) :
    Quiet self M (fun _ => True) (markActive attemptKey idx : PoolProcess T Bool) := by
  cases attemptKey with
  | none => exact quiet_pure trivial
  | some attemptKey => exact quiet_any rfl rfl

lemma fair_streamAttempt (attemptKey : Option String) (request : InferenceRequest) :
    Fair self (self.streamAttempt key attemptKey request : Attempt T Unit PoolObservedStream)
      (fun past idx _ => idx ∈ sentTo past)
      (fun past stream => stream.memberIdx ∈ sentTo past) where
  send past idx hidx hfirst hchecked := by
    refine follows_send rfl rfl (sentOnce_requestFor request hidx hfirst hchecked) (fun r => ?_)
    refine ⟨List.prefix_append .., sentTo_append rfl, fun reply _ => ?_⟩
    rw [sentTo_append rfl]
    exact List.mem_append_right _ List.mem_cons_self
  succeed past idx reply hmem := by
    refine (quiet_markActive attemptKey idx).silently (fun past₁ _ hpast₁ _ => ?_)
    change idx ∈ sentTo past₁
    rwa [hpast₁.sentTo]
  fail idx := by
    cases attemptKey with
    | none => exact quiet_pure trivial
    | some attemptKey => exact quiet_any rfl rfl
  retried tried := by
    refine quiet_ite (fun _ => ?_) (fun _ => quiet_pure ⟨rfl, fun _ hi => hi⟩)
    refine (quiet_triedMask attemptKey).bind (fun cached _ => ?_)
    refine quiet_pure ⟨List.length_mapIdx, fun i hi => ?_⟩
    rw [List.getElem?_mapIdx, hi]
    rfl

lemma quiet_sessionKey {request : InferenceRequest} :
    Quiet self M (fun _ => True) (self.sessionKey request : PoolProcess T String) := by
  unfold sessionKey
  cases request.routingKey.bind (fun key => key.forScope self.stickyScope) with
  | some key => exact quiet_pure trivial
  | none =>
    cases request.routingKey.bind InferenceRoutingKey.logicalInferenceId with
    | some logicalId => exact quiet_pure trivial
    | none => exact (quiet_any rfl rfl).bind (fun _ _ => quiet_pure trivial)

lemma follows_execute (request : InferenceRequest) :
    Follows self (fun past' r => ∃ result, r = some result ∧
      ∀ reply, result = .ok reply → ∃ idx, Replied past' idx reply) []
      (self.execute request : PoolProcess T (Option (Except InferenceExecutionError T))) := by
  refine quiet_sessionKey.silently (fun past key hkey _ => ?_)
  refine quiet_selectActiveMember.silently (fun past₁ idx hpast₁ hidx => ?_)
  have hnone : sentTo past₁ = [] := hpast₁.sentTo.trans hkey.sentTo
  refine guarded_attemptMembers (fair_executeAttempt request) _ hidx List.length_replicate ?_ ?_ ?_
  · simp [hnone]
  · simp [hnone]
  · refine Nat.lt_succ_of_le ((List.count_le_length ..).trans ?_)
    rw [List.length_set, List.length_replicate]

lemma follows_executeStream (request : InferenceRequest) :
    Follows self (fun past' r => ∃ result, r = some result ∧
      ∀ stream, result = .ok stream → stream.memberIdx ∈ sentTo past') []
      (self.executeStream request :
        PoolProcess T (Option (Except InferenceExecutionError PoolObservedStream))) := by
  refine quiet_sessionKey.silently (fun past key hkey _ => ?_)
  refine quiet_selectActiveMember.silently (fun past₁ idx hpast₁ hidx => ?_)
  refine (quiet_triedMask _).silently (fun past₂ tried hpast₂ hlength => ?_)
  have hnone : sentTo past₂ = [] := hpast₂.sentTo.trans (hpast₁.sentTo.trans hkey.sentTo)
  refine guarded_attemptMembers (fair_streamAttempt _ request) _ hidx hlength ?_ ?_ ?_
  · simp [hnone]
  · simp [hnone]
  · refine Nat.lt_succ_of_le ((List.count_le_length ..).trans ?_)
    rw [List.length_set, hlength]

lemma quiet_ifRecorded {attemptKey : Option String} {ask : String → PoolProcess T Bool}
    {record : PoolProcess T Unit}
    (hask : ∀ attemptKey, Quiet self M (fun _ => True) (ask attemptKey))
    (hrecord : Quiet self M (fun _ => True) record) :
    Quiet self M (fun _ => True) (ifRecorded attemptKey ask record) := by
  cases attemptKey with
  | none => exact hrecord
  | some attemptKey =>
    exact (hask attemptKey).bind
      (fun _ _ => quiet_ite (fun _ => hrecord) (fun _ => quiet_pure trivial))

lemma quiet_markFailure (attemptKey : Option String) (current : Nat) :
    Quiet self M (fun _ => True)
      (self.markFailure attemptKey current : PoolProcess T (List Bool)) := by
  cases attemptKey with
  | none => exact quiet_pure trivial
  | some attemptKey => exact quiet_any rfl rfl

variable {attemptKey : Option String} {current : Nat} {err : InferenceExecutionError}

lemma quiet_recordStreamAttemptFailure (hcurrent : M current) :
    Quiet self M (fun _ => True)
      (self.recordStreamAttemptFailure key attemptKey current err : PoolProcess T Unit) := by
  refine (quiet_recordFailure hcurrent).bind (fun _ _ => ?_)
  refine (quiet_markFailure attemptKey current).bind (fun tried _ => ?_)
  refine quiet_ite (fun _ => quiet_nextOnError.bind (fun _ _ => quiet_pure trivial)) (fun _ => ?_)
  refine quiet_ite (fun _ => ?_) (fun _ => quiet_pure trivial)
  refine (quiet_any rfl rfl).bind (fun available _ => ?_)
  exact quiet_ite (fun _ => quiet_nextOnUnavailable.bind (fun _ _ => quiet_pure trivial))
    (fun _ => quiet_pure trivial)

lemma quiet_recordStreamAttemptFailureOnce {streamFinished : Bool} (hcurrent : M current) :
    Quiet self M (fun _ => True) (self.recordStreamAttemptFailureOnce key attemptKey current err
      streamFinished : PoolProcess T Unit) :=
  quiet_ifRecorded (fun _ => quiet_any rfl rfl) (quiet_recordStreamAttemptFailure hcurrent)

lemma quiet_recordStreamAttemptSuccess (hcurrent : M current) :
    Quiet self M (fun _ => True)
      (recordStreamAttemptSuccess key attemptKey current : PoolProcess T Unit) := by
  have hsuccess : Quiet self M (fun _ => True)
      (perform (.recordSuccess current) : PoolProcess T Unit) :=
    quiet_perform rfl (fun _ hi => Option.some.inj hi ▸ hcurrent) (fun _ _ => trivial)
  exact quiet_ifRecorded (fun _ => quiet_any rfl rfl)
    (hsuccess.bind (fun _ _ => quiet_resetSwitchBudget))

lemma quiet_recordStreamAttemptAbandoned (hcurrent : M current) :
    Quiet self M (fun _ => True)
      (recordStreamAttemptAbandoned attemptKey current : PoolProcess T Unit) :=
  quiet_ifRecorded (fun _ => quiet_any rfl rfl)
    (quiet_perform rfl (fun _ hi => Option.some.inj hi ▸ hcurrent) (fun _ _ => trivial))

lemma quiet_consume (polls : List StreamPoll) (stream : PoolObservedStream)
    (hmember : M stream.memberIdx) :
    Quiet self M (fun _ => True) (self.consume stream polls : PoolProcess T Unit) := by
  induction polls generalizing stream with
  | nil =>
    exact quiet_ite (fun _ => quiet_pure trivial)
      (fun _ => quiet_recordStreamAttemptAbandoned hmember)
  | cons poll polls ih =>
    have hpoll : Quiet self M (fun stream' => stream'.memberIdx = stream.memberIdx)
        (self.pollNext stream poll : PoolProcess T PoolObservedStream) := by
      cases poll with
      | item => exact quiet_pure rfl
      | failed err =>
        exact (quiet_recordStreamAttemptFailureOnce hmember).bind (fun _ _ => quiet_pure rfl)
      | ended =>
        exact quiet_ite (fun _ => quiet_pure rfl)
          (fun _ => (quiet_recordStreamAttemptSuccess hmember).bind (fun _ _ => quiet_pure rfl))
    exact hpoll.bind (fun stream' hsame => ih stream' (hsame ▸ hmember))

lemma quiet_recordStreamMemberFailure (request : InferenceRequest) (err : InferenceExecutionError) :
    Follows self (fun _ _ => True) past
      (self.recordStreamMemberFailure request err : PoolProcess T Unit) := by
  refine quiet_sessionKey.silently (fun past₁ key hpast₁ _ => ?_)
  cases streamAttemptKey key request with
  | none => exact trivial
  | some attemptKey =>
    intro found _
    refine ⟨honest_of_none rfl nofun, ?_⟩
    cases found with
    | none => exact trivial
    | some current =>
      have hknown : ∀ i, i = current →
          Known (past₁ ++ [⟨.streamMember attemptKey, some current⟩]) i :=
        fun i hi => .inr ⟨attemptKey, hi ▸ List.mem_append_right _ List.mem_cons_self⟩
      exact Process.Guarded.mono
        (quiet_recordStreamAttemptFailureOnce (M := (· = current)) rfl _ hknown)
        (fun _ _ _ => trivial)

/-- The call has an answer, and what it replies is the reply of a member it was sent to. -/
def Answers (past : List (Event (PoolAction.Response T)))
    (answer : PoolAnswer T) : Prop :=
  ∃ result, answer = some result ∧
    ∀ reply, result = .ok (some reply) → ∃ idx, Replied past idx reply

lemma follows_process (call : PoolCall) :
    Follows self Answers [] (self.process call : PoolProcess T (PoolAnswer T)) := by
  cases call with
  | execute request =>
    refine Process.Guarded.bind (follows_execute request) (fun past answer hanswer => ?_)
    obtain ⟨result, rfl, hreplied⟩ := hanswer
    refine ⟨result.map some, rfl, fun reply hreply => hreplied reply ?_⟩
    cases result with
    | error err => cases hreply
    | ok reply' =>
      obtain rfl := Option.some.inj (Except.ok.inj hreply)
      rfl
  | executeStream request polls =>
    refine Process.Guarded.bind (follows_executeStream request) (fun past answer hanswer => ?_)
    obtain ⟨result, rfl, hopened⟩ := hanswer
    cases result with
    | error err => exact ⟨.error err, rfl, fun _ h => nomatch h⟩
    | ok stream =>
      have hconsume : Quiet self (· = stream.memberIdx) (fun _ => True)
          (self.consume stream polls : PoolProcess T Unit) := quiet_consume polls stream rfl
      exact hconsume.follows (fun i hi => .inl (hi ▸ hopened stream rfl))
        (fun _ _ _ _ => ⟨.ok none, rfl, fun _ h => nomatch h⟩)
  | recordStreamFailure request err =>
    exact Process.Guarded.bind (quiet_recordStreamMemberFailure request err)
      (fun _ _ _ => ⟨.ok none, rfl, fun _ h => nomatch h⟩)

lemma sentTo_honest {event : Event (PoolAction.Response T)}
    (hpast : (sentTo past).Nodup ∧ ∀ idx ∈ sentTo past, idx < self.members.length)
    (h : Honest self past event) : (sentTo (past ++ [event])).Nodup ∧
      ∀ idx ∈ sentTo (past ++ [event]), idx < self.members.length := by
  cases hsent : sent event.action with
  | none => rwa [(extends_append hsent).sentTo]
  | some request =>
    obtain ⟨idx, request⟩ := request
    obtain ⟨⟨member, hmember, -⟩, hfirst, -⟩ := h.sends idx request hsent
    rw [sentTo_append hsent]
    refine ⟨List.Nodup.append hpast.1 (List.nodup_singleton idx) (by simpa using hfirst), ?_⟩
    intro other hother
    rw [List.mem_append, List.mem_singleton] at hother
    cases hother with
    | inl hold => exact hpast.2 other hold
    | inr hnew => exact hnew ▸ (List.getElem?_eq_some_iff.mp hmember).1

lemma length_le_of_nodup {idxs : List Nat} {bound : Nat} (hnodup : idxs.Nodup)
    (hbound : ∀ idx ∈ idxs, idx < bound) : idxs.length ≤ bound := by
  have hrange : idxs ⊆ List.range bound := fun idx hidx => List.mem_range.mpr (hbound idx hidx)
  have hlength := (List.subperm_of_subset hnodup hrange).length_le
  rwa [List.length_range] at hlength

end Calls

section Runs

variable [LinearOrder F] {ι α : Type} [DecidableEq ι]

variable {self : PoolExecutor F} {breaker : CircuitBreaker} {calls : ι → PoolCall}

lemma honest_run {s' : PoolSystem ι T (PoolAnswer T)} {tr : List (PoolTransition ι T (PoolAnswer T))}
    (hrun : Run (self.Step) (self.start breaker calls) tr s') (i : ι) :
    (∀ before τ after, tr = before ++ τ :: after → τ.label.process = i →
      Honest self (System.eventsOf i before) τ.label.event) ∧
    ∀ answer, s'.process i = .done answer → Answers (System.eventsOf i tr) answer := by
  have hstart : StateFine self (self.start (T := T) breaker calls).shared :=
    ⟨newState_fine self breaker, Nat.zero_le _, fun _ _ hget => nomatch hget⟩
  have hacts : ∀ (_ : ι) (e : Event (PoolAction.Response T)) state state',
      self.Acts e state state' → StateFine self state → Allowed self e ∧ StateFine self state' :=
    fun _ _ _ _ => acts_allowed
  have hfollows : ((self.start (T := T) breaker calls).process i).Guarded (Allowed self)
      (Honest self) Answers [] := follows_process (calls i)
  obtain ⟨hlast, hhonest⟩ := System.guarded_run hacts hrun hstart hfollows
  rw [List.nil_append] at hlast
  simp only [List.nil_append] at hhonest
  refine ⟨hhonest, fun answer hdone => ?_⟩
  rw [hdone] at hlast
  exact hlast

/-- However the calls on the pool interleave, each sends its request at most once to a member, only
right behind a check that the member has passed, and writes the health of no member but those it has
sent to or has learnt of from the attempt of its request. It does end, and what it replies is the
reply of such a member. -/
theorem calls_are_honest (self : PoolExecutor F) (breaker : CircuitBreaker) (calls : ι → PoolCall)
    {s' : PoolSystem ι T (PoolAnswer T)} {tr : List (PoolTransition ι T (PoolAnswer T))}
    (hrun : Run (self.Step) (self.start breaker calls) tr s') (i : ι) :
    (∀ before τ after, tr = before ++ τ :: after → τ.label.process = i →
      Honest self (System.eventsOf i before) τ.label.event) ∧
    (sentTo (System.eventsOf i tr)).Nodup ∧
    (sentTo (System.eventsOf i tr)).length ≤ self.members.length ∧
    ∀ answer, s'.process i = .done answer → Answers (System.eventsOf i tr) answer := by
  obtain ⟨hhonest, hanswers⟩ := honest_run hrun i
  have hsent : (sentTo (System.eventsOf i tr)).Nodup ∧
      ∀ idx ∈ sentTo (System.eventsOf i tr), idx < self.members.length := by
    refine System.eventsOf_induction
      (J := fun past => (sentTo past).Nodup ∧ ∀ idx ∈ sentTo past, idx < self.members.length)
      ⟨List.nodup_nil, by simp [sentTo]⟩ (fun before τ after htr hτ hbefore => ?_)
    exact sentTo_honest hbefore (hhonest before τ after htr hτ)
  exact ⟨hhonest, hsent.1, length_le_of_nodup hsent.1 hsent.2, hanswers⟩

theorem calls_are_honest_failover :
    let tr := (sampleRun (.rateLimited "quota" none) sampleStart true 40).1
    sentTo (System.eventsOf true tr) = [0, 1] ∧
      Answers (System.eventsOf true tr) (some (.ok (some "hello"))) :=
  ⟨rfl, (calls_are_honest samplePool (.new .default) _
    (run_sampleRun (.rateLimited "quota" none) sampleStart true 40) true).2.2.2 _ rfl⟩

lemma respond_quarantine {self : PoolExecutor F} {now idx : Nat} {state : PoolState}
    (action : PoolAction) (given : action.Response T)
    (h : state.permanentQuarantine[idx]? = some true) :
    (self.respond now state action given).2.permanentQuarantine[idx]? = some true := by
  cases action with
  | quarantine other => exact getElem?_set_true h
  | selectActive key health access =>
    obtain ⟨sequence, counter, heq⟩ := selectActive_eq self key health access state
    change (self.selectActive key health access state).2.permanentQuarantine[idx]? = some true
    rwa [heq]
  | streamTriedMask key =>
    have hsame : (self.streamTriedMask key state).2.permanentQuarantine =
        state.permanentQuarantine := by
      unfold streamTriedMask
      split <;> rfl
    change (self.streamTriedMask key state).2.permanentQuarantine[idx]? = some true
    rwa [hsame]
  | markStreamActive | markStreamOpenFailure | markStreamFailure =>
    rw [← (withStreamAttempt_others self).2] at h
    exact h
  | observeStreamFailure | finishStream | abandonStream =>
    rw [← onStreamAttempt_others.2] at h
    exact h
  | _ => exact h

lemma acts_quarantine {self : PoolExecutor F} {idx : Nat} {state state' : PoolState}
    {event : Event (PoolAction.Response T)} (h : self.Acts event state state')
    (hquarantined : state.permanentQuarantine[idx]? = some true) :
    state'.permanentQuarantine[idx]? = some true ∧ event ≠ ⟨.checkQuarantine idx, false⟩ := by
  obtain ⟨now, hrespond⟩ := h
  have hstate : (self.respond now state event.action event.response).2 = state' :=
    congrArg Prod.snd hrespond
  refine ⟨?_, ?_⟩
  · rw [← hstate]
    exact respond_quarantine event.action event.response hquarantined
  rintro rfl
  have hresponse : (state.permanentQuarantine[idx]?).getD false = false :=
    congrArg Prod.fst hrespond
  rw [hquarantined] at hresponse
  cases hresponse

/-- A member in quarantine stays there. From then on it gets a request only from a call that had
found it out of quarantine before, and has at most asked the breaker since. -/
theorem quarantined_gets_nothing (self : PoolExecutor F) (breaker : CircuitBreaker)
    (calls : ι → PoolCall) {s s' : PoolSystem ι T (PoolAnswer T)}
    {before tr : List (PoolTransition ι T (PoolAnswer T))} {idx : Nat}
    (hbefore : Run (self.Step) (self.start breaker calls) before s)
    (hrun : Run (self.Step) s tr s')
    (hquarantined : s.shared.permanentQuarantine[idx]? = some true) :
    s'.shared.permanentQuarantine[idx]? = some true ∧
    ∀ mid τ rest request, tr = mid ++ τ :: rest →
      sent τ.label.event.action = some (idx, request) →
      ∃ passed, passed ≠ [] ∧ passed <:+ System.eventsOf τ.label.process before ∧
        self.passedCheck idx = passed ++ System.eventsOf τ.label.process mid := by
  have hstays := System.invariant_shared
    (I := fun state => state.permanentQuarantine[idx]? = some true)
    (fun _ _ _ _ h hpre => (acts_quarantine h hpre).1) hrun hquarantined
  refine ⟨hstays.1, fun mid τ rest request htr hsent => ?_⟩
  obtain ⟨hhonest, -⟩ := honest_run (hbefore.append hrun) τ.label.process
  have hsends := (hhonest (before ++ mid) τ rest (by rw [htr, List.append_assoc]) rfl).sends idx
    request hsent
  obtain ⟨past, hpast⟩ := hsends.checked
  rw [System.eventsOf_append] at hpast
  have hrefused : (⟨.checkQuarantine idx, false⟩ : Event (PoolAction.Response T)) ∉
      System.eventsOf τ.label.process mid := by
    intro hmem
    obtain ⟨ρ, hρ, hevent⟩ := List.mem_filterMap.mp hmem
    have htail : ρ ∈ tr := htr ▸ List.mem_append_left _ hρ
    have hpassed : ρ.label.event = ⟨.checkQuarantine idx, false⟩ := by
      split at hevent
      · exact Option.some.inj hevent
      · cases hevent
    exact (acts_quarantine (System.acts_of_mem hrun htail) (hstays.2 ρ htail).1).2 hpassed
  have hhead : (⟨.checkQuarantine idx, false⟩ : Event (PoolAction.Response T)) ∈
      self.passedCheck idx := List.mem_cons_self
  rcases List.append_eq_append_iff.mp hpast with ⟨passed, hfront, hback⟩ | ⟨more, -, hback⟩
  · refine ⟨passed, ?_, ⟨past, hfront.symm⟩, hback⟩
    rintro rfl
    rw [List.nil_append] at hback
    exact hrefused (hback ▸ hhead)
  · exact absurd (hback ▸ List.mem_append_right more hhead) hrefused

theorem quarantined_gets_nothing_stream :
    let s := (sampleRun (.unauthorized "key") sampleStart true 40).2
    let tr := (sampleRun (.unauthorized "key") s false 40).1
    sentTo (System.eventsOf false tr) = [1] ∧
      (sampleRun (.unauthorized "key") s false 40).2.shared.permanentQuarantine[0]? = some true :=
  ⟨rfl, (quarantined_gets_nothing samplePool (.new .default) _
    (run_sampleRun (.unauthorized "key") sampleStart true 40)
    (run_sampleRun (.unauthorized "key") _ false 40) rfl).1⟩

end Runs

end PoolExecutor

end Awaken.Engine
