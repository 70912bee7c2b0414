import Mathlib.Algebra.BigOperators.Group.List.Basic
import Mathlib.Data.Nat.Count
import Mathlib.Data.Nat.Periodic
import Mathlib.Data.List.Nodup
import Mathlib.Order.Defs.LinearOrder

/-! Routing over the members of a model pool. The health of the members is a mask that callers read,
and the scores of the rendezvous are given. -/

namespace Awaken.Engine

inductive InferenceExecutionError where
  | provider (message : String)
  | rateLimited (message : String) (retryAfter : Option Nat)
  | overloaded (message : String) (retryAfter : Option Nat)
  | timeout (message : String)
  | streamInterrupted (cause : String)
  | contextOverflow (message : String)
  | invalidRequest (message : String)
  | unauthorized (message : String)
  | modelNotFound (message : String)
  | contentFiltered (message : String)
  | allModelsUnavailable
  | poolAttemptsExhausted
  | cancelled
deriving DecidableEq

inductive PoolMemberRole where
  | member
  | failoverOnly
deriving DecidableEq

inductive HomeStrategy where
  | deterministic
  | roundRobin
  | firstHealthy
deriving DecidableEq

structure RouterMember where
  modelId : String
  role : PoolMemberRole
  weight : Nat

structure PoolSwitchPolicy where
  onQuota : Bool
  onPermanent : Bool
  onCircuitOpen : Bool
  maxSwitchesPerSession : Option Nat
  quotaRetryAfterThresholdSecs : Option Nat

structure PoolRouter (F : Type) where
  members : List RouterMember
  home : HomeStrategy
  switch : PoolSwitchPolicy
  weightedRendezvousScore : String → String → Nat → F

abbrev HealthMask := List Bool

def isHealthy (healthy : HealthMask) (idx : Nat) : Bool := (healthy[idx]?).getD true

def pickSlot : List (Nat × Nat) → Nat → Option Nat
  | [], _ => none
  | (idx, weight) :: members, slot =>
    if slot < weight then some idx else pickSlot members (slot - weight)

namespace PoolRouter

variable {F : Type} [LinearOrder F]

def scoreLe (self : PoolRouter F) (routingKey : String) (idx best : Nat) : Bool :=
  match self.home with
  | .firstHealthy => best ≤ idx
  | .deterministic | .roundRobin =>
    let score := fun idx : Nat => (self.members[idx]?).map (fun member =>
      self.weightedRendezvousScore routingKey member.modelId member.weight)
    match score idx, score best with
    | some a, some b => a ≤ b
    | _, _ => false

/-- The pass of the loop of `bestByScore` over one member. -/
def better (self : PoolRouter F) (routingKey : String) (accept : Nat → Bool) (best : Option Nat)
    (idx : Nat) : Option Nat :=
  if !accept idx then best
  else match best with
    | some other => if self.scoreLe routingKey idx other then best else some idx
    | none => some idx

def bestByScore (self : PoolRouter F) (routingKey : String) (accept : Nat → Bool) : Option Nat :=
  (List.range self.members.length).foldl (self.better routingKey accept) none

def homes (self : PoolRouter F) (healthy : HealthMask) (requireHealthy : Bool) : List (Nat × Nat) :=
  ((self.members.zipIdx).filter (fun (member, idx) =>
    member.role = .member && (!requireHealthy || isHealthy healthy idx))).map
      (fun (member, idx) => (idx, max member.weight 1))

def totalWeight (members : List (Nat × Nat)) : Nat := (members.map Prod.snd).sum

def roundRobinHome (self : PoolRouter F) (healthy : HealthMask) (sequence : Nat) : Option Nat :=
  let choose := fun requireHealthy =>
    let members := self.homes healthy requireHealthy
    if totalWeight members = 0 then none else pickSlot members (sequence % totalWeight members)
  choose true <|> choose false

def selectHomeWithSequence (self : PoolRouter F) (routingKey : String) (healthy : HealthMask)
    (sequence : Option Nat) : Nat :=
  if self.home = .roundRobin then (self.roundRobinHome healthy (sequence.getD 0)).getD 0
  else
    let eligible := fun idx => (self.members[idx]?).any (·.role = .member)
    ((self.bestByScore routingKey (fun idx => eligible idx && isHealthy healthy idx)) <|>
      self.bestByScore routingKey eligible).getD 0

def selectFailover (self : PoolRouter F) (routingKey : String) (currentIdx : Nat)
    (healthy : HealthMask) : Option Nat :=
  self.bestByScore routingKey (fun idx => idx ≠ currentIdx && isHealthy healthy idx)

def quotaThresholdMet (self : PoolRouter F) : Option Nat → Bool
  | some after => (self.switch.quotaRetryAfterThresholdSecs).all (· ≤ after)
  | none => true

def shouldSwitchOnError (self : PoolRouter F) : InferenceExecutionError → Bool
  | .rateLimited _ retryAfter | .overloaded _ retryAfter =>
    self.switch.onQuota && self.quotaThresholdMet retryAfter
  | .unauthorized _ | .modelNotFound _ => self.switch.onPermanent
  | _ => false

section Selection

variable {self : PoolRouter F} {routingKey : String} {accept : Nat → Bool} {idx : Nat}

lemma better_cases (self : PoolRouter F) (routingKey : String) (accept : Nat → Bool)
    (best : Option Nat) (idx : Nat) :
    (self.better routingKey accept best idx = best ∧ (accept idx = true → best ≠ none)) ∨
      (self.better routingKey accept best idx = some idx ∧ accept idx = true) := by
  unfold better
  by_cases haccept : accept idx = true
  · rw [haccept, Bool.not_true, if_neg Bool.false_ne_true]
    cases best with
    | none => exact .inr ⟨rfl, rfl⟩
    | some other =>
      by_cases hle : self.scoreLe routingKey idx other = true
      · exact .inl ⟨by simp [hle], by simp⟩
      · exact .inr ⟨by simp [hle], rfl⟩
  · exact .inl ⟨by simp [haccept], fun h => absurd h haccept⟩

lemma foldl_better_some {idxs : List Nat} {best : Option Nat} {found : Nat}
    (h : idxs.foldl (self.better routingKey accept) best = some found) :
    best = some found ∨ (found ∈ idxs ∧ accept found = true) := by
  induction idxs generalizing best with
  | nil => exact .inl h
  | cons idx idxs ih =>
    cases ih h with
    | inl hnext =>
      cases better_cases self routingKey accept best idx with
      | inl hkept => exact .inl (hkept.1.symm.trans hnext)
      | inr htaken =>
        obtain rfl := Option.some.inj (htaken.1.symm.trans hnext)
        exact .inr ⟨List.mem_cons_self, htaken.2⟩
    | inr hlater => exact .inr ⟨List.mem_cons_of_mem _ hlater.1, hlater.2⟩

lemma bestByScore_some (h : self.bestByScore routingKey accept = some idx) :
    idx < self.members.length ∧ accept idx = true := by
  cases foldl_better_some h with
  | inl hnone => cases hnone
  | inr hfound => exact ⟨List.mem_range.mp hfound.1, hfound.2⟩

lemma selectFailover_some {current : Nat} {healthy : HealthMask}
    (h : self.selectFailover routingKey current healthy = some idx) :
    idx < self.members.length ∧ idx ≠ current ∧ isHealthy healthy idx = true := by
  obtain ⟨hidx, haccept⟩ := bestByScore_some h
  rw [Bool.and_eq_true, decide_eq_true_eq] at haccept
  exact ⟨hidx, haccept⟩

end Selection

section Rounds

lemma pickSlot_mem {members : List (Nat × Nat)} {slot idx : Nat}
    (h : pickSlot members slot = some idx) : idx ∈ members.map Prod.fst := by
  induction members generalizing slot with
  | nil => cases h
  | cons first members ih =>
    unfold pickSlot at h
    split at h
    · obtain rfl := Option.some.inj h
      exact List.mem_cons_self
    · exact List.mem_cons_of_mem _ (ih h)

lemma pickSlot_some {members : List (Nat × Nat)} {slot : Nat} (h : slot < totalWeight members) :
    ∃ idx, pickSlot members slot = some idx := by
  induction members generalizing slot with
  | nil => cases h
  | cons first members ih =>
    unfold pickSlot
    split
    · exact ⟨first.1, rfl⟩
    · next hbehind =>
      refine ih ?_
      simp only [totalWeight, List.map_cons, List.sum_cons] at h ⊢
      omega

lemma count_pickSlot {members : List (Nat × Nat)} (hnodup : (members.map Prod.fst).Nodup)
    (idx : Nat) :
    Nat.count (fun slot => pickSlot members slot = some idx) (totalWeight members) =
      ((members.find? (·.1 = idx)).map Prod.snd).getD 0 := by
  induction members with
  | nil => rfl
  | cons first members ih =>
    obtain ⟨index, weight⟩ := first
    rw [List.map_cons, List.nodup_cons] at hnodup
    have htotal : totalWeight ((index, weight) :: members) = weight + totalWeight members := rfl
    have hfront : ∀ slot < weight, (pickSlot ((index, weight) :: members) slot = some idx ↔
        index = idx) := by
      intro slot hslot
      rw [pickSlot, if_pos hslot, Option.some.injEq]
    have hback : ∀ slot, pickSlot ((index, weight) :: members) (weight + slot) =
        pickSlot members slot := by
      intro slot
      rw [pickSlot, if_neg (by omega), Nat.add_sub_cancel_left]
    rw [htotal, Nat.count_add]
    simp only [hback]
    rw [ih hnodup.2]
    by_cases hidx : index = idx
    · subst hidx
      have hall : Nat.count (fun slot => pickSlot ((index, weight) :: members) slot = some index)
          weight = weight := Nat.count_of_forall (fun slot hslot => (hfront slot hslot).mpr rfl)
      have hnone : members.find? (·.1 = index) = none := by
        rw [List.find?_eq_none]
        intro member hmember heq
        exact hnodup.1 (List.mem_map.mpr ⟨member, hmember, by simpa using heq⟩)
      rw [hall, hnone]
      simp
    · have hzero : Nat.count (fun slot => pickSlot ((index, weight) :: members) slot = some idx)
          weight = 0 :=
        Nat.count_of_forall_not (fun slot hslot h => hidx ((hfront slot hslot).mp h))
      rw [hzero, Nat.zero_add, List.find?_cons_of_neg (by simpa using hidx)]

def eligibleHomes (self : PoolRouter F) (healthy : HealthMask) : List (Nat × Nat) :=
  if self.homes healthy true = [] then self.homes healthy false else self.homes healthy true

variable {self : PoolRouter F} {healthy : HealthMask}

omit [LinearOrder F] in
lemma mem_homes {requireHealthy : Bool} {idx weight : Nat} :
    (idx, weight) ∈ self.homes healthy requireHealthy ↔ ∃ member,
      self.members[idx]? = some member ∧ member.role = .member ∧
        (requireHealthy = true → isHealthy healthy idx = true) ∧ weight = max member.weight 1 := by
  simp only [homes, List.mem_map, List.mem_filter, Prod.exists, List.mk_mem_zipIdx_iff_getElem?,
    Bool.and_eq_true, decide_eq_true_eq, Prod.mk.injEq]
  constructor
  · rintro ⟨member, _, ⟨hmember, hrole, hhealthy⟩, rfl, rfl⟩
    refine ⟨member, hmember, hrole, fun hrequired => ?_, rfl⟩
    simpa [hrequired] using hhealthy
  · rintro ⟨member, hmember, hrole, hhealthy, rfl⟩
    refine ⟨member, idx, ⟨hmember, hrole, ?_⟩, rfl, rfl⟩
    cases requireHealthy with
    | false => rfl
    | true => exact hhealthy rfl

omit [LinearOrder F] in
lemma nodup_homes (self : PoolRouter F) (healthy : HealthMask) (requireHealthy : Bool) :
    ((self.homes healthy requireHealthy).map Prod.fst).Nodup := by
  rw [homes, List.map_map]
  have hidx : ((self.members.zipIdx).map Prod.snd).Nodup := by
    rw [List.zipIdx_map_snd]
    exact List.nodup_range'
  exact hidx.sublist (List.filter_sublist.map _)

omit [LinearOrder F] in
lemma totalWeight_homes {requireHealthy : Bool} :
    totalWeight (self.homes healthy requireHealthy) = 0 ↔
      self.homes healthy requireHealthy = [] := by
  constructor
  · intro h
    refine List.eq_nil_iff_forall_not_mem.mpr (fun entry hentry => ?_)
    obtain ⟨idx, weight⟩ := entry
    have hzero : weight = 0 :=
      List.sum_eq_zero_iff.mp h weight (List.mem_map.mpr ⟨(idx, weight), hentry, rfl⟩)
    obtain ⟨_, _, _, _, hweight⟩ := (mem_homes).mp hentry
    omega
  · intro h
    rw [h]
    rfl

omit [LinearOrder F] in
lemma nodup_eligibleHomes (self : PoolRouter F) (healthy : HealthMask) :
    ((self.eligibleHomes healthy).map Prod.fst).Nodup := by
  unfold eligibleHomes
  split <;> exact nodup_homes self healthy _

omit [LinearOrder F] in
lemma totalWeight_eligibleHomes (hsome : self.eligibleHomes healthy ≠ []) :
    0 < totalWeight (self.eligibleHomes healthy) := by
  unfold eligibleHomes at *
  by_cases hempty : self.homes healthy true = []
  · rw [if_pos hempty] at hsome ⊢
    exact Nat.pos_of_ne_zero (mt (totalWeight_homes).mp hsome)
  · rw [if_neg hempty]
    exact Nat.pos_of_ne_zero (mt (totalWeight_homes).mp hempty)

omit [LinearOrder F] in
lemma roundRobinHome_eq (hsome : self.eligibleHomes healthy ≠ []) (sequence : Nat) :
    self.roundRobinHome healthy sequence =
      pickSlot (self.eligibleHomes healthy)
        (sequence % totalWeight (self.eligibleHomes healthy)) := by
  unfold roundRobinHome eligibleHomes at *
  by_cases hempty : self.homes healthy true = []
  · rw [if_pos hempty] at hsome ⊢
    simp only [(totalWeight_homes).mpr hempty, if_true, mt (totalWeight_homes).mp hsome, if_false]
    rfl
  · rw [if_neg hempty]
    have htotal := mt (totalWeight_homes).mp hempty
    have hslot : sequence % totalWeight (self.homes healthy true) <
        totalWeight (self.homes healthy true) := Nat.mod_lt _ (Nat.pos_of_ne_zero htotal)
    obtain ⟨idx, hidx⟩ := pickSlot_some hslot
    simp only [htotal, if_false, hidx]
    rfl

lemma getD_orElse_lt {count : Nat} {choice other : Option Nat}
    (hchoice : ∀ idx, choice = some idx → idx < count)
    (hother : ∀ idx, other = some idx → idx < count) (h : 0 < count) :
    (choice <|> other).getD 0 < count := by
  cases choice with
  | some idx => exact hchoice idx rfl
  | none =>
    cases other with
    | some idx => exact hother idx rfl
    | none => exact h

omit [LinearOrder F] in
lemma mem_homes_of_pickSlot {requireHealthy : Bool} {slot idx : Nat}
    (h : pickSlot (self.homes healthy requireHealthy) slot = some idx) :
    idx < self.members.length := by
  obtain ⟨⟨_, weight⟩, hmem, rfl⟩ := List.mem_map.mp (pickSlot_mem h)
  obtain ⟨member, hmember, -⟩ := (mem_homes).mp hmem
  exact (List.getElem?_eq_some_iff.mp hmember).1

lemma selectHomeWithSequence_lt (h : 0 < self.members.length) (routingKey : String)
    (healthy : HealthMask) (sequence : Option Nat) :
    self.selectHomeWithSequence routingKey healthy sequence < self.members.length := by
  have hslot : ∀ requireHealthy slot idx,
      (if totalWeight (self.homes healthy requireHealthy) = 0 then none
        else pickSlot (self.homes healthy requireHealthy) slot) = some idx →
        idx < self.members.length := by
    intro requireHealthy slot idx hsome
    split at hsome
    · cases hsome
    · exact mem_homes_of_pickSlot hsome
  have hbest : ∀ accept idx, self.bestByScore routingKey accept = some idx →
      idx < self.members.length := fun _ _ hsome => (bestByScore_some hsome).1
  unfold selectHomeWithSequence
  split
  · exact getD_orElse_lt (hslot true _) (hslot false _) h
  · exact getD_orElse_lt (hbest _) (hbest _) h

lemma count_window {p : Nat → Prop} [DecidablePred p] {period : Nat}
    (hp : Function.Periodic p period) (start : Nat) :
    Nat.count (fun k => p (start + k)) period = Nat.count p period := by
  induction start with
  | zero => simp only [Nat.zero_add]
  | succ start ih =>
    rw [← ih]
    have hwraps : p (start + period) = p start := hp start
    have hfront := Nat.count_succ' (fun k => p (start + k)) period
    rw [Nat.count_succ] at hfront
    have hshift : Nat.count (fun k => p (start + (k + 1))) period =
        Nat.count (fun k => p (start + 1 + k)) period :=
      congrArg (fun q : Nat → Nat => Nat.count (fun k => p (q k)) period)
        (funext (fun k => by omega))
    simp only [Nat.add_zero, hwraps] at hfront
    omega

/-- Over as many sessions in a row as the weights add up to, the round robin homes on each eligible
member exactly as many as its weight, and on no other member. -/
theorem round_robin_fair (self : PoolRouter F) (hhome : self.home = .roundRobin)
    (routingKey : String) {healthy : HealthMask} (hsome : self.eligibleHomes healthy ≠ [])
    (start idx : Nat) :
    Nat.count (fun k => self.selectHomeWithSequence routingKey healthy (some (start + k)) = idx)
        (totalWeight (self.eligibleHomes healthy)) =
      (((self.eligibleHomes healthy).find? (·.1 = idx)).map Prod.snd).getD 0 := by
  have hpos : 0 < totalWeight (self.eligibleHomes healthy) := totalWeight_eligibleHomes hsome
  have hhomes : ∀ sequence, self.selectHomeWithSequence routingKey healthy (some sequence) = idx ↔
      pickSlot (self.eligibleHomes healthy)
        (sequence % totalWeight (self.eligibleHomes healthy)) = some idx := by
    intro sequence
    obtain ⟨found, hfound⟩ := pickSlot_some (Nat.mod_lt sequence hpos)
    rw [selectHomeWithSequence, if_pos hhome, Option.getD_some, roundRobinHome_eq hsome, hfound,
      Option.getD_some, Option.some.injEq]
  have hperiodic : Function.Periodic (fun sequence => pickSlot (self.eligibleHomes healthy)
      (sequence % totalWeight (self.eligibleHomes healthy)) = some idx)
      (totalWeight (self.eligibleHomes healthy)) := by
    intro sequence
    simp only [Nat.add_mod_right]
  simp only [hhomes]
  rw [count_window hperiodic start, ← count_pickSlot (nodup_eligibleHomes self healthy) idx]
  simp only [Nat.count_eq_card_filter_range]
  refine congrArg Finset.card (Finset.filter_congr (fun slot hslot => ?_))
  rw [Nat.mod_eq_of_lt (Finset.mem_range.mp hslot)]

theorem round_robin_fair_window :
    let self : PoolRouter Nat :=
      { members := [⟨"a", .member, 2⟩, ⟨"spare", .failoverOnly, 9⟩, ⟨"b", .member, 1⟩]
        home := .roundRobin
        switch := ⟨true, true, true, none, none⟩
        weightedRendezvousScore := fun _ _ weight => weight }
    Nat.count (fun k => self.selectHomeWithSequence "s" [true, true, true] (some (5 + k)) = 0) 3 =
      2 :=
  round_robin_fair (F := Nat) _ rfl "s" (by decide) 5 0

end Rounds

end PoolRouter

end Awaken.Engine
