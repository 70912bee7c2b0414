import Awaken.Contract.Delivery

namespace Awaken.Contract

variable {J C : Type} {boundary : DeliveryBoundary} {currentRunId : Option String}

def pickedForFreeze (pending : List (PendingMessageRecord J C)) (boundary : DeliveryBoundary)
    (currentRunId : Option String) : List (PendingMessageRecord J C) :=
  (selectPendingForFreezeForRun pending boundary currentRunId).filterMap (pending[·]?)

structure Undeliverable (entry : PendingMessageRecord J C) (currentRunId : Option String) :
    Prop where
  barrier : entry.deliveryMode.barrier = false
  targeted : ∃ targetRunId, entry.deliveryMode.targetRunId = some targetRunId ∧
    currentRunId ≠ some targetRunId
  fallback : entry.deliveryMode.fallbackToNewRun = false

/-- The queued new runs and the active run are each passed over at the boundary of the other. -/
def InOtherLane (entry : PendingMessageRecord J C) (boundary : DeliveryBoundary) : Prop :=
  entry.deliveryMode.boundary = .newRun ↔ boundary ≠ .newRun

def untilBarrier (pending : List (PendingMessageRecord J C)) : List (PendingMessageRecord J C) :=
  pending.takeWhile (fun entry => !entry.deliveryMode.barrier)

section Pick

/-- The loop of the selection with the entries in place of their indexes. -/
def pickFrom (boundary : DeliveryBoundary) (currentRunId : Option String) :
    Bool → Bool → List (PendingMessageRecord J C) → List (PendingMessageRecord J C)
  | _, _, [] => []
  | any, skippedPrior, entry :: pending =>
    if !eligibleForFreeze entry boundary currentRunId then
      if entry.deliveryMode.barrier then []
      else if canSkipIneligible entry boundary then
        pickFrom boundary currentRunId any true pending
      else []
    else if entry.deliveryMode.barrier && skippedPrior then []
    else if any && entry.deliveryMode.granularity = .one then []
    else if entry.deliveryMode.barrier || entry.deliveryMode.granularity = .one then [entry]
    else entry :: pickFrom boundary currentRunId true skippedPrior pending

lemma filterMap_selectFrom (pre pending : List (PendingMessageRecord J C)) (any skippedPrior : Bool) :
    (selectFrom boundary currentRunId pre.length any skippedPrior pending).filterMap
        ((pre ++ pending)[·]?) = pickFrom boundary currentRunId any skippedPrior pending := by
  induction pending generalizing pre any skippedPrior with
  | nil => rfl
  | cons entry pending ih =>
    have hself : (pre ++ entry :: pending)[pre.length]? = some entry := by simp
    have hrest : ∀ any skippedPrior, (selectFrom boundary currentRunId (pre.length + 1) any
        skippedPrior pending).filterMap ((pre ++ entry :: pending)[·]?) =
        pickFrom boundary currentRunId any skippedPrior pending := fun any skippedPrior => by
      have h := ih (pre ++ [entry]) any skippedPrior
      rwa [List.length_append, List.append_assoc] at h
    rw [selectFrom, pickFrom]
    split
    · split
      · rfl
      · split
        · exact hrest any true
        · rfl
    · split
      · rfl
      · split
        · rfl
        · split
          · rw [List.filterMap_cons_some hself]
            rfl
          · rw [List.filterMap_cons_some hself, hrest]

lemma pickedForFreeze_eq (pending : List (PendingMessageRecord J C)) :
    pickedForFreeze pending boundary currentRunId =
      pickFrom boundary currentRunId false false pending :=
  filterMap_selectFrom [] pending false false

lemma pickFrom_skipped (any skippedPrior : Bool) (pending : List (PendingMessageRecord J C)) :
    pickFrom boundary currentRunId any true pending =
      pickFrom boundary currentRunId any skippedPrior (untilBarrier pending) := by
  induction pending generalizing any skippedPrior with
  | nil => rfl
  | cons entry pending ih =>
    cases hbarrier : entry.deliveryMode.barrier with
    | true =>
      rw [untilBarrier, List.takeWhile_cons_of_neg (by simp [hbarrier]), pickFrom, pickFrom, hbarrier]
      simp
    | false =>
      have huntil : untilBarrier (entry :: pending) = entry :: untilBarrier pending :=
        List.takeWhile_cons_of_pos (by simp [hbarrier])
      rw [huntil, pickFrom, pickFrom, hbarrier, ih any true, ih true skippedPrior]
      rfl

variable {entry : PendingMessageRecord J C}

lemma pickFrom_passed_over (heligible : eligibleForFreeze entry boundary currentRunId = false)
    (hbarrier : entry.deliveryMode.barrier = false) (hskip : canSkipIneligible entry boundary = true)
    (before after : List (PendingMessageRecord J C)) (any skippedPrior : Bool) :
    pickFrom boundary currentRunId any skippedPrior (before ++ entry :: after) =
      pickFrom boundary currentRunId any skippedPrior (before ++ untilBarrier after) := by
  induction before generalizing any skippedPrior with
  | nil =>
    rw [List.nil_append, List.nil_append, pickFrom, heligible, hbarrier, hskip]
    exact pickFrom_skipped any skippedPrior after
  | cons first before ih =>
    rw [List.cons_append, List.cons_append, pickFrom, pickFrom, ih, ih]

lemma pickFrom_stopped (heligible : eligibleForFreeze entry boundary currentRunId = false)
    (hskip : canSkipIneligible entry boundary = false)
    (before after : List (PendingMessageRecord J C)) (any skippedPrior : Bool) :
    pickFrom boundary currentRunId any skippedPrior (before ++ entry :: after) =
      pickFrom boundary currentRunId any skippedPrior before := by
  induction before generalizing any skippedPrior with
  | nil =>
    rw [List.nil_append, pickFrom, pickFrom, heligible, hskip]
    simp
  | cons first before ih => rw [List.cons_append, pickFrom, pickFrom, ih, ih]

end Pick

variable {entry : PendingMessageRecord J C}

lemma Undeliverable.not_eligible (h : Undeliverable entry currentRunId) :
    eligibleForFreeze entry boundary currentRunId = false := by
  obtain ⟨targetRunId, htarget, hother⟩ := h.targeted
  simp [eligibleForFreeze, htarget, h.fallback, Ne.symm hother]

lemma Undeliverable.canSkip_iff (h : Undeliverable entry currentRunId) :
    canSkipIneligible entry boundary = true ↔ InOtherLane entry boundary := by
  by_cases hnew : boundary = .newRun
  · simp [canSkipIneligible, InOtherLane, h.fallback, hnew]
  · simp [canSkipIneligible, InOtherLane, hnew]

section Taken

def Passes (boundary : DeliveryBoundary) (currentRunId : Option String)
    (entry : PendingMessageRecord J C) : Prop :=
  entry.deliveryMode.barrier = false ∧
    if eligibleForFreeze entry boundary currentRunId then entry.deliveryMode.granularity ≠ .one
    else canSkipIneligible entry boundary

structure TakenFrom (boundary : DeliveryBoundary) (currentRunId : Option String)
    (any skippedPrior : Bool) (front : List (PendingMessageRecord J C))
    (entry : PendingMessageRecord J C) : Prop where
  passed : ∀ other ∈ front, Passes boundary currentRunId other
  eligible : eligibleForFreeze entry boundary currentRunId = true
  barrier : entry.deliveryMode.barrier = true →
    skippedPrior = false ∧ ∀ other ∈ front, eligibleForFreeze other boundary currentRunId = true
  single : entry.deliveryMode.granularity = .one →
    any = false ∧ ∀ other ∈ front, eligibleForFreeze other boundary currentRunId = false

abbrev Taken (boundary : DeliveryBoundary) (currentRunId : Option String)
    (front : List (PendingMessageRecord J C)) (entry : PendingMessageRecord J C) : Prop :=
  TakenFrom boundary currentRunId false false front entry

variable {any skippedPrior : Bool} {first entry : PendingMessageRecord J C}
  {front after : List (PendingMessageRecord J C)}

lemma takenFrom_cons : TakenFrom boundary currentRunId any skippedPrior (first :: front) entry ↔
    Passes boundary currentRunId first ∧ TakenFrom boundary currentRunId
      (any || eligibleForFreeze first boundary currentRunId)
      (skippedPrior || !eligibleForFreeze first boundary currentRunId) front entry := by
  constructor
  · intro h
    have hpassed := List.forall_mem_cons.mp h.passed
    refine ⟨hpassed.1, hpassed.2, h.eligible, fun hbarrier => ?_, fun hone => ?_⟩
    · obtain ⟨hskipped, hall⟩ := h.barrier hbarrier
      rw [List.forall_mem_cons] at hall
      exact ⟨by rw [hskipped, hall.1]; rfl, hall.2⟩
    · obtain ⟨hany, hall⟩ := h.single hone
      rw [List.forall_mem_cons] at hall
      exact ⟨by rw [hany, hall.1]; rfl, hall.2⟩
  · rintro ⟨hfirst, h⟩
    refine ⟨List.forall_mem_cons.mpr ⟨hfirst, h.passed⟩, h.eligible, fun hbarrier => ?_,
      fun hone => ?_⟩
    · obtain ⟨hskipped, hall⟩ := h.barrier hbarrier
      rw [Bool.or_eq_false_iff, Bool.not_eq_false'] at hskipped
      exact ⟨hskipped.1, List.forall_mem_cons.mpr ⟨hskipped.2, hall⟩⟩
    · obtain ⟨hany, hall⟩ := h.single hone
      rw [Bool.or_eq_false_iff] at hany
      exact ⟨hany.1, List.forall_mem_cons.mpr ⟨hany.2, hall⟩⟩

def AllTaken (boundary : DeliveryBoundary) (currentRunId : Option String) (any skippedPrior : Bool)
    (after : List (PendingMessageRecord J C)) (P : PendingMessageRecord J C → Prop) : Prop :=
  ∀ front later back, after = front ++ later :: back →
    TakenFrom boundary currentRunId any skippedPrior front later → P later

variable {P : PendingMessageRecord J C → Prop}

lemma allTaken_cons : AllTaken boundary currentRunId any skippedPrior (first :: after) P ↔
    (TakenFrom boundary currentRunId any skippedPrior [] first → P first) ∧
      (Passes boundary currentRunId first → AllTaken boundary currentRunId
        (any || eligibleForFreeze first boundary currentRunId)
        (skippedPrior || !eligibleForFreeze first boundary currentRunId) after P) := by
  constructor
  · intro h
    refine ⟨h [] first after rfl, fun hpass front later back heq htaken => ?_⟩
    exact h (first :: front) later back (congrArg (first :: ·) heq)
      (takenFrom_cons.mpr ⟨hpass, htaken⟩)
  · rintro ⟨hfirst, hrest⟩ front later back heq htaken
    cases front with
    | nil =>
      obtain ⟨rfl, rfl⟩ := List.cons.inj heq
      exact hfirst htaken
    | cons other front =>
      obtain ⟨rfl, hback⟩ := List.cons.inj heq
      obtain ⟨hpass, htaken⟩ := takenFrom_cons.mp htaken
      exact hrest hpass front later back hback htaken

lemma pickFrom_of_passes (h : Passes boundary currentRunId first) :
    pickFrom boundary currentRunId any skippedPrior (first :: after) =
      (if eligibleForFreeze first boundary currentRunId then [first] else []) ++
        pickFrom boundary currentRunId (any || eligibleForFreeze first boundary currentRunId)
          (skippedPrior || !eligibleForFreeze first boundary currentRunId) after := by
  obtain ⟨hbarrier, hrest⟩ := h
  rw [pickFrom]
  cases heligible : eligibleForFreeze first boundary currentRunId with
  | true =>
    rw [heligible, if_pos rfl] at hrest
    simp [hbarrier, hrest]
  | false =>
    rw [heligible, if_neg Bool.false_ne_true] at hrest
    simp [hbarrier, hrest]

lemma pickFrom_of_not_passes (h : ¬Passes boundary currentRunId first) :
    pickFrom boundary currentRunId any skippedPrior (first :: after) =
      pickFrom boundary currentRunId any skippedPrior [first] := by
  rw [pickFrom, pickFrom]
  cases heligible : eligibleForFreeze first boundary currentRunId with
  | true =>
    have hstops : first.deliveryMode.barrier = true ∨ first.deliveryMode.granularity = .one := by
      by_contra hnone
      rw [not_or, Bool.not_eq_true] at hnone
      exact h ⟨hnone.1, by rw [heligible, if_pos rfl]; exact hnone.2⟩
    rcases hstops with hstops | hstops <;> simp [hstops]
  | false =>
    have hstops : first.deliveryMode.barrier = true ∨
        canSkipIneligible first boundary = false := by
      by_contra hnone
      rw [not_or, Bool.not_eq_true, Bool.not_eq_false] at hnone
      exact h ⟨hnone.1, by rw [heligible, if_neg Bool.false_ne_true]; exact hnone.2⟩
    rcases hstops with hstops | hstops <;> simp [hstops]

lemma takenFrom_nil : TakenFrom boundary currentRunId any skippedPrior [] first ↔
    eligibleForFreeze first boundary currentRunId = true ∧
      (first.deliveryMode.barrier = true → skippedPrior = false) ∧
      (first.deliveryMode.granularity = .one → any = false) := by
  constructor
  · exact fun h => ⟨h.eligible, fun hb => (h.barrier hb).1, fun ho => (h.single ho).1⟩
  · rintro ⟨heligible, hbarrier, hone⟩
    have hnone : ∀ {p : PendingMessageRecord J C → Prop}, ∀ other ∈ [], p other :=
      fun _ hmem => absurd hmem List.not_mem_nil
    exact ⟨hnone, heligible, fun hb => ⟨hbarrier hb, hnone⟩, fun ho => ⟨hone ho, hnone⟩⟩

lemma pickFrom_taken (h : TakenFrom boundary currentRunId any skippedPrior [] first) :
    pickFrom boundary currentRunId any skippedPrior [first] = [first] := by
  obtain ⟨heligible, hbarrier, hone⟩ := takenFrom_nil.mp h
  rw [pickFrom, heligible]
  cases hb : first.deliveryMode.barrier <;> cases ho : first.deliveryMode.granularity <;>
    simp_all [pickFrom]

lemma pickFrom_not_taken (h : ¬TakenFrom boundary currentRunId any skippedPrior [] first) :
    pickFrom boundary currentRunId any skippedPrior [first] = [] := by
  rw [takenFrom_nil] at h
  rw [pickFrom]
  cases heligible : eligibleForFreeze first boundary currentRunId with
  | false => simp [pickFrom]
  | true =>
    rw [heligible] at h
    cases hb : first.deliveryMode.barrier <;> cases ho : first.deliveryMode.granularity <;>
      simp_all

lemma pickFrom_eq_nil : pickFrom boundary currentRunId any skippedPrior after = [] ↔
    AllTaken boundary currentRunId any skippedPrior after (fun _ => False) := by
  induction after generalizing any skippedPrior with
  | nil => exact ⟨fun _ front later back heq => by simp at heq, fun _ => rfl⟩
  | cons first after ih =>
    rw [allTaken_cons]
    by_cases hpass : Passes boundary currentRunId first
    · rw [pickFrom_of_passes hpass, List.append_eq_nil_iff, ih]
      have hfirst : (if eligibleForFreeze first boundary currentRunId then [first] else []) = [] ↔
          ¬TakenFrom boundary currentRunId any skippedPrior [] first := by
        rw [takenFrom_nil, hpass.1]
        cases heligible : eligibleForFreeze first boundary currentRunId with
        | false => simp
        | true =>
          have hrest := hpass.2
          rw [heligible, if_pos rfl] at hrest
          simp [hrest]
      rw [hfirst]
      exact ⟨fun h => ⟨h.1, fun _ => h.2⟩, fun h => ⟨h.1, h.2 hpass⟩⟩
    · rw [pickFrom_of_not_passes hpass]
      by_cases htaken : TakenFrom boundary currentRunId any skippedPrior [] first
      · rw [pickFrom_taken htaken]
        exact ⟨nofun, fun h => absurd (h.1 htaken) id⟩
      · rw [pickFrom_not_taken htaken]
        exact ⟨fun _ => ⟨htaken, fun h => absurd h hpass⟩, fun _ => rfl⟩

lemma pickFrom_skipped_iff : pickFrom boundary currentRunId any true after =
    pickFrom boundary currentRunId any skippedPrior after ↔
      AllTaken boundary currentRunId any skippedPrior after (·.deliveryMode.barrier = false) := by
  induction after generalizing any skippedPrior with
  | nil => exact ⟨fun _ front later back heq => by simp at heq, fun _ => rfl⟩
  | cons first after ih =>
    rw [allTaken_cons]
    by_cases hpass : Passes boundary currentRunId first
    · rw [pickFrom_of_passes hpass, @pickFrom_of_passes _ _ _ _ any skippedPrior _ _ hpass, List.append_cancel_left_eq,
        Bool.true_or, ih]
      exact ⟨fun h => ⟨fun _ => hpass.1, fun _ => h⟩, fun h => h.2 hpass⟩
    · rw [pickFrom_of_not_passes hpass, @pickFrom_of_not_passes _ _ _ _ any skippedPrior _ _ hpass]
      have hskipped : TakenFrom boundary currentRunId any true [] first ↔
          TakenFrom boundary currentRunId any skippedPrior [] first ∧
            first.deliveryMode.barrier = false := by
        rw [takenFrom_nil, takenFrom_nil]
        cases hb : first.deliveryMode.barrier <;> simp
      by_cases htaken : TakenFrom boundary currentRunId any skippedPrior [] first
      · rw [pickFrom_taken htaken]
        by_cases hb : first.deliveryMode.barrier = false
        · rw [pickFrom_taken (hskipped.mpr ⟨htaken, hb⟩)]
          exact ⟨fun _ => ⟨fun _ => hb, fun h => absurd h hpass⟩, fun _ => rfl⟩
        · rw [pickFrom_not_taken (fun h => hb (hskipped.mp h).2)]
          exact ⟨nofun, fun h => absurd (h.1 htaken) hb⟩
      · rw [pickFrom_not_taken htaken, pickFrom_not_taken (fun h => htaken (hskipped.mp h).1)]
        exact ⟨fun _ => ⟨fun h => absurd h htaken, fun h => absurd h hpass⟩, fun _ => rfl⟩

end Taken

lemma pickFrom_removed_iff (h : Undeliverable entry currentRunId)
    (before after : List (PendingMessageRecord J C)) (any skippedPrior : Bool) :
    pickFrom boundary currentRunId any skippedPrior (before ++ entry :: after) =
        pickFrom boundary currentRunId any skippedPrior (before ++ after) ↔
      ∀ front later back, after = front ++ later :: back →
        TakenFrom boundary currentRunId any skippedPrior (before ++ front) later →
          InOtherLane entry boundary ∧ later.deliveryMode.barrier = false := by
  induction before generalizing any skippedPrior with
  | nil =>
    rw [List.nil_append, List.nil_append, pickFrom, h.not_eligible, h.barrier]
    by_cases hlane : InOtherLane entry boundary
    · rw [h.canSkip_iff.mpr hlane]
      refine pickFrom_skipped_iff.trans ⟨fun hall front later back heq htaken => ?_,
        fun hall front later back heq htaken => (hall front later back heq htaken).2⟩
      exact ⟨hlane, hall front later back heq htaken⟩
    · rw [show canSkipIneligible entry boundary = false from
        Bool.not_eq_true _ ▸ fun hskip => hlane (h.canSkip_iff.mp hskip)]
      refine (Iff.trans ⟨Eq.symm, Eq.symm⟩ pickFrom_eq_nil).trans
        ⟨fun hall front later back heq htaken => (hall front later back heq htaken).elim,
          fun hall front later back heq htaken => hlane (hall front later back heq htaken).1⟩
  | cons first before ih =>
    rw [List.cons_append, List.cons_append]
    by_cases hpass : Passes boundary currentRunId first
    · rw [pickFrom_of_passes hpass, pickFrom_of_passes hpass, List.append_cancel_left_eq, ih]
      simp only [List.cons_append, takenFrom_cons, hpass, true_and]
    · rw [pickFrom_of_not_passes hpass, @pickFrom_of_not_passes _ _ _ _ any skippedPrior _
        (before ++ after) hpass]
      exact ⟨fun _ front later back _ htaken => absurd (takenFrom_cons.mp htaken).1 hpass,
        fun _ => rfl⟩

/-- The freeze selects the same without the undeliverable entry if and only if each entry behind it
that would be taken without it is no barrier, and there is one only where the entry is in the other
lane: there it is passed over, up to the first barrier behind it. In its own lane the scan stops at
it. -/
theorem undeliverable_selection (before after : List (PendingMessageRecord J C))
    (h : Undeliverable entry currentRunId) :
    (pickedForFreeze (before ++ entry :: after) boundary currentRunId =
        pickedForFreeze (before ++ after) boundary currentRunId ↔
      ∀ front later back, after = front ++ later :: back →
        Taken boundary currentRunId (before ++ front) later →
          InOtherLane entry boundary ∧ later.deliveryMode.barrier = false) ∧
    (InOtherLane entry boundary →
      pickedForFreeze (before ++ entry :: after) boundary currentRunId =
        pickedForFreeze (before ++ untilBarrier after) boundary currentRunId) ∧
    (InOtherLane entry boundary → (∀ later ∈ after, later.deliveryMode.barrier = false) →
      pickedForFreeze (before ++ entry :: after) boundary currentRunId =
        pickedForFreeze (before ++ after) boundary currentRunId) ∧
    (¬ InOtherLane entry boundary →
      pickedForFreeze (before ++ entry :: after) boundary currentRunId =
        pickedForFreeze before boundary currentRunId) := by
  simp only [pickedForFreeze_eq]
  have hiff := @pickFrom_removed_iff _ _ boundary _ _ h before after false false
  refine ⟨hiff, fun hlane => ?_, fun hlane hnone => hiff.mpr fun front later back heq _ => ?_,
    fun hlane => ?_⟩
  · exact pickFrom_passed_over h.not_eligible h.barrier (h.canSkip_iff.mpr hlane) _ _ _ _
  · exact ⟨hlane, hnone later (by rw [heq]; simp)⟩
  · refine pickFrom_stopped h.not_eligible ?_ _ _ _ _
    rw [← Bool.not_eq_true, h.canSkip_iff]
    exact hlane

section Steering

def steer (id runId : String) : PendingMessageRecord Unit Unit where
  pendingId := id
  threadId := "thread"
  position := 1
  message := ⟨some id, .user, [], none, none, .all, none⟩
  revision := 1
  deliveryMode := ⟨.nextStep, .batch, false, some runId, false⟩
  createdAt := none
  updatedAt := none

def queued (id : String) : PendingMessageRecord Unit Unit :=
  { steer id "run" with deliveryMode := ⟨.newRun, .batch, false, none, true⟩ }

theorem undeliverable_selection_steer :
    pickedForFreeze ([queued "m1"] ++ steer "m2" "old" :: [queued "m3"]) .newRun none =
        pickedForFreeze ([queued "m1"] ++ [queued "m3"]) .newRun none ∧
      pickedForFreeze ([] ++ steer "m1" "old" :: [steer "m2" "run"]) .nextStep (some "run") ≠
        pickedForFreeze ([] ++ [steer "m2" "run"]) .nextStep (some "run") := by
  have hother : ∀ id currentRunId, currentRunId ≠ some "old" →
      Undeliverable (steer id "old") currentRunId :=
    fun _ _ hne => ⟨rfl, ⟨"old", rfl, hne⟩, rfl⟩
  constructor
  · refine (undeliverable_selection [queued "m1"] [queued "m3"] (hother "m2" none nofun)).1.mpr
      fun front later back heq _ => ?_
    have hlater : later = queued "m3" := List.mem_singleton.mp (heq ▸ by simp)
    rw [hlater]
    exact ⟨by unfold InOtherLane; decide, rfl⟩
  · intro hsame
    have htaken : Taken .nextStep (some "run") ([] ++ []) (steer "m2" "run") :=
      takenFrom_nil.mpr (by decide)
    have hlane := ((undeliverable_selection [] [steer "m2" "run"]
      (hother "m1" (some "run") (by decide))).1.mp hsame [] _ [] rfl htaken).1
    exact absurd (hlane.mpr (by decide)) (by decide)

theorem steer_stops_step :
    ¬ ∀ (before after : List (PendingMessageRecord Unit Unit))
      (entry : PendingMessageRecord Unit Unit) (boundary : DeliveryBoundary)
      (currentRunId : Option String), Undeliverable entry currentRunId →
        pickedForFreeze (before ++ entry :: after) boundary currentRunId =
          pickedForFreeze (before ++ after) boundary currentRunId := by
  intro hall
  have hsame := hall [] [steer "m2" "run"] (steer "m1" "old") .nextStep (some "run")
    ⟨rfl, ⟨"old", rfl, by decide⟩, rfl⟩
  have hnone : pickedForFreeze ([] ++ steer "m1" "old" :: [steer "m2" "run"]) .nextStep
      (some "run") = [] := by decide
  have hsome : pickedForFreeze ([] ++ [steer "m2" "run"]) .nextStep (some "run") =
      [steer "m2" "run"] := by decide
  rw [hnone, hsome] at hsame
  cases hsame

end Steering

end Awaken.Contract
