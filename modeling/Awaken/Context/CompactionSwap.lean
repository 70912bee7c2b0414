import Awaken.Context.Compaction

namespace Awaken.Context

open Awaken.Lib Awaken.Contract
open Awaken.Agent.LoopState (Role Visibility)

variable {J B : Type}

/-- A result behind the cut is of a call in front of it: the call is not made again in between. -/
def AnsweredBehind (front behind : List (ChatMessage J B)) (id : String) : Prop :=
  (∃ call ∈ front, call.Calls id) ∧ ∃ between result after,
    behind = between ++ result :: after ∧ result.Answers id ∧ ∀ m ∈ between, ¬m.Calls id

def latestUser (messages : List (ChatMessage J B)) : Option (ChatMessage J B) :=
  messages.reverse.find? visibleUser

structure Swaps (messages appended : List (ChatMessage J B)) (plan : CompactionPlan)
    (front : List (ChatMessage J B)) (boundary : ChatMessage J B) (back : List (ChatMessage J B)) :
    Prop where
  planned : messages = front ++ boundary :: back
  boundaryId : boundary.id = some plan.boundaryMessageId
  transcript : plan.transcript = renderTranscript (front ++ [boundary])
  preTokens : plan.preTokens = estimateTokens (front ++ [boundary])
  replaces : ∀ messageId summaryText, ∃ applied,
    applySummary messageId (messages ++ appended) plan.boundaryMessageId summaryText =
      some (applied, summaryMessage messageId summaryText :: (back ++ appended))
  paired : ∀ id, ¬AnsweredBehind (front ++ [boundary]) (back ++ appended) id
  keepsUser : latestUser (back ++ appended) = latestUser (messages ++ appended)

def StillOpen (messages : List (ChatMessage J B)) (id : String) : Prop :=
  ∃ before call after, messages = before ++ call :: after ∧ id ∈ madeCalls call ∧
    ∀ m ∈ call :: after, ¬m.Answers id

def SafeCut (openCalls : List String) (front rest : List (ChatMessage J B)) : Prop :=
  (front.foldl openStep openCalls).isEmpty ∧ rest.head?.any isTool = false

def NoCut (openCalls : List String) (skipped kept : List (ChatMessage J B)) : Prop :=
  ∀ before m after, skipped = before ++ m :: after → ¬SafeCut openCalls (before ++ [m]) (after ++ kept)

/-- A place where a compaction may be planned: the last safe one in front of a kept part that holds
the latest visible message of the user. -/
structure MayCut (messages front : List (ChatMessage J B)) (boundary : ChatMessage J B)
    (back : List (ChatMessage J B)) : Prop where
  split : messages = front ++ boundary :: back
  answered : ∀ id, ¬StillOpen (front ++ [boundary]) id
  next : back.head?.any isTool = false
  hasId : ∃ id, boundary.id = some id
  gain : minCompactionGainTokens ≤ estimateTokens (front ++ [boundary])
  speaks : (renderTranscript (front ++ [boundary])).isEmpty = false
  last : ∃ skipped kept, back = skipped ++ kept ∧ front ++ skipped ≠ [] ∧ NoCut [] skipped kept ∧
    ((∃ m ∈ front ++ boundary :: skipped, visibleUser m) → ∃ m ∈ kept, visibleUser m)
  readable : ∃ previousSummary, extractPreviousSummary messages = .ok previousSummary

section OpenCalls

lemma mem_openStep {openCalls : List String} {msg : ChatMessage J B} {id : String} :
    id ∈ openStep openCalls msg ↔ (id ∈ madeCalls msg ∨ id ∈ openCalls) ∧ ¬msg.Answers id := by
  unfold openStep Message.Answers
  split
  · rename_i callId hrole hid
    simp only [List.mem_filter, List.mem_append, decide_eq_true_eq, hrole, hid, true_and,
      Option.some.injEq]
    exact and_congr_right fun _ => not_congr eq_comm
  · rename_i hne
    rw [List.mem_append]
    refine (and_iff_left fun h => ?_).symm
    exact hne id h.1 h.2

lemma stillOpen_concat {messages : List (ChatMessage J B)} {msg : ChatMessage J B} {id : String} :
    StillOpen (messages ++ [msg]) id ↔
      (id ∈ madeCalls msg ∨ StillOpen messages id) ∧ ¬msg.Answers id := by
  constructor
  · rintro ⟨before, call, after, heq, hmade, hopen⟩
    rcases List.eq_nil_or_concat after with rfl | ⟨rest, last, rfl⟩
    · obtain ⟨-, hlast⟩ := List.append_inj' heq rfl
      obtain rfl := List.singleton_inj.mp hlast
      exact ⟨.inl hmade, hopen msg List.mem_cons_self⟩
    · rw [List.concat_eq_append] at heq hopen
      rw [← List.cons_append, ← List.append_assoc] at heq
      obtain ⟨rfl, hlast⟩ := List.append_inj' heq rfl
      obtain rfl := List.singleton_inj.mp hlast
      rw [← List.cons_append] at hopen
      exact ⟨.inr ⟨before, call, rest, rfl, hmade, fun m hm => hopen m (List.mem_append_left _ hm)⟩,
        hopen msg (List.mem_append_right _ List.mem_cons_self)⟩
  · rintro ⟨hmade | ⟨before, call, after, rfl, hmade, hopen⟩, hanswers⟩
    · exact ⟨messages, msg, [], rfl, hmade, by simpa using hanswers⟩
    · refine ⟨before, call, after ++ [msg], by simp, hmade, fun m hm => ?_⟩
      rw [← List.cons_append, List.mem_append, List.mem_singleton] at hm
      rcases hm with hm | rfl
      · exact hopen m hm
      · exact hanswers

lemma mem_openCalls {messages : List (ChatMessage J B)} {id : String} :
    id ∈ messages.foldl openStep [] ↔ StillOpen messages id := by
  induction messages using List.reverseRecOn with
  | nil =>
    refine ⟨fun h => (List.not_mem_nil h).elim, ?_⟩
    rintro ⟨before, call, after, heq, -⟩
    simp at heq
  | append_singleton messages msg ih =>
    rw [List.foldl_append, List.foldl_cons, List.foldl_nil, mem_openStep, ih, stillOpen_concat]

end OpenCalls

section Scan

variable {messages front skipped kept : List (ChatMessage J B)} {m : ChatMessage J B}
  {openCalls : List String} {best : Option Nat} {idx : Nat}

lemma noCut_cons (hhere : ¬SafeCut openCalls [m] (skipped ++ kept))
    (h : NoCut (openStep openCalls m) skipped kept) : NoCut openCalls (m :: skipped) kept := by
  intro before x after heq
  cases before with
  | nil =>
    obtain ⟨rfl, rfl⟩ := List.cons.inj heq
    exact hhere
  | cons y before =>
    obtain ⟨rfl, hrest⟩ := List.cons.inj heq
    exact h before x after hrest

lemma here_iff {rest : List (ChatMessage J B)} :
    ((openStep openCalls m).isEmpty && !(rest.head?.any isTool)) = true ↔
      SafeCut openCalls [m] rest := by
  rw [Bool.and_eq_true, Bool.not_eq_true']
  rfl

lemma boundaryLoop_sound {count boundary : Nat} (hcount : count ≤ messages.length)
    (h : boundaryLoop messages count idx openCalls best = some boundary) :
    (best = some boundary ∧ NoCut openCalls (messages.take count) (messages.drop count)) ∨
      ∃ front m skipped kept, messages = front ++ m :: (skipped ++ kept) ∧
        count = front.length + 1 + skipped.length ∧ boundary = idx + front.length ∧
        SafeCut openCalls (front ++ [m]) (skipped ++ kept) ∧
        NoCut ((front ++ [m]).foldl openStep openCalls) skipped kept := by
  induction messages generalizing count idx openCalls best with
  | nil =>
    obtain rfl : count = 0 := by simpa using hcount
    refine .inl ⟨by simpa [boundaryLoop] using h, fun before m after heq => ?_⟩
    simp at heq
  | cons msg messages ih =>
    cases count with
    | zero =>
      refine .inl ⟨by simpa [boundaryLoop] using h, fun before m after heq => ?_⟩
      simp at heq
    | succ count =>
      rw [boundaryLoop] at h
      rcases ih (Nat.le_of_succ_le_succ hcount) h with
        ⟨hbest, hno⟩ | ⟨front, m, skipped, kept, rfl, rfl, rfl, hsafe, hno⟩
      · split at hbest
        · rename_i hhere
          have hsafe := (here_iff).mp hhere
          refine .inr ⟨[], msg, messages.take count, messages.drop count, ?_, ?_,
            (Option.some.inj hbest).symm, ?_, hno⟩
          · rw [List.take_append_drop, List.nil_append]
          · have hlen := List.length_take_of_le (Nat.le_of_succ_le_succ hcount)
            rw [hlen, List.length_nil]
            omega
          · rw [List.take_append_drop]
            exact hsafe
        · rename_i hhere
          refine .inl ⟨hbest, noCut_cons (fun hsafe => hhere (here_iff.mpr ?_)) hno⟩
          rwa [List.drop_succ_cons, List.take_append_drop] at hsafe
      · exact .inr ⟨msg :: front, m, skipped, kept, rfl, by rw [List.length_cons]; omega, by
          rw [List.length_cons]; omega, hsafe, hno⟩

lemma boundaryLoop_skips (h : NoCut openCalls skipped kept) :
    boundaryLoop (skipped ++ kept) skipped.length idx openCalls best = best := by
  induction skipped generalizing idx openCalls with
  | nil => cases kept <;> rfl
  | cons msg skipped ih =>
    have hhere : ¬((openStep openCalls msg).isEmpty && !((skipped ++ kept).head?.any isTool)) :=
      fun hhere => h [] msg skipped rfl (here_iff.mp hhere)
    rw [List.cons_append, List.length_cons, boundaryLoop, if_neg hhere]
    exact ih (fun before m after heq => h (msg :: before) m after (congrArg (msg :: ·) heq))

lemma boundaryLoop_reaches (h : SafeCut openCalls (front ++ [m]) (skipped ++ kept))
    (hno : NoCut ((front ++ [m]).foldl openStep openCalls) skipped kept) :
    boundaryLoop (front ++ m :: (skipped ++ kept)) (front.length + 1 + skipped.length) idx openCalls
      best = some (idx + front.length) := by
  induction front generalizing idx openCalls best with
  | nil =>
    have hno : NoCut (openStep openCalls m) skipped kept := hno
    rw [List.nil_append, List.length_nil, Nat.zero_add, Nat.add_comm, boundaryLoop,
      if_pos (here_iff.mpr h), boundaryLoop_skips hno]
    rfl
  | cons msg front ih =>
    have hcount : (msg :: front).length + 1 + skipped.length =
        front.length + 1 + skipped.length + 1 := by
      rw [List.length_cons]
      omega
    rw [List.cons_append, hcount, boundaryLoop, ih h hno, List.length_cons]
    congr 1
    omega

end Scan

section Suffix

variable {α : Type} {p : α → Bool}

lemma isSome_rposition {l : List α} : (rposition p l).isSome ↔ ∃ a ∈ l, p a := by
  induction l with
  | nil => simp [rposition]
  | cons a l ih =>
    rw [rposition, List.exists_mem_cons_iff, ← ih]
    cases rposition p l with
    | some idx => simp
    | none => cases p a <;> simp

lemma rposition_lt {l : List α} {idx : Nat} (h : rposition p l = some idx) : idx < l.length := by
  induction l generalizing idx with
  | nil => cases h
  | cons a l ih =>
    rw [rposition] at h
    split at h
    · rename_i i hi
      have hlt := ih hi
      obtain rfl := Option.some.inj h
      exact Nat.succ_lt_succ hlt
    · split at h
      · obtain rfl := Option.some.inj h
        exact Nat.succ_pos _
      · cases h

lemma rposition_append (front back : List α) : rposition p (front ++ back) =
    ((rposition p back).map (front.length + ·)).or (rposition p front) := by
  induction front with
  | nil => cases h : rposition p back <;> simp [h, rposition]
  | cons a front ih =>
    rw [List.cons_append, rposition, ih]
    cases h : rposition p back with
    | none => simp [rposition]
    | some idx => simp; omega

end Suffix

lemma latestUserSuffix_le {front back : List (ChatMessage J B)} :
    latestUserSuffix (front ++ back) ≤ back.length ↔
      ((∃ m ∈ front, visibleUser m) → ∃ m ∈ back, visibleUser m) := by
  rw [← isSome_rposition, ← isSome_rposition, latestUserSuffix, rposition_append,
    List.length_append]
  cases rposition visibleUser back with
  | some idx =>
    simp only [Option.map_some, Option.some_or, Option.isSome_some, implies_true, iff_true]
    omega
  | none =>
    cases hfront : rposition visibleUser front with
    | some idx =>
      have hlt := rposition_lt hfront
      simp only [Option.map_none, Option.none_or, Option.isSome_some, Option.isSome_none,
        Bool.false_eq_true, imp_false, not_true_eq_false, iff_false]
      omega
    | none => simp

lemma keepSuffix_bounds (messages : List (ChatMessage J B)) (policy : CompactionPolicy) :
    latestUserSuffix messages ≤ compactionKeepSuffix messages policy ∧
      compactionKeepSuffix messages policy ≤ messages.length := by
  have hsuffix : latestUserSuffix messages ≤ messages.length := by
    unfold latestUserSuffix
    split <;> omega
  exact ⟨Nat.le_min.mpr ⟨Nat.le_max_right _ _, hsuffix⟩, Nat.min_le_right _ _⟩

lemma latestUser_append {front back : List (ChatMessage J B)}
    (h : (∃ m ∈ front, visibleUser m) → ∃ m ∈ back, visibleUser m) :
    latestUser (front ++ back) = latestUser back := by
  unfold latestUser
  rw [List.reverse_append, List.find?_append]
  cases hback : back.reverse.find? visibleUser with
  | some m => rfl
  | none =>
    rw [Option.none_or, List.find?_eq_none]
    intro m hm hvisible
    obtain ⟨u, hu, huser⟩ := h ⟨m, List.mem_reverse.mp hm, hvisible⟩
    exact List.find?_eq_none.mp hback u (List.mem_reverse.mpr hu) huser

section Plan

variable {messages front back : List (ChatMessage J B)} {boundary : ChatMessage J B}
  {plan : CompactionPlan}

lemma safeCut_iff : SafeCut [] (front ++ [boundary]) back ↔
    (∀ id, ¬StillOpen (front ++ [boundary]) id) ∧ back.head?.any isTool = false := by
  rw [SafeCut, List.isEmpty_iff, List.eq_nil_iff_forall_not_mem]
  simp only [mem_openCalls]

lemma mem_cut {m : ChatMessage J B} (h : m ∈ front ++ [boundary]) (back : List (ChatMessage J B)) :
    m ∈ front ++ boundary :: back := by
  rw [← List.singleton_append, ← List.append_assoc]
  exact List.mem_append_left _ h

lemma take_cut (front : List (ChatMessage J B)) (boundary : ChatMessage J B)
    (back : List (ChatMessage J B)) :
    (front ++ boundary :: back).take (front.length + 1) = front ++ [boundary] := by
  simp [List.take_append, List.take_of_length_le]

lemma map_eq_ok {α β : Type} {f : α → β} {o : Outcome Empty α} {b : β} (h : o.map f = .ok b) :
    ∃ a, o = .ok a ∧ f a = b := by
  cases o with
  | ok a => exact ⟨a, rfl, Outcome.ok.inj h⟩
  | err e => exact e.elim
  | panic => cases h

lemma plan_cuts {policy : CompactionPolicy}
    (h : planCompaction messages policy = .ok (some plan)) :
    ∃ front boundary back, MayCut messages front boundary back ∧
      boundary.id = some plan.boundaryMessageId ∧
      plan.transcript = renderTranscript (front ++ [boundary]) ∧
      plan.preTokens = estimateTokens (front ++ [boundary]) := by
  rw [planCompaction] at h
  split at h
  · cases h
  dsimp only at h
  split at h
  · cases h
  rename_i hend
  split at h
  · cases h
  rename_i idx hfind
  split at h
  · cases h
  rename_i messageId hid
  split at h
  · cases h
  rename_i hgain
  split at h
  · cases h
  rename_i hspeaks
  obtain ⟨previousSummary, hread, hplan⟩ := map_eq_ok h
  obtain rfl := Option.some.inj hplan
  rcases boundaryLoop_sound (by simp) hfind with
    ⟨hbest, -⟩ | ⟨front, boundary, skipped, kept, hsplit, hcount, rfl, hsafe, hno⟩
  · cases hbest
  rw [List.drop_zero] at hsplit
  subst hsplit
  have hboundary : boundary.id = some messageId := by simpa using hid
  have htake := take_cut front boundary (skipped ++ kept)
  rw [Nat.zero_add, htake] at hgain hspeaks
  obtain ⟨hanswered, hnext⟩ := (safeCut_iff).mp hsafe
  refine ⟨front, boundary, skipped ++ kept, ⟨rfl, hanswered, hnext, ⟨messageId, hboundary⟩,
    Nat.le_of_not_lt hgain, by simpa using hspeaks, ⟨skipped, kept, rfl, ?_, ?_, ?_⟩,
    ⟨previousSummary, hread⟩⟩, hboundary, ?_, ?_⟩
  · intro hnil
    have hlen := congrArg List.length hnil
    rw [List.length_append, List.length_nil] at hlen
    omega
  · rwa [List.isEmpty_iff.mp hsafe.1] at hno
  · refine (latestUserSuffix_le).mp ?_
    rw [List.append_assoc, List.cons_append]
    have hkeep := keepSuffix_bounds (front ++ boundary :: (skipped ++ kept)) policy
    have hlen : (front ++ boundary :: (skipped ++ kept)).length =
        front.length + 1 + skipped.length + kept.length := by
      simp only [List.length_append, List.length_cons]
      omega
    omega
  · rw [Nat.zero_add, htake]
  · rw [Nat.zero_add, htake]

lemma plans_cut (h : MayCut messages front boundary back) :
    ∃ policy plan, planCompaction messages policy = .ok (some plan) ∧
      boundary.id = some plan.boundaryMessageId := by
  obtain ⟨previousSummary, hread⟩ := h.readable
  obtain ⟨messageId, hid⟩ := h.hasId
  obtain ⟨skipped, kept, rfl, hmany, hno, huser⟩ := h.last
  have hsplit := h.split
  subst hsplit
  have hlen : 1 ≤ front.length + skipped.length := by
    rw [← List.length_append]
    exact List.length_pos_iff.mpr hmany
  have hkeep : compactionKeepSuffix (front ++ boundary :: (skipped ++ kept))
      ⟨⟨0, 0, 0⟩, .keepRecentRawSuffix, kept.length⟩ = kept.length := by
    have hsuffix := (latestUserSuffix_le).mpr huser
    rw [List.append_assoc, List.cons_append] at hsuffix
    simp only [compactionKeepSuffix, List.length_append, List.length_cons]
    omega
  have hend : (front ++ boundary :: (skipped ++ kept)).length - kept.length =
      front.length + 1 + skipped.length := by
    simp only [List.length_append, List.length_cons]
    omega
  have hsafe := (safeCut_iff).mpr ⟨h.answered, h.next⟩
  have hfind : findCompactionBoundary (front ++ boundary :: (skipped ++ kept)) 0
      (front.length + 1 + skipped.length) = some front.length := by
    have hloop : boundaryLoop (front ++ boundary :: (skipped ++ kept))
        (front.length + 1 + skipped.length) 0 [] none = some (0 + front.length) :=
      boundaryLoop_reaches hsafe (by rwa [List.isEmpty_iff.mp hsafe.1])
    rwa [Nat.zero_add] at hloop
  refine ⟨⟨⟨0, 0, 0⟩, .keepRecentRawSuffix, kept.length⟩,
    ⟨renderTranscript (front ++ [boundary]), previousSummary, messageId,
      estimateTokens (front ++ [boundary])⟩, ?_, hid⟩
  have hget : (front ++ boundary :: (skipped ++ kept))[front.length]?.bind (·.id) =
      some messageId := by simpa using hid
  rw [planCompaction, if_neg (by simp only [List.length_append, List.length_cons]; omega)]
  dsimp only
  rw [hkeep, hend, if_neg (by omega), hfind]
  dsimp only
  rw [hget]
  dsimp only
  rw [take_cut, if_neg (Nat.not_lt_of_le h.gain), if_neg (by rw [h.speaks]; exact Bool.false_ne_true),
    hread]
  rfl

end Plan

section Ids

variable {front back : List (ChatMessage J B)} {boundary : ChatMessage J B} {id : String}

lemma position_of_unique (hids : ((front ++ boundary :: back).filterMap (·.id)).Nodup)
    (hid : boundary.id = some id) (appended : List (ChatMessage J B)) :
    (front ++ boundary :: back ++ appended).findIdx? (·.id = some id) = some front.length := by
  rw [List.append_assoc, List.cons_append, List.findIdx?_append, List.findIdx?_cons]
  have hnone : front.findIdx? (·.id = some id) = none := by
    rw [List.findIdx?_eq_none_iff]
    intro m hm
    rw [decide_eq_false_iff_not]
    intro hsame
    rw [List.filterMap_append, List.filterMap_cons, hid] at hids
    exact List.disjoint_of_nodup_append hids (List.mem_filterMap.mpr ⟨m, hm, hsame⟩)
      List.mem_cons_self
  rw [hnone, hid]
  simp

lemma cut_unique {front' back' : List (ChatMessage J B)} {boundary' : ChatMessage J B}
    (hids : ((front ++ boundary :: back).filterMap (·.id)).Nodup)
    (heq : front ++ boundary :: back = front' ++ boundary' :: back')
    (hid : boundary.id = some id) (hid' : boundary'.id = some id) :
    front = front' ∧ boundary = boundary' ∧ back = back' := by
  have hpos := position_of_unique hids hid []
  rw [heq] at hids hpos
  have hlen := Option.some.inj (hpos.symm.trans (position_of_unique hids hid' []))
  obtain ⟨hfront, hrest⟩ := List.append_inj heq hlen
  exact ⟨hfront, List.cons.inj hrest⟩

lemma apply_replaces (hids : ((front ++ boundary :: back).filterMap (·.id)).Nodup)
    (hid : boundary.id = some id) (appended : List (ChatMessage J B))
    (messageId summaryText : String) :
    ∃ applied, applySummary messageId (front ++ boundary :: back ++ appended) id summaryText =
      some (applied, summaryMessage messageId summaryText :: (back ++ appended)) := by
  rw [applySummary, position_of_unique hids hid appended, Option.map_some]
  have hdrop : (front ++ boundary :: back ++ appended).drop (front.length + 1) =
      back ++ appended := by simp
  refine ⟨_, congrArg some (Prod.ext rfl ?_)⟩
  exact congrArg (summaryMessage messageId summaryText :: ·) hdrop

end Ids

theorem swaps_iff (messages appended : List (ChatMessage J B))
    (hids : (messages.filterMap (·.id)).Nodup) :
    (∀ policy plan, planCompaction messages policy = .ok (some plan) →
      ∃ front boundary back, Swaps messages appended plan front boundary back) ↔
      ∀ front boundary back, MayCut messages front boundary back →
        ∀ id, ¬AnsweredBehind (front ++ [boundary]) (back ++ appended) id := by
  constructor
  · intro h front boundary back hcut
    obtain ⟨policy, plan, hplan, hid⟩ := plans_cut hcut
    obtain ⟨front', boundary', back', hswaps⟩ := h policy plan hplan
    have heq := hcut.split.symm.trans hswaps.planned
    rw [hcut.split] at hids
    obtain ⟨rfl, rfl, rfl⟩ := cut_unique hids heq hid hswaps.boundaryId
    exact hswaps.paired
  · intro h policy plan hplan
    obtain ⟨front, boundary, back, hcut, hid, htranscript, htokens⟩ := plan_cuts hplan
    have hsplit := hcut.split
    subst hsplit
    refine ⟨front, boundary, back, rfl, hid, htranscript, htokens,
      apply_replaces hids hid appended, h front boundary back hcut, ?_⟩
    have hwhole : front ++ boundary :: back ++ appended =
        (front ++ [boundary]) ++ (back ++ appended) := by simp
    rw [hwhole]
    refine (latestUser_append ?_).symm
    rintro ⟨m, hm, hvisible⟩
    obtain ⟨skipped, kept, rfl, -, -, huser⟩ := hcut.last
    obtain ⟨u, hu, huvisible⟩ := huser ⟨m, mem_cut hm skipped, hvisible⟩
    exact ⟨u, List.mem_append_left _ (List.mem_append_right _ hu), huvisible⟩

def userMessage (id : String) (content : List (ContentBlock Unit)) : ChatMessage Unit Unit where
  id := some id
  role := .user
  content := content
  toolCalls := none
  toolCallId := none
  visibility := .all
  metadata := none

def defaultCompactionPolicy : CompactionPolicy := ⟨⟨200000, 16384, 10⟩, .keepRecentRawSuffix, 2⟩

def answeredMessages : List (ChatMessage Unit Unit) :=
  [userMessage "m1" (.text "clean up" :: List.replicate 100 (.other ())),
    .assistantWithToolCalls "m2" (.text "") [⟨"c1", "remove", ()⟩], .tool "m3" "c1" (.text "removed"),
    userMessage "m4" [.text "and report"], .assistantWithToolCalls "m5" (.text "the report") []]

def answeredLater : List (ChatMessage Unit Unit) :=
  [.assistantWithToolCalls "m6" (.text "") [⟨"c2", "send", ()⟩], .tool "m7" "c2" (.text "sent")]

def answeredPlan : CompactionPlan where
  transcript := "[User]: clean up\n\n[Tool]: removed"
  previousSummary := none
  boundaryMessageId := "m3"
  preTokens := 1265

theorem swaps_iff_answered : ∃ front boundary back,
    Swaps answeredMessages answeredLater answeredPlan front boundary back := by
  refine (swaps_iff answeredMessages answeredLater (by decide)).mpr ?_ defaultCompactionPolicy
    answeredPlan rfl
  rintro front boundary back hcut id ⟨⟨call, hcall, -, calls, hsome, hid⟩,
    between, result, after, hbehind, hanswers, -⟩
  -- behind the places where no call is open there is no result of a call in front of them
  have hplaces : ∀ k < 5, (answeredMessages.take (k + 1)).foldl openStep [] = [] →
      ∀ call ∈ answeredMessages.take (k + 1),
        ∀ result ∈ answeredMessages.drop (k + 1) ++ answeredLater,
          ∀ id ∈ madeCalls call, result.toolCallId ≠ some id := by
    decide
  have hsplit : answeredMessages = (front ++ [boundary]) ++ back := by
    rw [hcut.split, List.append_assoc, List.singleton_append]
  have hlength : (front ++ [boundary]).length = front.length + 1 := List.length_append
  have hfront : answeredMessages.take (front.length + 1) = front ++ [boundary] := by
    rw [hsplit, ← hlength, List.take_left]
  have hback : answeredMessages.drop (front.length + 1) = back := by
    rw [hsplit, ← hlength, List.drop_left]
  have hplace : front.length < 5 := by
    have hall := congrArg List.length hsplit
    rw [List.length_append, hlength] at hall
    change 5 = _ at hall
    omega
  have hclosed : (front ++ [boundary]).foldl openStep [] = [] :=
    List.eq_nil_iff_forall_not_mem.mpr (fun id hid => hcut.answered id ((mem_openCalls).mp hid))
  have hnot := hplaces front.length hplace
  rw [hfront, hback] at hnot
  refine hnot hclosed call hcall result ?_ id ?_ hanswers.2
  · rw [hbehind]
    exact List.mem_append_right _ List.mem_cons_self
  · rw [madeCalls, hsome]
    exact hid

section Resumed

def suspendedFront : List (ChatMessage Unit Unit) :=
  [userMessage "m1" (.text "clean up" :: List.replicate 100 (.other ())),
    .assistantWithToolCalls "m2" (.text "") [⟨"c1", "remove", ()⟩]]

def suspendedResult : ChatMessage Unit Unit := .tool "m3" "c1" (.text "waiting for approval")

def laterMessages : List (ChatMessage Unit Unit) :=
  [userMessage "m4" [.text "what next"], .assistantWithToolCalls "m5" (.text "the report") []]

def suspendedHistory : List (ChatMessage Unit Unit) :=
  suspendedFront ++ suspendedResult :: laterMessages

def suspendedPlan : CompactionPlan where
  transcript := "[User]: clean up\n\n[Tool]: waiting for approval"
  previousSummary := none
  boundaryMessageId := "m3"
  preTokens := 1269

theorem late_result_loses_call : (suspendedHistory.filterMap (·.id)).Nodup ∧
    planCompaction suspendedHistory defaultCompactionPolicy = .ok (some suspendedPlan) ∧
    ¬∃ front boundary back, Swaps suspendedHistory [.tool "m6" "c1" (.text "removed")] suspendedPlan
      front boundary back := by
  have hids : (suspendedHistory.filterMap (·.id)).Nodup := by decide
  refine ⟨hids, rfl, ?_⟩
  rintro ⟨front, boundary, back, hswaps⟩
  have hid : suspendedResult.id = some suspendedPlan.boundaryMessageId := rfl
  obtain ⟨rfl, rfl, rfl⟩ := cut_unique hids hswaps.planned hid hswaps.boundaryId
  refine hswaps.paired "c1" ⟨⟨_, List.mem_append_left _ (List.mem_cons_of_mem _ List.mem_cons_self),
    rfl, _, rfl, List.mem_cons_self⟩, laterMessages, _, [], rfl, ⟨rfl, rfl⟩, ?_⟩
  intro m hm hcalls
  obtain ⟨calls, hsome, -⟩ := hcalls.2
  have hnone : ∀ m ∈ laterMessages, m.toolCalls = none := by decide
  rw [hnone m hm] at hsome
  cases hsome

end Resumed

end Awaken.Context
