import Awaken.LoopRunner.StreamingAccumulator
import Awaken.Lib.Netstring

namespace Awaken.LoopRunner

open Awaken.Lib Awaken.Contract Awaken.Contract.Executor Awaken.Contract.Event

variable {U N : Type}

def textOf : List (LlmStreamEvent U) → String
  | [] => ""
  | .textDelta delta :: events => delta ++ textOf events
  | _ :: events => textOf events

def startedIds : List (LlmStreamEvent U) → List String
  | [] => []
  | .toolCallStart id _ :: events => id :: startedIds events
  | _ :: events => startedIds events

def callAfter (id : String) (known : Option (String × String)) :
    LlmStreamEvent U → Option (String × String)
  | .toolCallStart other name => if other = id then some (name, "") else known
  | .toolCallDelta other args =>
    if other = id then known.map (fun call => (call.1, call.2 ++ args)) else known
  | _ => known

def callOf (id : String) (events : List (LlmStreamEvent U)) : Partial :=
  let call := (events.foldl (callAfter id) none).getD ("", "")
  ⟨id, call.1, call.2⟩

def wholeCall (json : JsonText N) (part : Partial) : Option (ToolCall (Value N)) :=
  if part.name = "" then none
  else (json.fromText part.argsJson).bind fun arguments =>
    if isNull arguments then none else some ⟨part.id, part.name, arguments⟩

lemma complete_eq_wholeCall (json : JsonText N) (part : Partial) :
    part.complete json = wholeCall json part := by
  unfold Partial.complete wholeCall
  split
  · rfl
  · cases hparsed : json.fromText part.argsJson with
    | none => rfl
    | some arguments =>
      have hne : part.argsJson ≠ "" := by
        intro hempty
        rw [hempty, json.nonempty] at hparsed
        cases hparsed
      simp only [hne, decide_false, Bool.or_false, Option.bind_some]
      cases isNull arguments <;> rfl

def TextCut (events : List (LlmStreamEvent U)) : Prop :=
  ∃ before after, events = before ++ .contentBlockStop :: after ∧
    .contentBlockStop ∉ after ∧ textOf before ≠ "" ∧ textOf after ≠ ""

lemma textOf_append (before after : List (LlmStreamEvent U)) :
    textOf (before ++ after) = textOf before ++ textOf after := by
  induction before with
  | nil => simp [textOf]
  | cons event before ih => cases event <;> simp [textOf, ih, String.append_assoc]

lemma startedIds_append (before after : List (LlmStreamEvent U)) :
    startedIds (before ++ after) = startedIds before ++ startedIds after := by
  induction before with
  | nil => rfl
  | cons event before ih => cases event <;> simp [startedIds, ih]

namespace StreamingAccumulator

def gather (events : List (LlmStreamEvent U)) : StreamingAccumulator U :=
  events.foldl receive default

lemma gather_append (events : List (LlmStreamEvent U)) (event : LlmStreamEvent U) :
    gather (events ++ [event]) = (gather events).receive event := by
  rw [gather, List.foldl_append]
  rfl

lemma call_gather (events : List (LlmStreamEvent U)) (id : String) :
    (gather events).toolNames.get id = (events.foldl (callAfter id) none).map Prod.fst ∧
      (gather events).currentToolArgs.get id =
        (events.foldl (callAfter id) none).map Prod.snd := by
  induction events using List.reverseRecOn with
  | nil => exact ⟨rfl, rfl⟩
  | append_singleton events event ih =>
    rw [gather_append, List.foldl_append, List.foldl_cons, List.foldl_nil]
    generalize events.foldl (callAfter id) none = known at ih ⊢
    obtain ⟨hname, hargs⟩ := ih
    cases event with
    | toolCallStart other name =>
      by_cases hid : other = id
      · simp [receive, callAfter, hid, Table.get_insert]
      · simp [receive, callAfter, hid, Ne.symm hid, Table.get_insert, hname, hargs]
    | toolCallDelta other args =>
      by_cases hid : other = id
      · subst hid
        cases known <;> simp_all [receive, callAfter]
      · simp [receive, callAfter, hid, Table.get_modify_of_ne (Ne.symm hid), hname, hargs]
    | contentBlockStop =>
      rw [receive]
      split <;> exact ⟨hname, hargs⟩
    | textDelta | reasoningDelta | usage | stop => exact ⟨hname, hargs⟩

lemma toolOrder_gather (events : List (LlmStreamEvent U)) :
    (gather events).toolOrder = startedIds events := by
  induction events using List.reverseRecOn with
  | nil => rfl
  | append_singleton events event ih =>
    rw [gather_append, startedIds_append, ← ih]
    cases event with
    | toolCallStart id name => rfl
    | contentBlockStop =>
      rw [receive]
      split <;> simp [startedIds]
    | textDelta | reasoningDelta | toolCallDelta | usage | stop => simp [receive, startedIds]

lemma partials_gather (events : List (LlmStreamEvent U)) :
    (gather events).partials = (startedIds events).map (callOf · events) := by
  rw [partials, toolOrder_gather]
  refine List.map_congr_left (fun id _ => ?_)
  obtain ⟨hname, hargs⟩ := call_gather events id
  rw [hname, hargs, callOf]
  cases events.foldl (callAfter id) none <;> rfl

lemma foldl_append_text (blocks : List String) (text : String) :
    blocks.foldl (· ++ ·) text = text ++ String.join blocks := by
  rw [String.join]
  induction blocks generalizing text with
  | nil => simp
  | cons block blocks ih => rw [List.foldl_cons, List.foldl_cons, ih, ih ("" ++ block),
      String.empty_append, String.append_assoc]

lemma closedText_eq {blocks : List String} (hblocks : ∀ block ∈ blocks, block ≠ "") :
    closedText blocks = if String.join blocks = "" then none else some (String.join blocks) := by
  have hkeep : blocks.filter (· ≠ "") = blocks :=
    List.filter_eq_self.mpr (fun block hblock => by simpa using hblocks block hblock)
  rw [closedText, hkeep]
  cases blocks with
  | nil => rfl
  | cons block blocks =>
    have hne := hblocks block List.mem_cons_self
    have hjoin : String.join (block :: blocks) = block ++ String.join blocks := by
      rw [String.join, List.foldl_cons, foldl_append_text, String.empty_append]
    rw [hjoin, if_neg (by simp [hne])]
    exact congrArg some (foldl_append_text blocks block)

def TextShape (events : List (LlmStreamEvent U)) (blocks : List String) (current : String) : Prop :=
  .contentBlockStop ∉ events ∧ blocks = [] ∧ current = textOf events ∨
    ∃ before after, events = before ++ .contentBlockStop :: after ∧ .contentBlockStop ∉ after ∧
      String.join blocks = textOf before ∧ current = textOf after

lemma TextShape.whole {events : List (LlmStreamEvent U)} {blocks : List String}
    {current : String} (h : TextShape events blocks current) :
    String.join blocks ++ current = textOf events := by
  rcases h with ⟨-, hnone, hcurrent⟩ | ⟨before, after, rfl, -, hclosed, hcurrent⟩
  · rw [hnone, hcurrent]
    simp [String.join]
  · rw [hclosed, hcurrent, textOf_append]
    rfl

lemma text_gather (events : List (LlmStreamEvent U)) :
    (∀ block ∈ (gather events).contentBlocks, block ≠ "") ∧
      TextShape events (gather events).contentBlocks (gather events).currentText := by
  induction events using List.reverseRecOn with
  | nil => exact ⟨by simp [gather, default], .inl ⟨by simp, rfl, rfl⟩⟩
  | append_singleton events event ih =>
    obtain ⟨hblocks, hshape⟩ := ih
    have hwhole := hshape.whole
    have hother : event ≠ .contentBlockStop →
        ((gather events).receive event).contentBlocks = (gather events).contentBlocks ∧
        ((gather events).receive event).currentText =
          (gather events).currentText ++ textOf [event] := by
      intro hne
      cases event with
      | contentBlockStop => exact absurd rfl hne
      | textDelta | reasoningDelta | toolCallStart | toolCallDelta | usage | stop =>
        simp [receive, textOf]
    rw [gather_append]
    by_cases hstop : event = .contentBlockStop
    · subst hstop
      by_cases hempty : (gather events).currentText = ""
      · rw [receive, if_pos hempty]
        refine ⟨hblocks, .inr ⟨events, [], rfl, by simp, ?_, hempty⟩⟩
        rw [← hwhole, hempty, String.append_empty]
      · rw [receive, if_neg hempty]
        refine ⟨?_, .inr ⟨events, [], rfl, by simp, ?_, rfl⟩⟩
        · intro block hblock
          rcases List.mem_append.mp hblock with hblock | hblock
          · exact hblocks block hblock
          · exact List.mem_singleton.mp hblock ▸ hempty
        · rw [← hwhole, String.join, List.foldl_append]
          rfl
    · obtain ⟨hsame, htext⟩ := hother hstop
      rw [hsame, htext]
      refine ⟨hblocks, ?_⟩
      rcases hshape with ⟨hno, hnone, hcurrent⟩ | ⟨before, after, rfl, hno, hclosed, hcurrent⟩
      · refine .inl ⟨?_, hnone, by rw [hcurrent, textOf_append]⟩
        simp [hno, Ne.symm hstop]
      · refine .inr ⟨before, after ++ [event], by simp, ?_, hclosed, by rw [hcurrent, textOf_append]⟩
        simp [hno, Ne.symm hstop]

lemma textCut_iff {before after : List (LlmStreamEvent U)} (hno : .contentBlockStop ∉ after) :
    TextCut (before ++ .contentBlockStop :: after) ↔ textOf before ≠ "" ∧ textOf after ≠ "" := by
  constructor
  · rintro ⟨before', after', heq, hno', hbefore, hafter⟩
    have hrev := congrArg List.reverse heq
    simp only [List.reverse_append, List.reverse_cons, List.append_assoc,
      List.singleton_append] at hrev
    obtain ⟨hback, hfront⟩ := Netstring.append_sep_inj (by simpa using hno) (by simpa using hno')
      hrev
    rw [List.reverse_injective hback, List.reverse_injective hfront]
    exact ⟨hbefore, hafter⟩
  · rintro ⟨hbefore, hafter⟩
    exact ⟨before, after, rfl, hno, hbefore, hafter⟩

def textOption (text : String) : Option String := if text = "" then none else some text

lemma snapshot_text (json : JsonText N) (events : List (LlmStreamEvent U)) :
    ((gather events).interruptSnapshot json).text = textOption (textOf events) ↔
      ¬ TextCut events := by
  have htext : ((gather events).interruptSnapshot json).text =
      if (gather events).currentText = "" then closedText (gather events).contentBlocks
      else some (gather events).currentText := by
    rw [interruptSnapshot, InterruptSnapshot.fromPartials_eq]
  rw [htext]
  obtain ⟨hblocks, hshape⟩ := text_gather events
  rcases hshape with ⟨hno, hnone, hcurrent⟩ | ⟨before, after, hevents, hno, hclosed, hcurrent⟩
  · have huncut : ¬ TextCut events := by
      rintro ⟨before, after, rfl, -⟩
      exact hno (by simp)
    rw [hnone, hcurrent]
    exact iff_of_true rfl huncut
  · have hskip : textOf (.contentBlockStop :: after) = textOf after := rfl
    rw [closedText_eq hblocks, hclosed, hcurrent, hevents, textCut_iff hno, textOf_append, hskip,
      textOption]
    by_cases hafter : textOf after = ""
    · simp [hafter]
    · by_cases hbefore : textOf before = ""
      · simp [hafter, hbefore]
      · have hlonger : textOf after ≠ textOf before ++ textOf after := by
          intro heq
          have hlength := congrArg String.length heq
          rw [String.length_append, Nat.right_eq_add] at hlength
          exact hbefore (String.length_eq_zero_iff.mp hlength)
        simp [hafter, hbefore, hlonger]

lemma snapshot_text_ne (json : JsonText N) (events : List (LlmStreamEvent U)) :
    ((gather events).interruptSnapshot json).text ≠ some "" := by
  have hblocks := (text_gather events).1
  rw [interruptSnapshot, InterruptSnapshot.fromPartials_eq, closedText_eq hblocks]
  dsimp only
  split
  · split
    · simp
    · next hjoin => exact fun heq => hjoin (Option.some.inj heq)
  · next hcurrent => exact fun heq => hcurrent (Option.some.inj heq)

lemma snapshot_completed (json : JsonText N) (events : List (LlmStreamEvent U)) :
    ((gather events).interruptSnapshot json).completedToolCalls =
      ((startedIds events).map (callOf · events)).filterMap (wholeCall json) := by
  rw [interruptSnapshot, InterruptSnapshot.fromPartials_eq, partials_gather]
  exact List.filterMap_congr (fun part _ => complete_eq_wholeCall json part)

lemma complete_printed (json : ReparsedJsonText N) {part : Partial} {call : ToolCall (Value N)}
    (h : part.complete json.toJsonText = some call) :
    Partial.complete json.toJsonText ⟨call.id, call.name, json.toText call.arguments⟩ =
      some call := by
  rw [complete_eq_wholeCall] at h ⊢
  unfold wholeCall at h ⊢
  split at h
  · cases h
  · next hname =>
    obtain ⟨arguments, hparsed, hcall⟩ := Option.bind_eq_some_iff.mp h
    split at hcall
    · cases hcall
    · next hnull =>
      cases hcall
      rw [if_neg hname, json.inverse hparsed, Option.bind_some, if_neg hnull]

lemma fromPartials_printed (json : ReparsedJsonText N) (partials : List Partial)
    (text other : Option String) (received size : Nat) :
    let snapshot := InterruptSnapshot.fromPartials json.toJsonText text partials received
    let again := InterruptSnapshot.fromPartials json.toJsonText other
      (snapshot.completedToolCalls.map (fun c => ⟨c.id, c.name, json.toText c.arguments⟩) ++
        (snapshot.inFlightTool.map (fun p => ⟨p.id, p.name, p.partialArgs⟩)).toList) size
    again.completedToolCalls = snapshot.completedToolCalls ∧
      again.inFlightTool = snapshot.inFlightTool := by
  have hprinted : ∀ call ∈ partials.filterMap (Partial.complete json.toJsonText),
      Partial.complete json.toJsonText ⟨call.id, call.name, json.toText call.arguments⟩ = some call := by
    intro call hcall
    obtain ⟨part, -, hpart⟩ := List.mem_filterMap.mp hcall
    exact complete_printed json hpart
  have hcomplete : ((partials.filterMap (Partial.complete json.toJsonText)).map
      (fun c => ⟨c.id, c.name, json.toText c.arguments⟩)).filterMap (Partial.complete json.toJsonText) =
        partials.filterMap (Partial.complete json.toJsonText) := by
    rw [List.filterMap_map]
    exact (List.filterMap_congr (g := some) hprinted).trans List.filterMap_some
  have hnone : openPartials json.toJsonText ((partials.filterMap (Partial.complete json.toJsonText)).map
      (fun c => ⟨c.id, c.name, json.toText c.arguments⟩)) = [] := by
    refine List.filter_eq_nil_iff.mpr (fun part hpart => ?_)
    obtain ⟨call, hcall, rfl⟩ := List.mem_map.mp hpart
    rw [hprinted call hcall]
    simp
  simp only [InterruptSnapshot.fromPartials_eq]
  cases hlast : (openPartials json.toJsonText partials).getLast? with
  | none =>
    simp only [Option.map_none, Option.toList_none, List.append_nil, hcomplete, hnone]
    exact ⟨trivial, rfl⟩
  | some part =>
    have hopen : part.complete json.toJsonText = none := by
      have hmem := List.mem_of_getLast? hlast
      simpa using (List.mem_filter.mp hmem).2
    have hmore : openPartials json.toJsonText [part] = [part] := by simp [openPartials, hopen]
    simp only [Option.map_some, Option.toList_some, Partial.inFlight_eq]
    rw [List.filterMap_append, hcomplete, openPartials, List.filter_append]
    change _ ∧ ((openPartials json.toJsonText _ ++ openPartials json.toJsonText [part]).getLast?.map _) = _
    rw [hnone, hmore, List.filterMap_cons_none hopen]
    exact ⟨List.append_nil _, congrArg some (Partial.inFlight_eq part)⟩

lemma restore_checkpoint (json : ReparsedJsonText N) (events : List (LlmStreamEvent U))
    (upstreamModel : String) (now : Nat) (handle : CheckpointHandle) :
    let snapshot := (gather events).interruptSnapshot json.toJsonText
    let restored := ((gather events).checkpoint json.toJsonText upstreamModel now handle).restore
      json.toJsonText
    restored.text = snapshot.text ∧ restored.completedToolCalls = snapshot.completedToolCalls ∧
      restored.inFlightTool = snapshot.inFlightTool ∧ restored.plan = snapshot.plan := by
  intro snapshot restored
  obtain ⟨hcompleted, hinFlight⟩ :
      restored.completedToolCalls = snapshot.completedToolCalls ∧
        restored.inFlightTool = snapshot.inFlightTool :=
    fromPartials_printed json (gather events).partials _ _ _ _
  have htext : restored.text = snapshot.text := by
    have hrestored : restored.text = if snapshot.text.getD "" = "" then none
        else some (snapshot.text.getD "") := by
      change (InterruptSnapshot.fromPartials json.toJsonText _ _ _).text = _
      rw [InterruptSnapshot.fromPartials_eq]
      rfl
    have hne : snapshot.text ≠ some "" := snapshot_text_ne json.toJsonText events
    rw [hrestored]
    cases htext : snapshot.text with
    | none => rfl
    | some text =>
      rw [htext] at hne
      exact if_neg (fun hempty => hne (congrArg some hempty))
  refine ⟨htext, hcompleted, hinFlight, ?_⟩
  rw [InterruptSnapshot.plan, InterruptSnapshot.plan, htext, hcompleted, hinFlight]

/-- The snapshot of the events received holds all their text and the whole calls, and the one that
is restored from the checkpoint agrees with it, if and only if no text stands on both sides of the
last block stop. -/
theorem snapshot_keeps_iff (json : ReparsedJsonText N) (events : List (LlmStreamEvent U))
    (upstreamModel : String) (now : Nat) (handle : CheckpointHandle) :
    let snapshot := (gather events).interruptSnapshot json.toJsonText
    let restored := ((gather events).checkpoint json.toJsonText upstreamModel now handle).restore
      json.toJsonText
    (snapshot.text = textOption (textOf events) ∧
      snapshot.completedToolCalls =
        ((startedIds events).map (callOf · events)).filterMap (wholeCall json.toJsonText) ∧
      restored.text = snapshot.text ∧
      restored.completedToolCalls = snapshot.completedToolCalls ∧
      restored.inFlightTool = snapshot.inFlightTool ∧ restored.plan = snapshot.plan) ↔
    ¬ TextCut events := by
  intro snapshot restored
  rw [← snapshot_text json.toJsonText]
  exact and_iff_left
    ⟨snapshot_completed json.toJsonText events,
      restore_checkpoint json events upstreamModel now handle⟩

def emptyObjects : ReparsedJsonText Nat where
  toText _ := "\x7b\x7d"
  fromText text := if text = "\x7b\x7d" then some (.object []) else none
  inverse := by
    intro text value h
    split at h
    · rw [if_pos rfl]
      exact h
    · cases h
  nonempty := by decide

theorem first_block_lost :
    let events : List (LlmStreamEvent Nat) :=
      [.textDelta "Hello ", .contentBlockStop, .textDelta "world"]
    ((gather events).interruptSnapshot emptyObjects.toJsonText).text = some "world" ∧
      textOption (textOf events) = some "Hello world" := by
  decide

end StreamingAccumulator

end Awaken.LoopRunner
