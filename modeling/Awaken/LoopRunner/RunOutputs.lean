import Awaken.LoopRunner.TrackedOutputs

namespace Awaken.LoopRunner

open Awaken.Lib Awaken.Contract Awaken.Contract.MessageAppend Awaken.Context

variable {J B : Type}

section Steps

variable {identity : RunIdentity} {isSummaryText : List (ContentBlock B) → Bool}
  {earlier : List String} {s : RunHistory J B} {messages : List (ChatMessage J B)}

lemma append_producedIds (produced : Bool) :
    (s.append messages produced).producedIds =
      s.producedIds ++ if produced then messageIds messages else [] := by
  have hentries : messageIds (((messages.map (⟨·, produced⟩ : _ → Entry J B)).filter
      (·.produced)).map (·.message)) = if produced then messageIds messages else [] := by
    cases produced with
    | true =>
      rw [List.filter_eq_self.mpr (fun e he => ?_), List.map_map]
      · exact congrArg messageIds (List.map_id messages)
      · obtain ⟨message, -, rfl⟩ := List.mem_map.mp he
        rfl
    | false =>
      rw [List.filter_eq_nil_iff.mpr (fun e he => ?_)]
      · rfl
      · obtain ⟨message, -, rfl⟩ := List.mem_map.mp he
        exact Bool.false_ne_true
  rw [← hentries, RunHistory.producedIds, RunHistory.append, List.filter_append, List.map_append,
    messageIds_append]
  rfl

lemma mem_append_history {produced : Bool} {e : Entry J B} :
    e ∈ (s.append messages produced).history ↔
      e ∈ s.history ∨ ∃ message ∈ messages, e = ⟨message, produced⟩ := by
  rw [RunHistory.append, List.mem_append]
  refine or_congr_right ?_
  rw [List.mem_map]
  exact exists_congr fun _ => and_congr_right fun _ => eq_comm

lemma append_drop (h : s.taken ≤ s.history.length) (messages : List (ChatMessage J B))
    (produced : Bool) :
    (s.append messages produced).history.drop s.taken =
      s.history.drop s.taken ++ messages.map (⟨·, produced⟩) :=
  List.drop_append_of_le_length h

lemma append_window (h : Tracked identity earlier s) {produced : Bool}
    (hapart : ∀ message ∈ s.live, ∀ id, message.id = some id →
      id ∈ (s.append messages produced).producedIds → id ∈ s.producedIds) :
    Windowed (s.append messages produced) := by
  obtain ⟨head, hlive, htaken, hlen, hhead⟩ := h.window
  refine ⟨head, ?_, htaken, hlen, fun message hmessage => ?_⟩
  · have hdrop := append_drop h.taken messages produced
    change s.live ++ messages = _ ++ List.map _ (List.drop s.taken _)
    rw [hdrop, hlive, List.map_append, List.map_map, List.append_assoc]
    exact congrArg (fun l => head ++ (_ ++ l)) (List.map_id messages).symm
  · have hold := hhead message hmessage
    have hmem : message ∈ s.live := hlive ▸ List.mem_append_left _ hmessage
    exact ⟨hold.role, hold.unmarked, fun id hid hin =>
      hold.apart id hid (hapart message hmem id hid hin)⟩

lemma append_outputs_subset (produced : Bool) {id : String} (h : id ∈ entryIds s.outputs) :
    id ∈ entryIds (s.append messages produced).outputs :=
  (entryIds_sublist ((List.sublist_append_left _ _).filter _)).subset h

lemma tracked_receive (h : Tracked identity earlier s)
    (hforeign : ∀ message ∈ messages, s.Foreign identity message) :
    Tracked identity earlier (s.append messages false) := by
  have hids : (s.append messages false).producedIds = s.producedIds := by
    rw [append_producedIds]
    exact List.append_nil _
  have hnone : (messages.map (⟨·, false⟩ : _ → Entry J B)).filter Entry.isOutput = [] := by
    refine List.filter_eq_nil_iff.mpr (fun e he => ?_)
    obtain ⟨message, -, rfl⟩ := List.mem_map.mp he
    exact Bool.false_ne_true
  have houtputs : (s.append messages false).outputs = s.outputs := by
    rw [RunHistory.outputs, RunHistory.append, List.filter_append, hnone, List.append_nil]
    rfl
  have hold : ∀ e ∈ (s.append messages false).history,
      e ∈ s.history ∨ (e.produced = false ∧ s.Foreign identity e.message) := by
    intro e he
    obtain he | ⟨message, hmessage, rfl⟩ := (mem_append_history).mp he
    · exact .inl he
    · exact .inr ⟨rfl, hforeign message hmessage⟩
  exact {
    window := append_window h (fun _ _ _ _ hin => hids ▸ hin)
    taken := h.taken.trans (List.length_append ▸ Nat.le_add_right _ _)
    produced := fun e he hproduced => by
      rcases hold e he with he | ⟨hnot, -⟩
      · exact h.produced e he hproduced
      · rw [hnot] at hproduced
        cases hproduced
    ids := hids ▸ h.ids
    apart := fun e he hproduced id hid => by
      rw [hids]
      rcases hold e he with he | ⟨-, hapart⟩
      · exact h.apart e he hproduced id hid
      · exact hapart.1 id hid
    marks := fun e he hmark id hid => by
      rcases hold e he with he | ⟨-, hapart⟩
      · exact h.marks e he hmark id hid
      · exact absurd hmark hapart.2
    marked := fun message hmessage hmark id hid => by
      rw [houtputs]
      exact h.marked message hmessage hmark id hid
    copies := fun e he => h.copies e (houtputs ▸ he)
    inTurn := by
      have hdrop : ((s.append messages false).history.drop s.taken).filter Entry.isOutput =
          (s.history.drop s.taken).filter Entry.isOutput := by
        rw [append_drop h.taken messages, List.filter_append, hnone, List.append_nil]
      exact hdrop ▸ h.inTurn
    cached := h.cached }

lemma kept_append {produced : Bool} (hkept : OutputsKept earlier s) (hopen : s.response = none)
    (hnone : (messages.map (⟨·, produced⟩ : _ → Entry J B)).filter
      (fun e => e.isOutput && e.within s.committed) = []) :
    OutputsKept earlier (s.append messages produced) := by
  refine ⟨hkept.outputs.trans ?_, fun response hresponse => ?_⟩
  · rw [RunHistory.committedOutputs, RunHistory.committedOutputs, RunHistory.append,
      List.filter_append, hnone, List.append_nil]
  · cases hopen.symm.trans hresponse

lemma kept_receive {messages : List (ChatMessage J B)} (hkept : OutputsKept earlier s)
    (hopen : s.response = none) : OutputsKept earlier (s.append messages false) := by
  refine kept_append hkept hopen (List.filter_eq_nil_iff.mpr (fun e he => ?_))
  obtain ⟨message, -, rfl⟩ := List.mem_map.mp he
  exact Bool.false_ne_true

variable (hfresh : ∀ message ∈ messages, message.metadata = none ∧
  ∃ id, message.id = some id ∧ id ∉ s.usedIds)

lemma unused {id : String} (h : id ∉ s.usedIds) :
    id ∉ messageIds s.live ∧ id ∉ entryIds s.history ∧ id ∉ messageIds s.committed ∧
      id ∉ outputIds s.stored := by
  simp only [RunHistory.usedIds, List.mem_append, not_or] at h
  exact ⟨h.1.1.1.1, h.1.1.1.2, h.1.1.2, h.1.2⟩

include hfresh in
lemma fresh_ids {id : String} (h : id ∈ messageIds messages) : id ∉ s.usedIds := by
  obtain ⟨message, hmessage, hid⟩ := mem_messageIds.mp h
  obtain ⟨-, id', hid', hunused⟩ := hfresh message hmessage
  obtain rfl := Option.some.inj (hid.symm.trans hid')
  exact hunused

include hfresh in
lemma fresh_within {e : Entry J B} (he : e ∈ messages.map (⟨·, true⟩ : _ → Entry J B)) :
    e.within s.committed = false := by
  obtain ⟨message, hmessage, rfl⟩ := List.mem_map.mp he
  obtain ⟨-, id, hid, hunused⟩ := hfresh message hmessage
  rw [← Bool.not_eq_true]
  intro hwithin
  exact (unused hunused).2.2.1 ((within_iff hid).mp hwithin)

include hfresh in
lemma tracked_produce (h : Tracked identity earlier s) (hearlier : earlier ⊆ outputIds s.stored)
    (hnodup : (messageIds messages).Nodup) : Tracked identity earlier (s.append messages true) := by
  have hids : (s.append messages true).producedIds = s.producedIds ++ messageIds messages :=
    append_producedIds true
  have hsub : ∀ id ∈ s.producedIds, id ∈ entryIds s.history := fun id hid =>
    (entryIds_sublist List.filter_sublist).subset hid
  have hnew : ∀ id, id ∈ messageIds messages → id ∉ entryIds s.history := fun id hid =>
    (unused (fresh_ids hfresh hid)).2.1
  have hold : ∀ e ∈ (s.append messages true).history,
      e ∈ s.history ∨ (e.produced = true ∧ e.message ∈ messages) := by
    intro e he
    obtain he | ⟨message, hmessage, rfl⟩ := (mem_append_history).mp he
    · exact .inl he
    · exact .inr ⟨rfl, hmessage⟩
  exact {
    window := by
      refine append_window h (fun message hmessage id hid hin => ?_)
      rw [hids, List.mem_append] at hin
      refine hin.resolve_right (fun hin => ?_)
      exact (unused (fresh_ids hfresh hin)).1 (mem_messageIds.mpr ⟨message, hmessage, hid⟩)
    taken := h.taken.trans (List.length_append ▸ Nat.le_add_right _ _)
    produced := fun e he hproduced => by
      rcases hold e he with he | ⟨-, hmessage⟩
      · exact h.produced e he hproduced
      · obtain ⟨hmetadata, id, hid, hunused⟩ := hfresh e.message hmessage
        exact ⟨hmetadata, id, hid, fun hin => (unused hunused).2.2.2 (hearlier hin)⟩
    ids := by
      rw [hids, List.nodup_append]
      refine ⟨h.ids, hnodup, ?_⟩
      rintro id hid _ hin rfl
      exact hnew id hin (hsub id hid)
    apart := fun e he hproduced id hid => by
      rw [hids, List.mem_append, not_or]
      rcases hold e he with he | ⟨hnot, -⟩
      · exact ⟨h.apart e he hproduced id hid, fun hin =>
          hnew id hin (mem_entryIds.mpr ⟨e, he, hid⟩)⟩
      · rw [hproduced] at hnot
        cases hnot
    marks := fun e he hmark id hid => by
      rcases hold e he with he | ⟨-, hmessage⟩
      · exact h.marks e he hmark id hid
      · rw [Message.producedByRunId, (hfresh e.message hmessage).1] at hmark
        cases hmark
    marked := fun message hmessage hmark id hid =>
      (h.marked message hmessage hmark id hid).imp_right (append_outputs_subset true)
    copies := fun e he message hmessage hid => by
      obtain ⟨hmem, houtput⟩ := mem_outputs.mp he
      rcases hold e hmem with hmem | ⟨-, hnewmem⟩
      · exact h.copies e (mem_outputs.mpr ⟨hmem, houtput⟩) message hmessage hid
      · obtain ⟨-, id, heid, hunused⟩ := hfresh e.message hnewmem
        exact absurd (mem_messageIds.mpr ⟨message, hmessage, hid.trans heid⟩)
          (unused hunused).2.2.1
    inTurn := by
      have hdrop := append_drop h.taken messages true
      change List.Pairwise _ ((List.drop s.taken _).filter _)
      rw [hdrop, List.filter_append, List.pairwise_append]
      refine ⟨h.inTurn, List.pairwise_of_forall_mem_list ?_, ?_⟩
      · intro e _ e' he' hwithin
        rw [show (s.append messages true).committed = s.committed from rfl,
          fresh_within hfresh (List.mem_filter.mp he').1] at hwithin
        cases hwithin
      · intro e _ e' he' hwithin
        rw [show (s.append messages true).committed = s.committed from rfl,
          fresh_within hfresh (List.mem_filter.mp he').1] at hwithin
        cases hwithin
    cached := h.cached }

include hfresh in
lemma kept_produce (hkept : OutputsKept earlier s) (hopen : s.response = none) :
    OutputsKept earlier (s.append messages true) := by
  refine kept_append hkept hopen (List.filter_eq_nil_iff.mpr (fun e he hboth => ?_))
  rw [fresh_within hfresh he, Bool.and_false] at hboth
  cases hboth

omit hfresh

lemma tracked_summarize (h : Tracked identity earlier s) {messageId boundaryMessageId summaryText : String}
    {applied : AppliedCompaction} {live : List (ChatMessage J B)} (hunused : messageId ∉ s.usedIds)
    (happlied : applySummary messageId s.live boundaryMessageId summaryText = some (applied, live)) :
    Tracked identity earlier { s with
      live := live
      taken := s.shift + applied.boundaryIndex + 1
      shift := s.shift + applied.boundaryIndex } := by
  obtain ⟨idx, hidx, heq⟩ := Option.map_eq_some_iff.mp happlied
  obtain ⟨happ, hrest⟩ := Prod.mk.inj heq
  subst happ
  dsimp only
  obtain ⟨head, hlive, htaken, hlen, -⟩ := h.window
  have hlt : idx < s.live.length := (List.findIdx?_eq_some_iff_findIdx_eq.mp hidx).1
  have hlength : s.live.length = head.length + (s.history.length - s.taken) := by
    rw [hlive, List.length_append, List.length_map, List.length_drop]
  have hle : s.taken ≤ s.shift + idx + 1 := by omega
  have hwithin := h.taken
  have hdrop : (s.history.drop (s.shift + idx + 1)).Sublist (s.history.drop s.taken) :=
    List.drop_sublist_drop_left s.history hle
  exact {
    window := by
      refine ⟨[summaryMessage messageId summaryText], ?_, rfl, Nat.le_refl 1, ?_⟩
      · dsimp only
        have htail : s.live.drop (idx + 1) =
            (s.history.drop (s.shift + idx + 1)).map (·.message) := by
          rw [hlive, List.drop_append, List.drop_eq_nil_of_le (by omega), List.nil_append,
            ← List.map_drop, List.drop_drop]
          congr 2
          omega
        rw [← hrest, htail]
        rfl
      · intro message hmessage
        obtain rfl := List.mem_singleton.mp hmessage
        refine ⟨rfl, rfl, fun id hid hin => ?_⟩
        obtain rfl := Option.some.inj hid
        exact (unused hunused).2.1 ((entryIds_sublist List.filter_sublist).subset hin)
    taken := by
      dsimp only
      omega
    produced := h.produced
    ids := h.ids
    apart := h.apart
    marks := h.marks
    marked := h.marked
    copies := h.copies
    inTurn := h.inTurn.sublist (hdrop.filter _)
    cached := h.cached }

variable {delta : List (ChatMessage J B)}

lemma within_others (h : Tracked identity earlier s)
    (hforeign : ∀ message ∈ delta, s.Foreign identity message) {e : Entry J B}
    (he : e ∈ s.outputs) : e.within (s.committed ++ delta) = e.within s.committed := by
  obtain ⟨id, hid, -⟩ := h.exists_id he
  have hnot : id ∉ messageIds delta := by
    intro hin
    obtain ⟨message, hmessage, hmid⟩ := mem_messageIds.mp hin
    exact (hforeign message hmessage).1 id hmid
      (entryIds_outputs_subset (mem_entryIds.mpr ⟨e, he, hid⟩))
  rw [Bool.eq_iff_iff, within_iff hid, within_iff hid, messageIds_append, List.mem_append]
  exact or_iff_left hnot

lemma tracked_others (h : Tracked identity earlier s)
    (hforeign : ∀ message ∈ delta, s.Foreign identity message) :
    Tracked identity earlier { s with committed := s.committed ++ delta } :=
  { h with
    window := h.window.of_log _ _
    marked := fun message hmessage hmark id hid => by
      rcases List.mem_append.mp hmessage with hmessage | hmessage
      · exact h.marked message hmessage hmark id hid
      · exact absurd hmark (hforeign message hmessage).2
    copies := fun e he message hmessage hid => by
      rcases List.mem_append.mp hmessage with hmessage | hmessage
      · exact h.copies e he message hmessage hid
      · obtain ⟨id, heid, -⟩ := h.exists_id he
        exact absurd (entryIds_outputs_subset (mem_entryIds.mpr ⟨e, he, heid⟩))
          ((hforeign message hmessage).1 id (hid.trans heid))
    inTurn := by
      have hmem : ∀ e ∈ (s.history.drop s.taken).filter Entry.isOutput, e ∈ s.outputs := fun e he =>
        mem_outputs.mpr ⟨List.mem_of_mem_drop (List.mem_filter.mp he).1, (List.mem_filter.mp he).2⟩
      refine h.inTurn.imp_of_mem (fun {e e'} he he' hturn => ?_)
      dsimp only
      rw [within_others h hforeign (hmem e he), within_others h hforeign (hmem e' he')]
      exact hturn }

lemma kept_others (h : Tracked identity earlier s) (hkept : OutputsKept earlier s)
    (hforeign : ∀ message ∈ delta, s.Foreign identity message) :
    OutputsKept earlier { s with committed := s.committed ++ delta } := by
  refine ⟨hkept.outputs.trans ?_, hkept.response⟩
  refine congrArg (earlier ++ entryIds ·) (List.filter_congr (fun e he => ?_))
  dsimp only
  cases houtput : e.isOutput with
  | false => rfl
  | true => rw [within_others h hforeign (mem_outputs.mpr ⟨he, houtput⟩)]

variable {base : RunRecord J} {stepCount : Nat} {boundaryId : Option String}

lemma appended_live {message : ChatMessage J B}
    (h : message ∈ (s.plan identity isSummaryText base stepCount boundaryId).messageDelta) :
    ∃ i live stepIndex, s.live[i]? = some live ∧ IsNew s.committed live = true ∧
      message.id = live.id ∧
      message.producedByRunId = (markedMessage identity s.committed (outputIds s.previous)
        s.inputMessageCount stepIndex i live).producedByRunId := by
  obtain ⟨appended, happended, hid, hmark⟩ := mem_stampCompactionMarks h
  obtain ⟨i, live, stepIndex, hlive, hnew, rfl⟩ := mem_materializeCheckpointAppend happended
  exact ⟨i, live, stepIndex, hlive, hnew, by rw [hid, markedMessage_id], hmark⟩

lemma tracked_checkpoint (h : Tracked identity earlier s) (hseparated : Separated s)
    (hkept : outputIds s.stored = earlier ++ s.committedOutputs) :
    Tracked identity earlier
      (s.checkpointed identity isSummaryText base stepCount boundaryId) := by
  have hearlier : earlier ⊆ outputIds s.previous := by
    rcases previous_ids h hkept with ⟨-, heq⟩ | heq
    · exact heq ▸ List.Subset.refl _
    · exact heq ▸ List.subset_append_left _ _
  have hlisted : ∀ id ∈ outputIds s.previous, id ∈ earlier ∨ id ∈ entryIds s.outputs := by
    intro id hid
    rcases previous_ids h hkept with ⟨-, heq⟩ | heq
    · exact .inl (heq ▸ hid)
    · rw [heq, List.mem_append] at hid
      refine hid.imp_right (fun hin => ?_)
      obtain ⟨e, he, heid⟩ := mem_entryIds.mp hin
      obtain ⟨hmem, hboth⟩ := List.mem_filter.mp he
      exact mem_entryIds.mpr
        ⟨e, mem_outputs.mpr ⟨hmem, (Bool.and_eq_true _ _ ▸ hboth).1⟩, heid⟩
  obtain ⟨head, hlive, htaken, hlen, hhead⟩ := h.window
  exact { h with
    window := h.window.of_log _ _
    marked := fun message hmessage hmark id hid => by
      rcases List.mem_append.mp hmessage with hmessage | hmessage
      · exact h.marked message hmessage hmark id hid
      · obtain ⟨i, live, stepIndex, hget, -, hsame, hmarked⟩ := appended_live hmessage
        by_cases hin : id ∈ outputIds s.previous
        · exact hlisted id hin
        · have hrecorded := markedMessage_marked (hmarked ▸ hmark)
          have hlid : live.id = some id := hsame ▸ hid
          obtain hmem | ⟨index, e, he, rfl, hbehind, hindex⟩ := getElem?_live hlive htaken hget
          · rw [recordedAt_head h hearlier (hhead live hmem) hlid hin] at hrecorded
            cases hrecorded
          · have hat := recordedAt_live h hseparated hearlier he hbehind (by omega) hlid hin
            rw [show index - s.shift = i from by omega, hrecorded] at hat
            exact .inr (mem_entryIds.mpr
              ⟨e, mem_outputs.mpr ⟨List.mem_of_getElem? he, hat.symm⟩, hlid⟩)
    copies := fun e he message hmessage hid => by
      rcases List.mem_append.mp hmessage with hmessage | hmessage
      · exact h.copies e he message hmessage hid
      · obtain ⟨i, live, stepIndex, hget, hnew, hsame, hmarked⟩ := appended_live hmessage
        obtain ⟨id, heid, -⟩ := h.exists_id he
        obtain hmem | ⟨index, e', he', rfl, hbehind, hindex⟩ := getElem?_live hlive htaken hget
        · exact absurd (entryIds_outputs_subset (mem_entryIds.mpr ⟨e, he, heid⟩))
            ((hhead live hmem).apart id (hsame ▸ hid.trans heid))
        · obtain rfl := h.eq_output he (List.mem_of_getElem? he') (hsame ▸ hid)
          obtain ⟨hmem, houtput⟩ := mem_outputs.mp he
          obtain ⟨hproduced, hkind⟩ := Bool.and_eq_true _ _ ▸ houtput
          have hat := (hseparated.new index e' he' hbehind hnew hkind).mpr hproduced
          have hnumber : i ≥ s.inputMessageCount := by omega
          rw [hmarked]
          exact markedMessage_of_new (by simp [newOutputAt, hnew, hkind, hnumber])
            (h.produced e' hmem hproduced).1
    inTurn := by
      refine List.pairwise_of_forall_mem_list (fun e he _ _ _ => ?_)
      obtain ⟨hmem, houtput⟩ := List.mem_filter.mp he
      obtain ⟨id, hid, -⟩ := h.exists_id (mem_outputs.mpr ⟨List.mem_of_mem_drop hmem, houtput⟩)
      exact (within_iff hid).mpr (mem_plan_ids.mpr (.inr (h.live_of_drop hmem hid))) }

lemma reverse_find?_eq {α : Type} (p : α → Bool) (l : List α) :
    l.reverse.find? p = (l.filter p).getLast? := by
  rw [← List.head?_filter, List.filter_reverse, List.head?_reverse]

lemma latestRunResponse_eq (h : Windowed s) :
    latestRunResponse s.live s.inputMessageCount =
      ((s.standing.filter (fun e => isAssistant e.message)).getLast?.map
        (extractText ·.message.content)).getD "" := by
  obtain ⟨head, hlive, htaken, -, hhead⟩ := h
  have hnone : (head.drop s.inputMessageCount).filter isAssistant = [] := by
    refine List.filter_eq_nil_iff.mpr (fun message hmessage => ?_)
    simp [isAssistant, (hhead message (List.mem_of_mem_drop hmessage)).role]
  have hdrop : s.standing =
      (s.history.drop s.taken).drop (s.inputMessageCount - head.length) := by
    rw [RunHistory.standing, List.drop_drop]
    congr 1
    omega
  have hsame : (s.live.drop s.inputMessageCount).filter isAssistant =
      (s.standing.filter (fun e => isAssistant e.message)).map (·.message) := by
    rw [hlive, List.drop_append, List.filter_append, hnone, List.nil_append, ← List.map_drop, ← hdrop,
      List.filter_map]
    rfl
  rw [latestRunResponse, reverse_find?_eq, hsame, List.getLast?_map, Option.map_map]
  rfl

lemma response_kept (h : Windowed s) (hanswerable : Answerable s) :
    latestRunResponse s.live s.inputMessageCount = s.lastAnswer := by
  rw [latestRunResponse_eq h, RunHistory.lastAnswer]
  have hanswers : s.standing.filter Entry.isAnswer =
      (s.standing.filter (fun e => isAssistant e.message)).filter (·.produced) := by
    rw [List.filter_filter]
    rfl
  cases hlast : (s.standing.filter (fun e => isAssistant e.message)).getLast? with
  | none =>
    rw [List.getLast?_eq_none_iff] at hlast
    cases hanswer : (s.history.filter Entry.isAnswer).getLast? with
    | none => rfl
    | some e =>
      rcases hanswerable.last e hanswer with hstands | hempty
      · have hassistant := (List.mem_filter.mp (List.mem_of_getLast? hanswer)).2
        have hin : e ∈ s.standing.filter (fun e => isAssistant e.message) :=
          List.mem_filter.mpr ⟨hstands, (Bool.and_eq_true _ _ ▸ hassistant).2⟩
        rw [hlast] at hin
        cases hin
      · exact hempty.symm
  | some e =>
    have hown := hanswerable.own e hlast
    obtain ⟨front, hfront⟩ := List.getLast?_eq_some_iff.mp hlast
    have hhistory : s.history.filter Entry.isAnswer =
        ((s.history.take (max s.taken (s.inputMessageCount + s.shift))).filter Entry.isAnswer ++
          front.filter (·.produced)) ++ [e] := by
      have hone : [e].filter (·.produced) = [e] := List.filter_cons_of_pos hown
      conv_lhs => rw [← List.take_append_drop (max s.taken (s.inputMessageCount + s.shift)) s.history]
      rw [List.filter_append, List.append_assoc]
      refine congrArg₂ (· ++ ·) rfl ?_
      exact hanswers.trans (by rw [hfront, List.filter_append, hone])
    rw [hhistory, List.getLast?_concat]

end Steps

section Runs

variable {identity : RunIdentity} {isSummaryText : List (ContentBlock B) → Bool}
  {earlier : List String} {s s' : RunHistory J B}

lemma tracked_begins (h : Begins identity s) : Tracked identity (outputIds s.stored) s := by
  obtain ⟨cached, hstart⟩ := h.start
  have hmarked := h.marked
  generalize s.live = messages at hstart hmarked
  generalize s.committed = committed at hstart hmarked
  generalize hstored : s.stored = stored at hstart hmarked ⊢
  subst hstart
  have hnone : (messages.map (⟨·, false⟩ : _ → Entry J B)).filter (·.produced) = [] := by
    refine List.filter_eq_nil_iff.mpr (fun e he => ?_)
    obtain ⟨message, -, rfl⟩ := List.mem_map.mp he
    exact Bool.false_ne_true
  have hids : (RunHistory.begin messages committed stored cached).producedIds = [] :=
    congrArg (fun l => messageIds (List.map Entry.message l)) hnone
  have houtputs : (RunHistory.begin messages committed stored cached).outputs = [] :=
    List.sublist_nil.mp (hnone ▸ outputs_sublist_produced)
  exact {
    window := by
      refine ⟨[], ?_, rfl, Nat.zero_le 1, fun message hmessage => by cases hmessage⟩
      change messages = List.map _ (List.map _ messages)
      rw [List.map_map]
      exact (List.map_id messages).symm
    taken := Nat.zero_le _
    produced := fun e he hproduced => by
      obtain ⟨message, -, rfl⟩ := List.mem_map.mp he
      cases hproduced
    ids := hids ▸ List.nodup_nil
    apart := fun e he hproduced id hid => by
      rw [hids]
      exact List.not_mem_nil
    marks := fun e he hmark id hid => by
      obtain ⟨message, hmessage, rfl⟩ := List.mem_map.mp he
      exact hmarked message (List.mem_append_left _ hmessage) hmark id hid
    marked := fun message hmessage hmark id hid =>
      .inl (hmarked message (List.mem_append_right _ hmessage) hmark id hid)
    copies := fun e he => by
      rw [houtputs] at he
      cases he
    inTurn := by
      have hwindow : ((RunHistory.begin messages committed stored cached).history.drop 0).filter
          Entry.isOutput = [] := houtputs
      exact hwindow ▸ .nil
    cached := fun hcached => by
      cases cached with
      | true => rfl
      | false => cases hcached }

lemma kept_begins (h : Begins identity s) : OutputsKept (outputIds s.stored) s := by
  obtain ⟨cached, hstart⟩ := h.start
  have hempty : s.committedOutputs = [] := by
    rw [hstart]
    refine congrArg entryIds (List.filter_eq_nil_iff.mpr (fun e he => ?_))
    obtain ⟨message, -, rfl⟩ := List.mem_map.mp he
    exact Bool.false_ne_true
  refine ⟨by rw [hempty, List.append_nil], fun response hresponse => ?_⟩
  rw [hstart] at hresponse
  cases hresponse

lemma step_kept {τ : Transition (RunHistory J B) (RunEvent J B)}
    (hstep : RunStep identity isSummaryText τ.pre τ.label τ.post) (hspared : SummariesSpare τ)
    (h : Tracked identity earlier τ.pre ∧ OutputsKept earlier τ.pre) :
    Tracked identity earlier τ.post ∧ OutputsKept earlier τ.post := by
  obtain ⟨htracked, hkept⟩ := h
  obtain ⟨pre, label, post⟩ := τ
  dsimp only at hstep htracked hkept ⊢
  cases hstep with
  | receive hopen hforeign => exact ⟨tracked_receive htracked hforeign, kept_receive hkept hopen⟩
  | produce hopen hnodup hfresh =>
    have hearlier : earlier ⊆ outputIds pre.stored :=
      hkept.outputs ▸ List.subset_append_left _ _
    exact ⟨tracked_produce hfresh htracked hearlier hnodup, kept_produce hfresh hkept hopen⟩
  | summarize hopen hunused happlied =>
    refine ⟨tracked_summarize htracked hunused happlied, hkept.outputs, fun response hresponse => ?_⟩
    cases hopen.symm.trans hresponse
  | others hforeign => exact ⟨tracked_others htracked hforeign, kept_others htracked hkept hforeign⟩
  | checkpoint haccepted =>
    have hseparated := hspared.1 _ _ _ rfl
    exact ⟨tracked_checkpoint htracked hseparated hkept.outputs,
      checkpointed_kept htracked hseparated hkept.outputs, hkept.response⟩
  | respond hopen =>
    refine ⟨{ htracked with window := ?_ }, hkept.outputs, fun response hresponse => ?_⟩
    · obtain ⟨head, hlive, htaken, hlen, hhead⟩ := htracked.window
      exact ⟨head, hlive, htaken, hlen, fun message hmessage =>
        ⟨(hhead message hmessage).role, (hhead message hmessage).unmarked,
          (hhead message hmessage).apart⟩⟩
    · obtain rfl := Option.some.inj hresponse
      exact response_kept htracked.window (hspared.2 rfl)

/-- A run whose summaries spare its outputs ends with all of them recorded and the last of its
answers as its response. -/
theorem outputs_kept {tr : List (Transition (RunHistory J B) (RunEvent J B))}
    (hbegins : Begins identity s) (h : Run (RunStep identity isSummaryText) s tr s')
    (hspared : ∀ τ ∈ tr, SummariesSpare τ) : OutputsKept (outputIds s.stored) s' :=
  (Run.invariant
    (I := fun s => Tracked identity (outputIds _) s ∧ OutputsKept (outputIds _) s)
    (fun _ hstep hspares hkept => step_kept hstep hspares hkept) h hspared
    ⟨tracked_begins hbegins, kept_begins hbegins⟩).1.2

end Runs

section Summarized

def summarizedIdentity : RunIdentity := ⟨"thread", "run"⟩

def inputMessage (id : String) : ChatMessage Unit Unit :=
  ⟨some id, .user, [.text id], none, none, .all, none⟩

def answerMessage (id : String) : ChatMessage Unit Unit :=
  .assistantWithToolCalls id (.text id) []

abbrev SummarizedStep := RunStep (J := Unit) (B := Unit) summarizedIdentity fun _ => false

def RunHistory.answer (s : RunHistory Unit Unit) (id : String) : RunHistory Unit Unit :=
  (s.append [answerMessage id] true).checkpointed summarizedIdentity (fun _ => false) .default 1 none

def RunHistory.summarized (s : RunHistory Unit Unit) (boundary : Nat) : RunHistory Unit Unit :=
  { s with
    live := summaryMessage "summary" "text" :: s.live.drop (boundary + 1)
    taken := s.shift + boundary + 1
    shift := s.shift + boundary }

def RunHistory.responded (s : RunHistory Unit Unit) : RunHistory Unit Unit :=
  { s with response := some (latestRunResponse s.live s.inputMessageCount) }

def shortHistory : RunHistory Unit Unit :=
  .begin [inputMessage "input"] [inputMessage "input"] none false

lemma begins_shortHistory : Begins summarizedIdentity shortHistory := by
  refine ⟨⟨false, rfl⟩, fun message hmessage hmark => ?_⟩
  have hinput : ∀ message ∈ [inputMessage "input"] ++ [inputMessage "input"],
      message.producedByRunId = none := by decide
  rw [hinput message hmessage] at hmark
  cases hmark

lemma summarized_step {s : RunHistory Unit Unit} {id : String} {boundary : Nat}
    (hopen : s.response = none) (hunused : "summary" ∉ s.usedIds)
    (hat : s.live.findIdx? (·.id = some id) = some boundary) :
    SummarizedStep s (.summarize "summary" id "text") (s.summarized boundary) := by
  have happlied : applySummary "summary" s.live id "text" =
      some (⟨boundary, estimateTokens (s.live.take (boundary + 1)),
        estimateMessageTokens (summaryMessage (J := Unit) (B := Unit) "summary" "text")⟩,
        (s.summarized boundary).live) := by
    rw [applySummary, hat]
    rfl
  exact .summarize hopen hunused happlied

lemma answer_step {s : RunHistory Unit Unit} {id : String} (hopen : s.response = none)
    (hunused : id ∉ s.usedIds) :
    SummarizedStep s (.produce [answerMessage id]) (s.append [answerMessage id] true) := by
  refine .produce hopen (List.nodup_singleton id) (fun message hmessage => ?_)
  obtain rfl := List.mem_singleton.mp hmessage
  exact ⟨rfl, id, rfl, hunused⟩

lemma run_shortHistory :
    Run SummarizedStep shortHistory
      [⟨shortHistory, .summarize "summary" "input" "text", shortHistory.summarized 0⟩,
        ⟨shortHistory.summarized 0, .produce [answerMessage "answer"],
          (shortHistory.summarized 0).append [answerMessage "answer"] true⟩,
        ⟨(shortHistory.summarized 0).append [answerMessage "answer"] true,
          .checkpoint .default 1 none, (shortHistory.summarized 0).answer "answer"⟩,
        ⟨(shortHistory.summarized 0).answer "answer", .respond,
          ((shortHistory.summarized 0).answer "answer").responded⟩]
      ((shortHistory.summarized 0).answer "answer").responded :=
  .cons (summarized_step rfl (by decide) rfl) (.cons (answer_step rfl (by decide))
    (.cons (.checkpoint rfl) (.cons (.respond rfl) (.nil _))))

lemma spared_shortHistory :
    Separated ((shortHistory.summarized 0).append [answerMessage "answer"] true) ∧
      Answerable ((shortHistory.summarized 0).answer "answer") := by
  refine ⟨⟨fun index e he htaken _ _ => ?_, fun hcached => by cases hcached⟩,
    ⟨fun e he => ?_, fun e he => .inl ?_⟩⟩
  · change 1 ≤ index at htaken
    rcases index with _ | _ | index
    · cases htaken
    · obtain rfl := Option.some.inj he
      decide
    · cases he
  · obtain rfl := Option.some.inj he
    rfl
  · obtain rfl := Option.some.inj he
    exact List.mem_singleton_self _

theorem outputs_kept_shortHistory :
    OutputsKept [] ((shortHistory.summarized 0).answer "answer").responded := by
  refine outputs_kept begins_shortHistory run_shortHistory (fun τ hτ => ?_)
  simp only [List.mem_cons, List.not_mem_nil, or_false] at hτ
  obtain rfl | rfl | rfl | rfl := hτ
  · exact ⟨fun _ _ _ h => (by cases h), fun h => (by cases h)⟩
  · exact ⟨fun _ _ _ h => (by cases h), fun h => (by cases h)⟩
  · exact ⟨fun _ _ _ _ => (spared_shortHistory).1, fun h => (by cases h)⟩
  · exact ⟨fun _ _ _ h => (by cases h), fun _ => (spared_shortHistory).2⟩

def longHistory : RunHistory Unit Unit :=
  .begin (["first", "second", "third", "fourth"].map inputMessage)
    (["first", "second", "third", "fourth"].map inputMessage) none false

lemma begins_longHistory : Begins summarizedIdentity longHistory := by
  refine ⟨⟨false, rfl⟩, fun message hmessage hmark => ?_⟩
  have hinput : ∀ message ∈ longHistory.live ++ longHistory.committed,
      message.producedByRunId = none := by decide
  rw [hinput message hmessage] at hmark
  cases hmark

theorem last_answer_hidden :
    ¬ ∀ (s s' : RunHistory Unit Unit) (tr : List (Transition (RunHistory Unit Unit) (RunEvent Unit Unit))),
      Begins summarizedIdentity s → Run SummarizedStep s tr s' →
        OutputsKept (outputIds s.stored) s' := by
  intro h
  have hthird : SummarizedStep (longHistory.answer "one") (.summarize "summary" "third" "text")
      ((longHistory.answer "one").summarized 2) := summarized_step rfl (by decide) rfl
  have hrun : Run SummarizedStep longHistory _
      (((longHistory.answer "one").summarized 2).answer "two").responded :=
    .cons (answer_step rfl (by decide)) (.cons (.checkpoint rfl)
      (.cons hthird
        (.cons (answer_step rfl (by decide)) (.cons (.checkpoint rfl)
          (.cons (.respond rfl) (.nil _))))))
  have hkept := h _ _ _ begins_longHistory hrun
  have hresponse := hkept.response "" rfl
  have hoff : "" ≠ (((longHistory.answer "one").summarized 2).answer "two").responded.lastAnswer := by
    decide
  exact hoff hresponse

end Summarized

end Awaken.LoopRunner
