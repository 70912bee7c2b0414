import Mathlib.Data.List.InsertIdx
import Mathlib.Data.List.Perm.Basic
import Awaken.Context.Transform
import Awaken.Contract.PairedCalls

namespace Awaken.Context

open Awaken.Contract
open Awaken.Agent.LoopState (Role)

variable {J B : Type}

instance (message : ChatMessage J B) (id : String) : Decidable (message.Answers id) :=
  inferInstanceAs (Decidable (_ ∧ _))

def callIds (message : ChatMessage J B) : List String :=
  if message.role = .assistant then (message.toolCalls.getD []).map (·.id) else []

def Unanswered (messages : List (ChatMessage J B)) (id : String) : Prop :=
  (∃ call ∈ messages, call.Calls id) ∧ ∀ result ∈ messages, ¬result.Answers id

structure AnsweredInPlace (messages : List (ChatMessage J B)) (id : String) : Prop where
  once : messages.countP (fun m => m.Answers id) = 1
  place : ∃ before call between result after,
    messages = before ++ call :: (between ++ result :: after) ∧ call.Calls id ∧
      result.Answers id ∧ ∀ m ∈ between, m.role ≠ .assistant

structure Repairs (messages out : List (ChatMessage J B)) : Prop where
  fills : ∀ id, Unanswered messages id → AnsweredInPlace out id
  keeps : ∀ id, (∃ result ∈ messages, result.Answers id) →
    (AnsweredInPlace out id ↔ AnsweredInPlace messages id)
  original : messages.Sublist out
  added : ∃ added, out.Perm (messages ++ added) ∧
    ∀ m ∈ added, ∃ messageId id, m = interrupted messageId id ∧ Unanswered messages id

section Calls

variable {messages : List (ChatMessage J B)} {msg : ChatMessage J B} {ids : List String}
  {id : String}

lemma mem_callIds : id ∈ callIds msg ↔ msg.Calls id := by
  unfold callIds Message.Calls
  split
  · rename_i hrole
    cases hcalls : msg.toolCalls <;> simp [hrole]
  · rename_i hrole
    simp [hrole]

lemma missingCalls_eq : missingCalls ids msg = (callIds msg).filter (fun id => decide (id ∉ ids)) := by
  unfold missingCalls callIds
  by_cases hrole : msg.role = .assistant
  · rw [if_neg (not_not_intro hrole), if_pos hrole]
  · rw [if_pos hrole, if_neg hrole, List.filter_nil]

lemma mem_missingCalls : id ∈ missingCalls ids msg ↔ msg.Calls id ∧ id ∉ ids := by
  rw [missingCalls_eq, List.mem_filter, mem_callIds, decide_eq_true_iff]

lemma missingCalls_of_tool (h : isTool msg = true) : missingCalls ids msg = [] := by
  have hrole : msg.role = .tool := of_decide_eq_true h
  rw [missingCalls, if_pos (by rw [hrole]; decide)]

lemma mem_resultIds : id ∈ resultIds messages ↔ ∃ result ∈ messages, result.Answers id := by
  rw [resultIds, List.mem_filterMap]
  constructor
  · rintro ⟨result, hmem, hid⟩
    obtain ⟨hin, htool⟩ := List.mem_filter.mp hmem
    exact ⟨result, hin, of_decide_eq_true htool, hid⟩
  · rintro ⟨result, hin, hrole, hid⟩
    exact ⟨result, List.mem_filter.mpr ⟨hin, decide_eq_true hrole⟩, hid⟩

lemma interrupted_answers {messageId callId : String} :
    (interrupted messageId callId : ChatMessage J B).Answers id ↔ callId = id := by
  simp [interrupted, Message.tool, Message.Answers]

end Calls

section Weave

variable (gen : Nat → String) (ids : List String)

def placeholders (drawn : Nat) (missing : List String) : List (ChatMessage J B) :=
  missing.zipIdx.map (fun m => interrupted (gen (drawn + m.2)) m.1)

def weave : List (ChatMessage J B) → Nat → List (ChatMessage J B) → List (ChatMessage J B)
  | pending, _, [] => pending
  | pending, drawn, msg :: rest =>
    if isTool msg then msg :: weave pending drawn rest
    else
      pending ++ msg :: weave (placeholders gen drawn (missingCalls ids msg))
        (drawn + (missingCalls ids msg).length) rest

@[simp] lemma placeholders_nil (drawn : Nat) :
    (placeholders gen drawn [] : List (ChatMessage J B)) = [] := rfl

variable (pending l : List (ChatMessage J B)) (drawn : Nat)

lemma weave_pending : weave gen ids pending drawn l =
    l.takeWhile isTool ++ (pending ++ weave gen ids [] drawn (l.dropWhile isTool)) := by
  induction l with
  | nil => simp [weave]
  | cons msg l ih =>
    rw [weave, List.takeWhile_cons, List.dropWhile_cons]
    by_cases htool : isTool msg
    · simp only [if_pos htool, List.cons_append, ih]
    · simp only [if_neg htool, List.nil_append, weave]

lemma insertIdx_front (front back : List (ChatMessage J B)) (m : ChatMessage J B) :
    (front ++ back).insertIdx front.length m = front ++ m :: back := by
  induction front with
  | nil => rfl
  | cons a front ih =>
    rw [List.cons_append, List.length_cons, List.insertIdx_succ_cons, ih, List.cons_append]

lemma insertResults_append {front back new : List (ChatMessage J B)} :
    insertResults (front ++ back) (front.length, new) = front ++ (new ++ back) := by
  have hall : ∀ (new front : List (ChatMessage J B)) (idx k : Nat), front.length = idx + k →
      (new.zipIdx k).foldl (fun messages m => messages.insertIdx (idx + m.2) m.1) (front ++ back) =
        front ++ (new ++ back) := by
    intro new
    induction new with
    | nil => exact fun _ _ _ _ => rfl
    | cons m new ih =>
      intro front idx k hlen
      have hinsert : (front ++ back).insertIdx (idx + k) m = (front ++ [m]) ++ back := by
        rw [← hlen, insertIdx_front, List.append_assoc, List.singleton_append]
      rw [List.zipIdx_cons, List.foldl_cons, hinsert, ih (front ++ [m]) idx (k + 1) (by simp; omega)]
      simp
  have hmin : min front.length (front ++ back).length = front.length := by simp
  rw [insertResults]
  simp only [hmin]
  exact hall new front front.length 0 rfl

lemma insertions_weave (messages before rest : List (ChatMessage J B)) (i : Nat)
    (hwhole : messages = before ++ rest) (hi : before.length = i) :
    (insertions gen messages ids rest i drawn).reverse.foldl insertResults (before ++ rest) =
      before ++ weave gen ids [] drawn rest := by
  induction rest generalizing before i drawn with
  | nil => rfl
  | cons msg rest ih =>
    have hnext := fun d => ih d (before ++ [msg]) (i + 1) (by rw [hwhole]; simp) (by simp [hi])
    have hdrop : messages.drop (i + 1) = rest := by
      rw [hwhole, ← hi, ← List.drop_drop, List.drop_left]
      rfl
    have hweave : weave gen ids [] drawn (msg :: rest) =
        msg :: weave gen ids (placeholders gen drawn (missingCalls ids msg))
          (drawn + (missingCalls ids msg).length) rest := by
      rw [weave]
      split
      · rename_i htool
        rw [missingCalls_of_tool htool]
        rfl
      · rfl
    rw [hweave]
    unfold insertions
    dsimp only
    split
    · rename_i hnone
      rw [List.isEmpty_iff.mp hnone]
      simpa using hnext drawn
    · have hafter := hnext (drawn + (missingCalls ids msg).length)
      have hfront : before ++ [msg] ++ weave gen ids [] (drawn + (missingCalls ids msg).length) rest =
          (before ++ msg :: rest.takeWhile isTool) ++
            weave gen ids [] (drawn + (missingCalls ids msg).length) (rest.dropWhile isTool) := by
        rw [weave_pending]
        simp
      have hplace : i + 1 + (rest.takeWhile isTool).length =
          (before ++ msg :: rest.takeWhile isTool).length := by
        rw [List.length_append, List.length_cons, hi]
        omega
      rw [List.append_assoc, List.singleton_append] at hafter
      rw [hdrop, List.reverse_cons, List.foldl_append, List.foldl_cons, List.foldl_nil, hafter, hfront,
        hplace, insertResults_append, weave_pending gen ids (placeholders gen drawn _)]
      simp [placeholders]

lemma patch_eq (gen : Nat → String) (messages : List (ChatMessage J B)) :
    patchDanglingToolCalls gen messages = weave gen (resultIds messages) [] 0 messages :=
  insertions_weave gen _ 0 messages [] messages 0 rfl rfl

lemma weave_split (before after : List (ChatMessage J B)) {msg : ChatMessage J B}
    (hmsg : isTool msg = false) : ∃ drawn' drawn'',
      weave gen ids pending drawn (before ++ msg :: after) = weave gen ids pending drawn before ++
        msg :: weave gen ids (placeholders gen drawn' (missingCalls ids msg)) drawn'' after := by
  induction before generalizing pending drawn with
  | nil =>
    refine ⟨drawn, drawn + (missingCalls ids msg).length, ?_⟩
    simp [weave, hmsg]
  | cons m before ih =>
    rw [List.cons_append, weave, weave]
    split
    · obtain ⟨d, d', heq⟩ := ih pending drawn
      exact ⟨d, d', by rw [heq]; rfl⟩
    · obtain ⟨d, d', heq⟩ := ih (placeholders gen drawn (missingCalls ids m))
        (drawn + (missingCalls ids m).length)
      exact ⟨d, d', by rw [heq]; simp⟩

lemma mem_placeholders {missing : List String} {m : ChatMessage J B}
    (h : m ∈ placeholders gen drawn missing) : ∃ messageId, ∃ id ∈ missing,
      m = interrupted messageId id := by
  obtain ⟨entry, hmem, rfl⟩ := List.mem_map.mp h
  exact ⟨_, entry.1, (List.mem_zipIdx' hmem).2 ▸ List.getElem_mem _, rfl⟩

lemma placeholder_of_mem {missing : List String} {id : String} (h : id ∈ missing) :
    ∃ front result back, (placeholders gen drawn missing : List (ChatMessage J B)) =
      front ++ result :: back ∧ result.Answers id := by
  obtain ⟨k, hk, rfl⟩ := List.mem_iff_getElem.mp h
  have hmem : interrupted (gen (drawn + k)) missing[k] ∈
      (placeholders gen drawn missing : List (ChatMessage J B)) :=
    List.mem_map.mpr ⟨(missing[k], k), List.mem_zipIdx_iff_getElem?.mpr
      (List.getElem?_eq_getElem hk), rfl⟩
  obtain ⟨front, back, heq⟩ := List.append_of_mem hmem
  exact ⟨front, _, back, heq, (interrupted_answers).mpr rfl⟩

lemma weave_perm : ∃ added, (weave gen ids pending drawn l).Perm (l ++ (pending ++ added)) ∧
    ∀ m ∈ added, ∃ messageId, ∃ id ∈ l.flatMap (missingCalls ids), m = interrupted messageId id := by
  induction l generalizing pending drawn with
  | nil => exact ⟨[], by simp [weave], fun m hm => by cases hm⟩
  | cons msg l ih =>
    rw [weave]
    split
    · obtain ⟨added, hperm, hadded⟩ := ih pending drawn
      refine ⟨added, hperm.cons msg, fun m hm => ?_⟩
      obtain ⟨messageId, id, hid, rfl⟩ := hadded m hm
      exact ⟨messageId, id, List.mem_flatMap.mpr (by
        obtain ⟨call, hcall, hin⟩ := List.mem_flatMap.mp hid
        exact ⟨call, List.mem_cons_of_mem _ hcall, hin⟩), rfl⟩
    · obtain ⟨added, hperm, hadded⟩ := ih (placeholders gen drawn (missingCalls ids msg))
        (drawn + (missingCalls ids msg).length)
      refine ⟨placeholders gen drawn (missingCalls ids msg) ++ added, ?_, fun m hm => ?_⟩
      · refine List.perm_middle.trans (List.Perm.cons msg ?_)
        have hswap := List.Perm.append_left pending hperm
        exact hswap.trans (List.perm_append_comm_assoc _ _ _)
      · rcases List.mem_append.mp hm with hm | hm
        · obtain ⟨messageId, id, hid, rfl⟩ := mem_placeholders _ _ hm
          exact ⟨messageId, id, List.mem_flatMap.mpr ⟨msg, List.mem_cons_self, hid⟩, rfl⟩
        · obtain ⟨messageId, id, hid, rfl⟩ := hadded m hm
          obtain ⟨call, hcall, hin⟩ := List.mem_flatMap.mp hid
          exact ⟨messageId, id, List.mem_flatMap.mpr ⟨call, List.mem_cons_of_mem _ hcall, hin⟩, rfl⟩

lemma countP_placeholders {missing : List String} {id : String} :
    (placeholders gen drawn missing : List (ChatMessage J B)).countP (fun m => m.Answers id) =
      missing.count id := by
  have hall : ∀ (missing : List String) (k : Nat), ((missing.zipIdx k).map (fun m =>
      (interrupted (gen (drawn + m.2)) m.1 : ChatMessage J B))).countP (fun m => m.Answers id) =
        missing.count id := by
    intro missing
    induction missing with
    | nil => exact fun _ => rfl
    | cons callId missing ih =>
      intro k
      rw [List.zipIdx_cons, List.map_cons, List.countP_cons, ih, List.count_cons]
      simp only [interrupted_answers, decide_eq_true_eq, beq_iff_eq]
  exact hall missing 0

lemma countP_weave {id : String} :
    (weave gen ids pending drawn l).countP (fun m => m.Answers id) =
      pending.countP (fun m => m.Answers id) + l.countP (fun m => m.Answers id) +
        (l.flatMap (missingCalls ids)).count id := by
  induction l generalizing pending drawn with
  | nil => simp [weave]
  | cons msg l ih =>
    rw [weave, List.countP_cons, List.flatMap_cons, List.count_append]
    split
    · rename_i htool
      rw [List.countP_cons, ih, missingCalls_of_tool htool, List.count_nil]
      omega
    · rw [List.countP_append, List.countP_cons, ih, countP_placeholders]
      omega

end Weave

section Place

variable {messages out : List (ChatMessage J B)} {id : String}

def matters (id : String) (m : ChatMessage J B) : Bool := !isTool m || decide (m.Answers id)

def InPlace (messages : List (ChatMessage J B)) (id : String) : Prop :=
  ∃ before call between result after,
    messages = before ++ call :: (between ++ result :: after) ∧ call.Calls id ∧
      result.Answers id ∧ ∀ m ∈ between, m.role ≠ .assistant

lemma matters_call {call : ChatMessage J B} (h : call.Calls id) : matters id call = true := by
  simp [matters, isTool, h.1]

lemma matters_result {result : ChatMessage J B} (h : result.Answers id) : matters id result = true := by
  simp [matters, h]

lemma role_of_not_matters {m : ChatMessage J B} (h : ¬matters id m = true) : m.role = .tool := by
  by_contra hrole
  exact h (by simp [matters, isTool, hrole])

lemma inPlace_filter : InPlace (messages.filter (matters id)) id ↔ InPlace messages id := by
  constructor
  · rintro ⟨before, call, between, result, after, heq, hcall, hresult, hbetween⟩
    obtain ⟨l₁, l₂, rfl, rfl, htail⟩ := List.filter_eq_append_iff.mp heq
    obtain ⟨skipped, rest, rfl, -, hcall', hrest⟩ := List.filter_eq_cons_iff.mp htail
    obtain ⟨l₃, l₄, rfl, rfl, hlast⟩ := List.filter_eq_append_iff.mp hrest
    obtain ⟨skipped', after', rfl, hskipped, -, -⟩ := List.filter_eq_cons_iff.mp hlast
    refine ⟨l₁ ++ skipped, call, l₃ ++ skipped', result, after', by simp, hcall, hresult,
      fun m hm => ?_⟩
    rcases List.mem_append.mp hm with hm | hm
    · by_cases hmatters : matters id m = true
      · exact hbetween m (List.mem_filter.mpr ⟨hm, hmatters⟩)
      · rw [role_of_not_matters hmatters]
        decide
    · rw [role_of_not_matters (hskipped m hm)]
      decide
  · rintro ⟨before, call, between, result, after, rfl, hcall, hresult, hbetween⟩
    refine ⟨before.filter (matters id), call, between.filter (matters id), result,
      after.filter (matters id), ?_, hcall, hresult, fun m hm => hbetween m (List.mem_of_mem_filter hm)⟩
    rw [List.filter_append, List.filter_cons_of_pos (matters_call hcall), List.filter_append,
      List.filter_cons_of_pos (matters_result hresult)]

variable {gen : Nat → String} {ids : List String} {pending l : List (ChatMessage J B)} {drawn : Nat}

lemma filter_weave (hid : id ∈ ids) (hpending : pending.filter (matters id) = []) :
    (weave gen ids pending drawn l).filter (matters id) = l.filter (matters id) := by
  induction l generalizing pending drawn with
  | nil => exact hpending
  | cons msg l ih =>
    have hnone : (placeholders gen drawn (missingCalls ids msg) : List (ChatMessage J B)).filter
        (matters id) = [] := by
      refine List.filter_eq_nil_iff.mpr (fun m hm => ?_)
      obtain ⟨messageId, callId, hmissing, rfl⟩ := mem_placeholders _ _ hm
      have hne : callId ≠ id := fun heq => (mem_missingCalls.mp hmissing).2 (heq ▸ hid)
      have hother : ¬(interrupted messageId callId : ChatMessage J B).Answers id :=
        fun h => hne (interrupted_answers.mp h)
      have htool : isTool (interrupted messageId callId : ChatMessage J B) = true := rfl
      simp [matters, hother, htool]
    rw [weave]
    split
    · rw [List.filter_cons, List.filter_cons, ih hpending]
    · rw [List.filter_append, hpending, List.nil_append, List.filter_cons, List.filter_cons, ih hnone]

end Place

section Patch

variable (messages : List (ChatMessage J B)) {id : String} (gen : Nat → String)

lemma patch_fills (hdistinct : (messages.flatMap callIds).Nodup) (h : Unanswered messages id) :
    AnsweredInPlace (patchDanglingToolCalls gen messages) id := by
  obtain ⟨⟨call, hmem, hcall⟩, hnone⟩ := h
  have hids : id ∉ resultIds messages := by
    intro hin
    obtain ⟨result, hresult, hanswers⟩ := mem_resultIds.mp hin
    exact hnone result hresult hanswers
  have hmissing : id ∈ missingCalls (resultIds messages) call := mem_missingCalls.mpr ⟨hcall, hids⟩
  rw [patch_eq]
  constructor
  · have hzero : messages.countP (fun m => m.Answers id) = 0 :=
      List.countP_eq_zero.mpr (fun m hm => by simpa using hnone m hm)
    have hsub : (messages.flatMap (missingCalls (resultIds messages))).Sublist
        (messages.flatMap callIds) := by
      clear hdistinct hmem hnone hids hmissing hzero
      generalize resultIds messages = ids
      induction messages with
      | nil => exact List.Sublist.refl _
      | cons m messages ih =>
        rw [List.flatMap_cons, List.flatMap_cons]
        exact (missingCalls_eq ▸ List.filter_sublist).append ih
    rw [countP_weave, hzero, List.countP_nil,
      List.count_eq_one_of_mem (hdistinct.sublist hsub) (List.mem_flatMap.mpr ⟨call, hmem, hmissing⟩)]
  · obtain ⟨before, after, hwhole⟩ := List.append_of_mem hmem
    have htool : isTool call = false := by
      simp [isTool, hcall.1]
    obtain ⟨d, d', hsplit⟩ := weave_split gen (resultIds messages) [] 0 before after htool
    rw [← hwhole] at hsplit
    obtain ⟨front, result, back, hplace, hanswers⟩ := placeholder_of_mem (J := J) (B := B) gen d
      hmissing
    have hweave : weave gen (resultIds messages) [] 0 messages =
        weave gen (resultIds messages) [] 0 before ++ call ::
          ((after.takeWhile isTool ++ front) ++ result :: (back ++
            weave gen (resultIds messages) [] d' (after.dropWhile isTool))) := by
      rw [hsplit, weave_pending gen _ (placeholders gen d _), hplace]
      simp
    refine ⟨_, call, _, result, _, hweave, hcall, hanswers, fun m hm => ?_⟩
    rcases List.mem_append.mp hm with hm | hm
    · have htool : isTool m = true := List.mem_takeWhile_imp hm
      rw [isTool, decide_eq_true_iff] at htool
      rw [htool]
      decide
    · have hin : m ∈ (placeholders gen d (missingCalls (resultIds messages) call) :
          List (ChatMessage J B)) := hplace ▸ List.mem_append_left _ hm
      obtain ⟨messageId, callId, -, rfl⟩ := mem_placeholders _ _ hin
      exact fun hrole => by cases hrole

lemma patch_keeps (h : ∃ result ∈ messages, result.Answers id) :
    AnsweredInPlace (patchDanglingToolCalls gen messages) id ↔ AnsweredInPlace messages id := by
  have hids : id ∈ resultIds messages := mem_resultIds.mpr h
  have hcount : (weave gen (resultIds messages) [] 0 messages).countP (fun m => m.Answers id) =
      messages.countP (fun m => m.Answers id) := by
    have hzero : (messages.flatMap (missingCalls (resultIds messages))).count id = 0 := by
      refine List.count_eq_zero.mpr (fun hin => ?_)
      obtain ⟨call, -, hmissing⟩ := List.mem_flatMap.mp hin
      exact (mem_missingCalls.mp hmissing).2 hids
    rw [countP_weave, hzero, List.countP_nil, Nat.zero_add, Nat.add_zero]
  have hplace : InPlace (weave gen (resultIds messages) [] 0 messages) id ↔ InPlace messages id := by
    rw [← inPlace_filter, filter_weave hids rfl, inPlace_filter]
  rw [patch_eq]
  constructor
  · intro hout
    exact ⟨hcount ▸ hout.once, hplace.mp hout.place⟩
  · intro hin
    exact ⟨hcount ▸ hin.once, hplace.mpr hin.place⟩

lemma sublist_weave {ids : List String} {pending l : List (ChatMessage J B)} {drawn : Nat} :
    l.Sublist (weave gen ids pending drawn l) := by
  induction l generalizing pending drawn with
  | nil => exact List.nil_sublist _
  | cons msg l ih =>
    rw [weave]
    split
    · exact ih.cons_cons msg
    · exact List.sublist_append_of_sublist_right (ih.cons_cons msg)

lemma patch_added : ∃ added, (patchDanglingToolCalls gen messages).Perm (messages ++ added) ∧
    ∀ m ∈ added, ∃ messageId id, m = interrupted messageId id ∧ Unanswered messages id := by
  obtain ⟨added, hperm, hadded⟩ := weave_perm gen (resultIds messages) [] messages 0
  refine ⟨added, by rw [patch_eq]; simpa using hperm, fun m hm => ?_⟩
  obtain ⟨messageId, id, hid, rfl⟩ := hadded m hm
  obtain ⟨call, hin, hmissing⟩ := List.mem_flatMap.mp hid
  obtain ⟨hcall, hnone⟩ := mem_missingCalls.mp hmissing
  exact ⟨messageId, id, rfl, ⟨call, hin, hcall⟩,
    fun result hresult hanswers => hnone (mem_resultIds.mpr ⟨result, hresult, hanswers⟩)⟩

lemma patch_of_answered
    (h : ∀ call ∈ messages, ∀ id, call.Calls id → ∃ result ∈ messages, result.Answers id) :
    patchDanglingToolCalls gen messages = messages := by
  have hnone : ∀ call ∈ messages, missingCalls (resultIds messages) call = [] := by
    intro call hin
    refine List.eq_nil_iff_forall_not_mem.mpr (fun id hid => ?_)
    obtain ⟨hcall, hnot⟩ := mem_missingCalls.mp hid
    exact hnot (mem_resultIds.mpr (h call hin id hcall))
  have hall : ∀ (l : List (ChatMessage J B)) (i drawn : Nat), (∀ call ∈ l, call ∈ messages) →
      insertions gen messages (resultIds messages) l i drawn = [] := by
    intro l
    induction l with
    | nil => exact fun _ _ _ => rfl
    | cons msg l ih =>
      intro i drawn hin
      have hempty : (missingCalls (resultIds messages) msg).isEmpty = true := by
        rw [hnone msg (hin msg List.mem_cons_self)]
        rfl
      rw [insertions, if_pos hempty]
      exact ih _ _ (fun call hcall => hin call (List.mem_cons_of_mem _ hcall))
  rw [patchDanglingToolCalls, hall messages 0 0 (fun _ h => h)]
  rfl

lemma patch_again (hdistinct : (messages.flatMap callIds).Nodup) (gen' : Nat → String) :
    patchDanglingToolCalls gen' (patchDanglingToolCalls gen messages) =
      patchDanglingToolCalls gen messages := by
  have hsub : messages.Sublist (patchDanglingToolCalls gen messages) := patch_eq gen messages ▸
    sublist_weave gen
  refine patch_of_answered _ gen' (fun call hin id hcall => ?_)
  obtain ⟨added, hperm, hadded⟩ := patch_added messages gen
  have hold : call ∈ messages := by
    rcases List.mem_append.mp (hperm.mem_iff.mp hin) with hold | hnew
    · exact hold
    · obtain ⟨messageId, callId, rfl, -⟩ := hadded call hnew
      cases hcall.1
  by_cases hanswered : ∃ result ∈ messages, result.Answers id
  · obtain ⟨result, hresult, hanswers⟩ := hanswered
    exact ⟨result, hsub.subset hresult, hanswers⟩
  · have hopen : Unanswered messages id := ⟨⟨call, hold, hcall⟩,
      fun result hresult hanswers => hanswered ⟨result, hresult, hanswers⟩⟩
    obtain ⟨_, _, _, result, _, heq, -, hanswers, -⟩ := (patch_fills messages gen hdistinct hopen).place
    exact ⟨result, heq ▸ by simp, hanswers⟩

end Patch

theorem dangling_calls_repaired (gen : Nat → String) (messages : List (ChatMessage J B))
    (hdistinct : (messages.flatMap callIds).Nodup) :
    Repairs messages (patchDanglingToolCalls gen messages) ∧
      ∀ gen', patchDanglingToolCalls gen' (patchDanglingToolCalls gen messages) =
        patchDanglingToolCalls gen messages := by
  refine ⟨⟨fun id => patch_fills messages gen hdistinct, fun id => patch_keeps messages gen, ?_,
    patch_added messages gen⟩, patch_again messages gen hdistinct⟩
  rw [patch_eq]
  exact sublist_weave gen

def askingMessage (calls : List (ToolCall Unit)) : ChatMessage Unit Unit :=
  .assistantWithToolCalls "m1" (.text "") calls

theorem dangling_calls_repaired_pair :
    Repairs [askingMessage [⟨"c1", "search", ()⟩, ⟨"c2", "read", ()⟩], .tool "m2" "c1" (.text "")]
      (patchDanglingToolCalls (fun _ => "m3")
        [askingMessage [⟨"c1", "search", ()⟩, ⟨"c2", "read", ()⟩], .tool "m2" "c1" (.text "")]) :=
  (dangling_calls_repaired _ _ (by decide)).1

def lateResult : List (ChatMessage Unit Unit) :=
  [askingMessage [⟨"c1", "search", ()⟩], askingMessage [], .tool "m2" "c1" (.text "")]

theorem late_result_stays : (lateResult.flatMap callIds).Nodup ∧
    ∃ call ∈ patchDanglingToolCalls (fun _ => "m3") lateResult, call.Calls "c1" ∧
      ¬AnsweredInPlace (patchDanglingToolCalls (fun _ => "m3") lateResult) "c1" := by
  have hsame : patchDanglingToolCalls (fun _ => "m3") lateResult = lateResult := by decide
  rw [hsame]
  refine ⟨by decide, askingMessage [⟨"c1", "search", ()⟩], List.mem_cons_self,
    mem_callIds.mp (by decide), fun h => ?_⟩
  obtain ⟨before, call, between, result, after, heq, hcall, hresult, hbetween⟩ := h.place
  rcases before with - | ⟨m, before⟩
  · rw [lateResult, List.nil_append, List.cons.injEq] at heq
    rcases between with - | ⟨m, between⟩
    · rw [List.nil_append, List.cons.injEq] at heq
      rw [← heq.2.1] at hresult
      cases hresult.1
    · rw [List.cons_append, List.cons.injEq] at heq
      exact hbetween m List.mem_cons_self (heq.2.1 ▸ rfl)
  · rw [lateResult, List.cons_append, List.cons.injEq] at heq
    have hin : call ∈ [askingMessage [], .tool "m2" "c1" (.text "")] := heq.2 ▸ by simp
    have hnone : ∀ m ∈ [askingMessage [], .tool "m2" "c1" (.text "")], "c1" ∉ callIds m := by decide
    exact hnone call hin (mem_callIds.mpr hcall)

end Awaken.Context
