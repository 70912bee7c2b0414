import Awaken.Lib.Increments
import Awaken.Engine.StreamCollector

namespace Awaken.Engine.Streaming

open Awaken.Lib

variable {N : Type} {toText : Value N → List Char}

def callsOf (id : String) (calls : List (ToolCallChunk N)) : List (ToolCallChunk N) :=
  calls.filter (·.callId = id)

def deltas (id : String) (outputs : List StreamOutput) : List Char :=
  outputs.flatMap fun
    | .toolCallDelta callId args => if callId = id then args else []
    | _ => []

lemma deltas_append (id : String) (outputs more : List StreamOutput) :
    deltas id (outputs ++ more) = deltas id outputs ++ deltas id more :=
  List.flatMap_append

def ToolCallChunk.args (toText : Value N → List Char) (call : ToolCallChunk N) : List Char :=
  argsStr toText call.fnArguments

/-- A text that is longer than the one before it can be cut where that one ended. -/
def Cuttable (prev next : List Char) : Prop :=
  utf8Len prev < utf8Len next → IsCharBoundary next (utf8Len prev)

instance (prev next : List Char) : Decidable (Cuttable prev next) :=
  inferInstanceAs (Decidable (_ → _))

lemma argsDelta_isSome {prev next : List Char} :
    (argsDelta (utf8Len prev) next).isSome = true ↔ Cuttable prev next := by
  unfold argsDelta Cuttable IsCharBoundary
  split <;> simp [*]

lemma utf8Bytes_argsDelta {prev next delta : List Char}
    (h : argsDelta (utf8Len prev) next = some delta) :
    utf8Bytes delta = (utf8Bytes next).drop (utf8Bytes prev).length := by
  rw [length_utf8Bytes]
  unfold argsDelta at h
  split at h
  · obtain ⟨front, rfl, hfront⟩ := sliceFrom_eq_some.mp h
    rw [← hfront, drop_utf8Bytes]
  · cases h
    rw [List.drop_of_length_le (by rw [length_utf8Bytes]; omega)]
    rfl

namespace PartialToolCall

variable {entry : PartialToolCall} {call : ToolCallChunk N} {calls : List (ToolCallChunk N)}

def receiveAll (toText : Value N → List Char) (entry : PartialToolCall) :
    List (ToolCallChunk N) → Option (PartialToolCall × List Char)
  | [] => some (entry, [])
  | call :: calls =>
    (entry.receive toText call).bind fun received =>
      (received.entry.receiveAll toText calls).map fun (entry, args) =>
        (entry, deltas call.callId (received.output :: received.pending) ++ args)

lemma receive_args {received : Received} (h : entry.receive toText call = some received) :
    received.entry.arguments = call.args toText ∧
      (entry.startEmitted = true → received.entry.startEmitted = true) := by
  obtain ⟨delta, -, rfl⟩ := Option.map_eq_some_iff.mp h
  generalize (if call.fnName = "" then entry.name else call.fnName) = name
  split
  · exact ⟨rfl, fun _ => rfl⟩
  · exact ⟨rfl, fun hstarted => hstarted⟩

lemma receiveAll_isSome : (entry.receiveAll toText calls).isSome = true ↔
    (entry.arguments :: calls.map (·.args toText)).IsChain Cuttable := by
  induction calls generalizing entry with
  | nil => simp [receiveAll]
  | cons call calls ih =>
    rw [List.map_cons, List.isChain_cons_cons, ← argsDelta_isSome, receiveAll]
    cases hreceive : entry.receive toText call with
    | none =>
      have hcut : argsDelta (utf8Len entry.arguments) (call.args toText) = none :=
        Option.map_eq_none_iff.mp hreceive
      simp [hcut]
    | some received =>
      obtain ⟨delta, hdelta, -⟩ := Option.map_eq_some_iff.mp hreceive
      have hcut : argsDelta (utf8Len entry.arguments) (call.args toText) = some delta := hdelta
      rw [← (receive_args hreceive).1, ← ih, (receive_args hreceive).1, hcut]
      simp

lemma receive_started {received : Received} (hstarted : entry.startEmitted = true)
    (h : entry.receive toText call = some received) :
    utf8Bytes (deltas call.callId (received.output :: received.pending)) =
      (utf8Bytes (call.args toText)).drop (utf8Bytes entry.arguments).length := by
  obtain ⟨delta, hdelta, rfl⟩ := Option.map_eq_some_iff.mp h
  have hcut : argsDelta (utf8Len entry.arguments) (call.args toText) = some delta := hdelta
  rw [← utf8Bytes_argsDelta hcut]
  simp only [hstarted, Bool.not_true, Bool.false_and, Bool.false_eq_true, if_false, Bool.true_and]
  cases delta with
  | nil => rfl
  | cons c delta => simp [deltas]

lemma receiveAll_started {final : PartialToolCall} {args : List Char}
    (hstarted : entry.startEmitted = true)
    (h : entry.receiveAll toText calls = some (final, args)) :
    final.startEmitted = true ∧
      final.arguments = (calls.map (·.args toText)).getLastD entry.arguments ∧
      utf8Bytes args = increments (utf8Bytes entry.arguments)
        (calls.map (fun call => utf8Bytes (call.args toText))) := by
  induction calls generalizing entry args with
  | nil =>
    cases h
    exact ⟨hstarted, rfl, rfl⟩
  | cons call calls ih =>
    obtain ⟨received, hreceive, hrest⟩ := Option.bind_eq_some_iff.mp h
    obtain ⟨⟨found, more⟩, hmore, hfinal⟩ := Option.map_eq_some_iff.mp hrest
    cases hfinal
    obtain ⟨hargs, hstays⟩ := receive_args hreceive
    obtain ⟨hend, hlast, hbytes⟩ := ih (hstays hstarted) hmore
    refine ⟨hend, ?_, ?_⟩
    · rw [hlast, hargs, List.map_cons, List.getLastD_cons]
    · rw [List.map_cons, increments, ← receive_started hstarted hreceive, utf8Bytes,
        List.flatMap_append, ← hargs, ← hbytes]
      rfl

end PartialToolCall

def ToolCallChunk.opening (toText : Value N → List Char) (call : ToolCallChunk N) : List Char :=
  if toolArgsHaveContent call.fnArguments then call.args toText else []

/-- From the first chunk with a name on, what the start sends and what the later texts add agree
with the last text, which they get shorter to by as much as the start has left out. -/
def SentWhole (toText : Value N → List Char) (calls : List (ToolCallChunk N)) : Prop :=
  match calls.dropWhile (·.fnName = "") with
  | [] => True
  | start :: later =>
    let final := utf8Bytes ((later.map (·.args toText)).getLastD (start.args toText))
    utf8Bytes (start.opening toText) <+: final ∧
      Agrees final (utf8Len (start.args toText) - utf8Len (start.opening toText))
        (utf8Bytes (start.args toText)) (later.map (fun call => utf8Bytes (call.args toText)))

namespace PartialToolCall

variable {entry : PartialToolCall} {call : ToolCallChunk N} {calls : List (ToolCallChunk N)}

lemma receive_unnamed {received : Received} (hname : entry.name = "")
    (hentry : entry.startEmitted = false) (hcall : call.fnName = "")
    (h : entry.receive toText call = some received) :
    received.entry.name = "" ∧ received.entry.startEmitted = false ∧
      deltas call.callId (received.output :: received.pending) = [] := by
  obtain ⟨delta, -, rfl⟩ := Option.map_eq_some_iff.mp h
  simp [hname, hentry, hcall, deltas]

lemma receive_start {received : Received} (hentry : entry.startEmitted = false)
    (hcall : call.fnName ≠ "") (h : entry.receive toText call = some received) :
    received.entry.startEmitted = true ∧
      deltas call.callId (received.output :: received.pending) = call.opening toText := by
  obtain ⟨delta, -, rfl⟩ := Option.map_eq_some_iff.mp h
  simp only [hentry, hcall, if_false, Bool.not_false, Bool.true_and, ne_eq, not_false_eq_true,
    decide_true, if_true, true_and, ToolCallChunk.opening]
  split
  · simp [deltas, ToolCallChunk.args]
  · simp [deltas]

lemma opening_length_le (toText : Value N → List Char) (start : ToolCallChunk N) :
    utf8Len (start.opening toText) ≤ utf8Len (start.args toText) := by
  unfold ToolCallChunk.opening
  split
  · exact Nat.le_refl _
  · exact Nat.zero_le _

lemma receiveAll_sent {final : PartialToolCall} {args : List Char} (hname : entry.name = "")
    (hentry : entry.startEmitted = false)
    (h : entry.receiveAll toText calls = some (final, args)) :
    (final.startEmitted = true → args = final.arguments) ↔ SentWhole toText calls := by
  induction calls generalizing entry args with
  | nil =>
    cases h
    simp [SentWhole, hentry]
  | cons call calls ih =>
    obtain ⟨received, hreceive, hrest⟩ := Option.bind_eq_some_iff.mp h
    obtain ⟨⟨found, more⟩, hmore, hfinal⟩ := Option.map_eq_some_iff.mp hrest
    cases hfinal
    by_cases hcall : call.fnName = ""
    · obtain ⟨hunnamed, hunstarted, hnone⟩ := receive_unnamed hname hentry hcall hreceive
      have hskip : SentWhole toText (call :: calls) = SentWhole toText calls := by
        rw [SentWhole, List.dropWhile_cons_of_pos (by simpa using hcall)]
        rfl
      rw [hskip, hnone, List.nil_append]
      exact ih hunnamed hunstarted hmore
    · obtain ⟨hstarted, hopening⟩ := receive_start hentry hcall hreceive
      obtain ⟨hend, hlast, hbytes⟩ := receiveAll_started hstarted hmore
      have hargs := (receive_args hreceive).1
      rw [hargs] at hlast hbytes
      rw [SentWhole, List.dropWhile_cons_of_neg (by simpa using hcall), hopening]
      dsimp only
      rw [← hlast]
      have hbytesIff : call.opening toText ++ more = final.arguments ↔
          utf8Bytes (call.opening toText) ++ increments (utf8Bytes (call.args toText))
            (calls.map (fun call => utf8Bytes (call.args toText))) =
              utf8Bytes final.arguments := by
        rw [← hbytes, ← utf8Bytes_append]
        exact ⟨congrArg utf8Bytes, utf8Bytes_injective⟩
      have hlength : (utf8Bytes (call.opening toText)).length +
          (utf8Len (call.args toText) - utf8Len (call.opening toText)) =
            (utf8Bytes (call.args toText)).length := by
        have := opening_length_le toText call
        rw [length_utf8Bytes, length_utf8Bytes]
        omega
      have hfinal : (calls.map (fun call => utf8Bytes (call.args toText))).getLastD
          (utf8Bytes (call.args toText)) = utf8Bytes final.arguments := by
        rw [hlast, ← List.getLastD_map (f := utf8Bytes), List.map_map]
        rfl
      constructor
      · intro hsent
        have heq := hbytesIff.mp (hsent hend)
        have hfront : utf8Bytes (call.opening toText) <+: utf8Bytes final.arguments := ⟨_, heq⟩
        exact ⟨hfront, (append_increments_eq_iff hfront hlength _ hfinal).mp heq⟩
      · rintro ⟨hfront, hagrees⟩ -
        exact hbytesIff.mpr ((append_increments_eq_iff hfront hlength _ hfinal).mpr hagrees)

end PartialToolCall

namespace StreamCollector

variable {self : StreamCollector}

lemma receive_deltas_other {entry : PartialToolCall} {call : ToolCallChunk N} {received : Received}
    {id : String} (hid : call.callId ≠ id) (h : entry.receive toText call = some received) :
    deltas id (received.output :: received.pending) = [] := by
  obtain ⟨delta, -, rfl⟩ := Option.map_eq_some_iff.mp h
  generalize (if call.fnName = "" then entry.name else call.fnName) = name
  split
  · split <;> simp [deltas, hid]
  · split <;> simp [deltas, hid]

lemma feedAll_calls (toText : Value N → List Char) (self : StreamCollector)
    (hpending : self.pendingOutputs = []) (calls : List (ToolCallChunk N)) :
    match self.feedAll toText (calls.map .toolCallChunk) with
    | some (final, outputs) => ∀ id,
      (self.entry id).receiveAll toText (callsOf id calls) = some (final.entry id, deltas id outputs)
    | none => ∃ id, (self.entry id).receiveAll toText (callsOf id calls) = none := by
  induction calls generalizing self with
  | nil => exact fun id => rfl
  | cons call calls ih =>
    cases hreceive : (self.entry call.callId).receive toText call with
    | none =>
      have hfeed : self.feedAll toText ((call :: calls).map .toolCallChunk) = none := by
        simp [feedAll, feed, process, hreceive]
      rw [hfeed]
      refine ⟨call.callId, ?_⟩
      rw [callsOf, List.filter_cons_of_pos (by simp), PartialToolCall.receiveAll, hreceive]
      rfl
    | some received =>
      let next : StreamCollector := { self with
        toolCalls := self.toolCalls.insert call.callId received.entry
        toolCallOrder := if (self.toolCalls.get call.callId).isNone
          then self.toolCallOrder ++ [call.callId] else self.toolCallOrder
        bytesReceived := self.bytesReceived + utf8Len received.delta
        pendingOutputs := [] }
      have hfeed : self.feedAll toText ((call :: calls).map .toolCallChunk) =
          (next.feedAll toText (calls.map .toolCallChunk)).map
            (fun rest => (rest.1, received.output :: received.pending ++ rest.2)) := by
        simp [feedAll, feed, process, hreceive, hpending, next]
      have hentry : ∀ id, next.entry id =
          if id = call.callId then received.entry else self.entry id := by
        intro id
        simp only [next, entry, Table.get_insert]
        split <;> rfl
      have hcalls : ∀ id, (self.entry id).receiveAll toText (callsOf id (call :: calls)) =
          ((next.entry id).receiveAll toText (callsOf id calls)).map
            (fun rest => (rest.1, deltas id (received.output :: received.pending) ++ rest.2)) := by
        intro id
        rw [hentry]
        by_cases hid : call.callId = id
        · subst hid
          rw [callsOf, List.filter_cons_of_pos (by simp), PartialToolCall.receiveAll, hreceive,
            if_pos rfl]
          rfl
        · rw [callsOf, List.filter_cons_of_neg (by simpa using hid), if_neg (Ne.symm hid),
            receive_deltas_other hid hreceive]
          simp [callsOf]
      have hrest := ih next rfl
      rw [hfeed]
      cases hnext : next.feedAll toText (calls.map .toolCallChunk) with
      | none =>
        rw [hnext] at hrest
        obtain ⟨id, hid⟩ := hrest
        exact ⟨id, by rw [hcalls, hid, Option.map_none]⟩
      | some result =>
        obtain ⟨final, outputs⟩ := result
        rw [hnext] at hrest
        intro id
        rw [hcalls, hrest id, Option.map_some, ← deltas_append]

/-- The stream of the chunks does not panic and every started call has sent its arguments if and
only if every text can be cut where the one before it ended and the pieces agree with the last. -/
theorem arguments_streamed_iff (toText : Value N → List Char) (calls : List (ToolCallChunk N)) :
    (∃ final outputs, new.feedAll toText (calls.map .toolCallChunk) = some (final, outputs) ∧
      ∀ id call, final.toolCalls.get id = some call → call.startEmitted = true →
        deltas id outputs = call.arguments) ↔
    ∀ id, ((callsOf id calls).map (·.args toText)).IsChain Cuttable ∧
      SentWhole toText (callsOf id calls) := by
  have hcalls := feedAll_calls toText new rfl calls
  have hchain : ∀ id, ((new.entry id).receiveAll toText (callsOf id calls)).isSome = true ↔
      ((callsOf id calls).map (·.args toText)).IsChain Cuttable := by
    intro id
    rw [PartialToolCall.receiveAll_isSome]
    cases (callsOf id calls).map (·.args toText) with
    | nil => simp
    | cons first later =>
      rw [List.isChain_cons_cons]
      exact and_iff_right (fun _ => by simp [new, entry, PartialToolCall.fresh, IsCharBoundary])
  cases hfeed : new.feedAll toText (calls.map .toolCallChunk) with
  | none =>
    rw [hfeed] at hcalls
    obtain ⟨id, hid⟩ := hcalls
    constructor
    · rintro ⟨final, outputs, hsome, -⟩
      cases hsome
    · intro hall
      have hsome := (hchain id).mpr (hall id).1
      rw [hid] at hsome
      cases hsome
  | some result =>
    obtain ⟨final, outputs⟩ := result
    rw [hfeed] at hcalls
    have hsent : ∀ id, ((final.entry id).startEmitted = true →
        deltas id outputs = (final.entry id).arguments) ↔ SentWhole toText (callsOf id calls) :=
      fun id => PartialToolCall.receiveAll_sent rfl rfl (hcalls id)
    constructor
    · rintro ⟨final', outputs', heq, hall⟩ id
      cases heq
      refine ⟨(hchain id).mp (by rw [hcalls id]; rfl), (hsent id).mp ?_⟩
      intro hstarted
      cases hget : final.toolCalls.get id with
      | none =>
        rw [entry, hget] at hstarted
        cases hstarted
      | some call =>
        have hentry : final.entry id = call := by rw [entry, hget, Option.getD_some]
        rw [hentry] at hstarted ⊢
        exact hall id call hget hstarted
    · intro hall
      refine ⟨final, outputs, rfl, fun id call hget hstarted => ?_⟩
      have hentry : final.entry id = call := by rw [entry, hget, Option.getD_some]
      have hid := (hsent id).mpr (hall id).2
      rw [hentry] at hid
      exact hid hstarted

def objectThenText : List (ToolCallChunk Nat) :=
  [⟨"call", "search", .object []⟩, ⟨"call", "", .string "\x7b\"q\":1\x7d"⟩]

def rewrittenText : List (ToolCallChunk Nat) :=
  [⟨"call", "search", .string "a"⟩, ⟨"call", "", .string "é"⟩]

def printEmpty (_ : Value Nat) : List Char := ['\x7b', '\x7d']

theorem rewritten_arguments :
    ((new.feedAll printEmpty (objectThenText.map .toolCallChunk)).map
      (fun result => ((result.1.entry "call").arguments, deltas "call" result.2)) =
        some (['\x7b', '"', 'q', '"', ':', '1', '\x7d'], ['q', '"', ':', '1', '\x7d'])) ∧
    (new.feedAll printEmpty (rewrittenText.map .toolCallChunk)).isNone = true := by
  constructor
  · decide
  · decide

end StreamCollector

end Awaken.Engine.Streaming
