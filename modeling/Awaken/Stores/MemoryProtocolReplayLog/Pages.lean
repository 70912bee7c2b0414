import Awaken.Stores.MemoryProtocolReplayLog
import Awaken.Lib.Filtered

namespace Awaken.Stores.MemoryProtocolReplayLog

open Awaken.Lib Awaken.Lib.Text Awaken.Contract.ProtocolReplay

variable {J : Type}

def replayIdAt (n : Nat) : ProtocolReplayId := ⟨numbered "pr_mem" n, isBlank_numbered _ _⟩

def replayCursorAt (n : Nat) : ProtocolReplayCursor :=
  ⟨numbered "prcur_mem" n, isBlank_numbered _ _⟩

lemma replayId_new (n : Nat) : ProtocolReplayId.new (numbered "pr_mem" n) = .ok (replayIdAt n) :=
  dif_pos (isBlank_numbered _ _)

lemma replayCursor_new (n : Nat) :
    ProtocolReplayCursor.new (numbered "prcur_mem" n) = .ok (replayCursorAt n) :=
  dif_pos (isBlank_numbered _ _)

lemma replayIdAt_inj {m n : Nat} (h : replayIdAt m = replayIdAt n) : m = n :=
  numbered_inj (congrArg Subtype.val h)

lemma replayCursorAt_inj {m n : Nat} (h : replayCursorAt m = replayCursorAt n) : m = n :=
  numbered_inj (congrArg Subtype.val h)

def streamLog (rows : List (ProtocolReplayRecord J)) (stream : ProtocolStreamKey) :
    List (ProtocolReplayRecord J) :=
  rows.filter (·.stream = stream)

def unexpired (now : Nat) (rows : List (ProtocolReplayRecord J)) : List (ProtocolReplayRecord J) :=
  rows.filter (fun row => !isExpired row now)

def rowsAfter (rows : List (ProtocolReplayRecord J)) (stream : ProtocolStreamKey) :
    Option ProtocolReplayCursor → List (ProtocolReplayRecord J)
  | none => streamLog rows stream
  | some cursor => ((streamLog rows stream).dropWhile (·.protocolReplayCursor ≠ cursor)).drop 1

/-- The cursor is the start of the stream or that of a row of the stream that is retained. -/
def Retained (rows : List (ProtocolReplayRecord J)) (stream : ProtocolStreamKey) (now : Nat) :
    Option ProtocolReplayCursor → Prop
  | none => True
  | some cursor => ∃ row ∈ streamLog rows stream,
      row.protocolReplayCursor = cursor ∧ isExpired row now = false

structure Represents (state : InMemoryProtocolReplayState J)
    (rows : List (ProtocolReplayRecord J)) : Prop where
  count : state.nextRowSeq = rows.length
  ids : ∀ k row, rows[k]? = some row → row.protocolReplayId = replayIdAt (k + 1)
  records : ∀ id, state.records.get id = rows.find? (·.protocolReplayId = id)
  index : ∀ stream, state.index stream = (streamLog rows stream).map (·.protocolReplayId)
  seq : ∀ stream, (state.nextStreamSeq.get stream).getD 0 = (streamLog rows stream).length
  cursors : ∀ stream k row, (streamLog rows stream)[k]? = some row →
    row.protocolReplayCursor = replayCursorAt (k + 1)
  positions : ∀ stream cursor k, state.cursorPositions.get (stream, cursor) = some k ↔
    k < (streamLog rows stream).length ∧ cursor = replayCursorAt (k + 1)
  wires : ∀ identity, state.wireIndex.get identity =
    (rows.find? (·.wireIdentity = identity)).map (·.protocolReplayId)
  identities : (rows.map (·.wireIdentity)).Nodup

lemma streamLog_append (rows : List (ProtocolReplayRecord J)) (row : ProtocolReplayRecord J)
    (stream : ProtocolStreamKey) : streamLog (rows ++ [row]) stream =
      streamLog rows stream ++ if row.stream = stream then [row] else [] := by
  by_cases h : row.stream = stream <;> simp [streamLog, h]

namespace InMemoryProtocolReplayState

variable {self : InMemoryProtocolReplayState J} {rows : List (ProtocolReplayRecord J)}

lemma represents_default : Represents (default : InMemoryProtocolReplayState J) [] where
  count := rfl
  ids := by simp
  records := by simp [default]
  index := by simp [default, index, streamLog]
  seq := by simp [default, streamLog]
  cursors := by simp [streamLog]
  positions := by simp [default, streamLog]
  wires := by simp [default]
  identities := by simp

lemma fresh_id (h : Represents self rows) :
    rows.find? (·.protocolReplayId = replayIdAt (rows.length + 1)) = none := by
  rw [List.find?_eq_none]
  intro row hrow hsame
  obtain ⟨k, hk⟩ := List.mem_iff_getElem?.mp hrow
  have hlt : k < rows.length := (List.getElem?_eq_some_iff.mp hk).1
  have hid := h.ids k row hk
  rw [of_decide_eq_true hsame] at hid
  have := replayIdAt_inj hid
  omega

lemma represents_store (h : Represents self rows) {row : ProtocolReplayRecord J}
    (hid : row.protocolReplayId = replayIdAt (rows.length + 1))
    (hcursor : row.protocolReplayCursor =
      replayCursorAt ((streamLog rows row.stream).length + 1))
    (hwire : self.wireIndex.get row.wireIdentity = none) :
    Represents {
      nextRowSeq := self.nextRowSeq + 1
      nextStreamSeq := self.nextStreamSeq.insert row.stream
        ((self.nextStreamSeq.get row.stream).getD 0 + 1)
      records := self.records.insert row.protocolReplayId row
      streamIndexes := self.streamIndexes.insert row.stream
        (self.index row.stream ++ [row.protocolReplayId])
      cursorPositions := self.cursorPositions.insert (row.stream, row.protocolReplayCursor)
        (self.index row.stream).length
      wireIndex := self.wireIndex.insert row.wireIdentity row.protocolReplayId }
      (rows ++ [row]) where
  count := by simp [h.count]
  ids := by
    intro k found hk
    rcases getElem?_append_singleton hk with hk | ⟨rfl, rfl⟩
    · exact h.ids k found hk
    · exact hid
  records := by
    intro id
    rw [Table.get_insert, List.find?_append, h.records]
    by_cases he : id = row.protocolReplayId
    · have hfresh := fresh_id h
      rw [← hid] at hfresh
      simp [he, hfresh]
    · simp [he, Ne.symm he]
  index := by
    intro stream
    have hindex := h.index stream
    rw [streamLog_append, List.map_append, ← hindex]
    simp only [index, Table.get_insert]
    by_cases hs : stream = row.stream
    · simp [hs]
    · simp [hs, Ne.symm hs]
  seq := by
    intro stream
    rw [streamLog_append, List.length_append, Table.get_insert, ← h.seq stream]
    by_cases hs : stream = row.stream
    · simp [hs]
    · simp [hs, Ne.symm hs]
  cursors := by
    intro stream k found hk
    rw [streamLog_append] at hk
    by_cases hs : row.stream = stream
    · rw [if_pos hs] at hk
      rcases getElem?_append_singleton hk with hk | ⟨rfl, rfl⟩
      · exact h.cursors stream k found hk
      · rw [hcursor, hs]
    · rw [if_neg hs, List.append_nil] at hk
      exact h.cursors stream k found hk
  positions := by
    intro stream cursor k
    have hlength : (self.index row.stream).length = (streamLog rows row.stream).length := by
      rw [h.index, List.length_map]
    rw [Table.get_insert, streamLog_append, List.length_append, hlength, hcursor]
    by_cases hs : row.stream = stream
    · subst hs
      rw [if_pos rfl, List.length_singleton]
      by_cases hc : cursor = replayCursorAt ((streamLog rows row.stream).length + 1)
      · subst hc
        simp only [if_true, Option.some.injEq]
        constructor
        · rintro rfl
          exact ⟨Nat.lt_succ_self _, rfl⟩
        · rintro ⟨-, heq⟩
          have := replayCursorAt_inj heq
          omega
      · rw [if_neg (fun heq => hc (Prod.mk.inj heq).2), h.positions]
        constructor
        · rintro ⟨hk, rfl⟩
          exact ⟨Nat.lt_succ_of_lt hk, rfl⟩
        · rintro ⟨hk, rfl⟩
          refine ⟨?_, rfl⟩
          have : k ≠ (streamLog rows row.stream).length := fun heq => hc (heq ▸ rfl)
          omega
    · rw [if_neg (fun heq => hs (Prod.mk.inj heq).1.symm), if_neg hs]
      exact h.positions stream cursor k
  wires := by
    intro identity
    rw [Table.get_insert, List.find?_append, Option.map_or, ← h.wires]
    by_cases he : identity = row.wireIdentity
    · subst he
      simp [hwire]
    · simp [he, Ne.symm he]
  identities := by
    rw [List.map_append, List.map_singleton]
    refine List.nodup_append.mpr ⟨h.identities, by simp, ?_⟩
    intro identity hidentity other hother heq
    obtain ⟨found, hfound, rfl⟩ := List.mem_map.mp hidentity
    rw [List.mem_singleton] at hother
    rw [h.wires, Option.map_eq_none_iff, List.find?_eq_none] at hwire
    exact hwire found hfound (by simp [heq, hother])

theorem store_spec (h : Represents self rows) (now : Nat) {draft : ProtocolReplayDraft J}
    (hdraft : draft.validate = .ok ()) (hwire : self.wireIndex.get draft.wireIdentity = none) :
    ∃ self' row, self.store now draft.stream draft = (self', .ok row) ∧ row.draft = draft ∧
      Represents self' (rows ++ [row]) := by
  obtain ⟨row, hrow, hid, hcursor, rfl⟩ := ProtocolReplayRecord.fromAppend_eq
    (replayIdAt (self.nextRowSeq + 1))
    (replayCursorAt ((self.nextStreamSeq.get draft.stream).getD 0 + 1)) now hdraft
  have hseq := h.seq row.stream
  refine ⟨_, row, ?_, rfl, represents_store h ?_ ?_ hwire⟩
  · simp only [store, replayId_new, replayCursor_new, hrow, hid, hcursor]
    rfl
  · rw [hid, h.count]
  · rw [← hseq]
    exact hcursor

lemma get_record (h : Represents self rows) {row : ProtocolReplayRecord J} (hrow : row ∈ rows) :
    self.records.get row.protocolReplayId = some row := by
  rw [h.records]
  cases hfind : rows.find? (·.protocolReplayId = row.protocolReplayId) with
  | none => exact absurd (List.find?_eq_none.mp hfind row hrow) (by simp)
  | some found =>
    have hsame : found.protocolReplayId = row.protocolReplayId := by
      simpa using List.find?_some hfind
    obtain ⟨i, hi⟩ := List.mem_iff_getElem?.mp (List.mem_of_find?_eq_some hfind)
    obtain ⟨j, hj⟩ := List.mem_iff_getElem?.mp hrow
    rw [h.ids i found hi, h.ids j row hj] at hsame
    have hij := replayIdAt_inj hsame
    obtain rfl : i = j := by omega
    rw [← hi, hj]

theorem appendReplay_spec [DecidableEq J] (h : Represents self rows) (now : Nat) (draft : ProtocolReplayDraft J) :
    (∃ error, draft.validate = .error error ∧
      self.appendReplay now draft = (self, .error error)) ∨
    (draft.validate = .ok () ∧ ∃ row ∈ rows, row.wireIdentity = draft.wireIdentity ∧
      self.appendReplay now draft = (self, if row.draft = draft then .ok row
        else .error (.conflict
          s!"wire_event_id reused with different replay row: {draft.wireEventId}"))) ∨
    (draft.validate = .ok () ∧ (∀ row ∈ rows, row.wireIdentity ≠ draft.wireIdentity) ∧
      ∃ self' row, self.appendReplay now draft = (self', .ok row) ∧ row.draft = draft ∧
        Represents self' (rows ++ [row])) := by
  cases hdraft : draft.validate with
  | error error => exact .inl ⟨error, rfl, by simp [appendReplay, hdraft]⟩
  | ok =>
    have hstream := ProtocolReplayDraft.validate_stream hdraft
    have hwire := h.wires draft.wireIdentity
    cases hfind : rows.find? (·.wireIdentity = draft.wireIdentity) with
    | some row =>
      have hrow := List.mem_of_find?_eq_some hfind
      refine .inr (.inl ⟨rfl, row, hrow, by simpa using List.find?_some hfind, ?_⟩)
      rw [hfind] at hwire
      simp only [appendReplay, hdraft, hstream, hwire, Option.map_some, replayed,
        get_record h hrow, replayRecordMatchesDraft_iff]
    | none =>
      rw [hfind] at hwire
      obtain ⟨self', row, hstore, hrow, hself⟩ := store_spec h now hdraft hwire
      refine .inr (.inr ⟨rfl, ?_, self', row, ?_, hrow, hself⟩)
      · intro row hmem heq
        exact absurd (List.find?_eq_none.mp hfind row hmem) (by simp [heq])
      · simp only [appendReplay, hdraft, hstream, hwire, Option.map_none]
        exact hstore

lemma rowsAfter_getElem? (h : Represents self rows) {stream : ProtocolStreamKey} {k : Nat}
    {row : ProtocolReplayRecord J} (hk : (streamLog rows stream)[k]? = some row) :
    rowsAfter rows stream (some row.protocolReplayCursor) =
      (streamLog rows stream).drop (k + 1) := by
  obtain ⟨hlt, hrow⟩ := List.getElem?_eq_some_iff.mp hk
  have hsplit : streamLog rows stream =
      (streamLog rows stream).take k ++ (streamLog rows stream).drop k :=
    (List.take_append_drop k _).symm
  have hhere : (streamLog rows stream).drop k = row :: (streamLog rows stream).drop (k + 1) := by
    rw [List.drop_eq_getElem_cons hlt, hrow]
  have hbefore : ∀ other ∈ (streamLog rows stream).take k,
      decide (other.protocolReplayCursor ≠ row.protocolReplayCursor) = true := by
    intro other hother
    obtain ⟨i, hi⟩ := List.mem_iff_getElem?.mp hother
    rw [List.getElem?_take] at hi
    split at hi
    · rw [h.cursors stream i other hi, h.cursors stream k row hk, decide_eq_true_eq]
      intro heq
      have := replayCursorAt_inj heq
      omega
    · cases hi
  rw [rowsAfter]
  nth_rewrite 1 [hsplit]
  rw [List.dropWhile_append_of_pos hbefore, hhere, List.dropWhile_cons_of_neg (by simp)]
  rfl

lemma loadIndexed_eq (h : Represents self rows) {row : ProtocolReplayRecord J} (hrow : row ∈ rows) :
    self.loadIndexed row.protocolReplayId = .ok row := by
  rw [loadIndexed, get_record h hrow]

lemma mem_of_streamLog {stream : ProtocolStreamKey} {row : ProtocolReplayRecord J}
    (h : row ∈ streamLog rows stream) : row ∈ rows :=
  List.mem_of_mem_filter h

lemma startOf_retained (h : Represents self rows) {stream : ProtocolStreamKey} {now : Nat}
    {from_ : Option ProtocolReplayCursor} (hfrom : Retained rows stream now from_) :
    ∃ start, self.startOf stream now from_ = .ok start ∧
      rowsAfter rows stream from_ = (streamLog rows stream).drop start := by
  cases from_ with
  | none => exact ⟨0, rfl, rfl⟩
  | some cursor =>
    obtain ⟨row, hrow, rfl, hlive⟩ := hfrom
    obtain ⟨k, hk⟩ := List.mem_iff_getElem?.mp hrow
    have hlt : k < (streamLog rows stream).length := (List.getElem?_eq_some_iff.mp hk).1
    have hposition := (h.positions stream row.protocolReplayCursor k).mpr
      ⟨hlt, h.cursors stream k row hk⟩
    have hid : (self.index stream)[k]? = some row.protocolReplayId := by
      rw [h.index, List.getElem?_map, hk, Option.map_some]
    refine ⟨k + 1, ?_, rowsAfter_getElem? h hk⟩
    simp only [startOf, hposition, hid, loadIndexed_eq h (mem_of_streamLog hrow)]
    change (if isExpired row now then _ else _) = _
    rw [hlive]
    rfl

lemma startOf_lost (h : Represents self rows) {stream : ProtocolStreamKey} {now : Nat}
    {cursor : ProtocolReplayCursor} (hfrom : ¬ Retained rows stream now (some cursor)) :
    self.startOf stream now (some cursor) = .error (.cursorExpired cursor.1) := by
  cases hget : self.cursorPositions.get (stream, cursor) with
  | none => simp only [startOf, hget]
  | some k =>
    obtain ⟨hlt, hcursor⟩ := (h.positions stream cursor k).mp hget
    have hk : (streamLog rows stream)[k]? = some (streamLog rows stream)[k] :=
      List.getElem?_eq_getElem hlt
    have hrow : (streamLog rows stream)[k] ∈ streamLog rows stream := List.getElem_mem hlt
    have hid : (self.index stream)[k]? = some (streamLog rows stream)[k].protocolReplayId := by
      rw [h.index, List.getElem?_map, hk, Option.map_some]
    have hexpired : isExpired (streamLog rows stream)[k] now = true := by
      by_contra hlive
      refine hfrom ⟨_, hrow, ?_, Bool.eq_false_iff.mpr hlive⟩
      rw [h.cursors stream k _ hk, hcursor]
    simp only [startOf, hget, hid, loadIndexed_eq h (mem_of_streamLog hrow)]
    change (if isExpired (streamLog rows stream)[k] now then _ else _) = _
    rw [hexpired]
    rfl

lemma collect_eq (h : Represents self rows) (now limit : Nat)
    {found : List (ProtocolReplayRecord J)} (hfound : ∀ row ∈ found, row ∈ rows)
    (records : List (ProtocolReplayRecord J)) (hroom : records.length ≤ limit) :
    self.collect now limit records (found.map (·.protocolReplayId)) =
      .ok (records ++ (unexpired now found).take (limit - records.length),
        decide (limit < records.length + (unexpired now found).length)) := by
  induction found generalizing records with
  | nil =>
    have hfull : ¬ limit < records.length := by omega
    simp [collect, unexpired, hfull]
  | cons row found ih =>
    have hload := loadIndexed_eq h (hfound row List.mem_cons_self)
    have hrest : ∀ other ∈ found, other ∈ rows :=
      fun other hother => hfound other (List.mem_cons_of_mem _ hother)
    rw [List.map_cons, collect, hload]
    change (if isExpired row now then _ else _) = _
    cases hexpired : isExpired row now with
    | true =>
      have hskip : unexpired now (row :: found) = unexpired now found := by
        simp [unexpired, hexpired]
      rw [hskip]
      exact ih hrest records hroom
    | false =>
      have hkeep : unexpired now (row :: found) = row :: unexpired now found := by
        simp [unexpired, hexpired]
      rw [hkeep, if_neg (by simp)]
      by_cases hfull : records.length = limit
      · simp [hfull]
      · have hlength : (records ++ [row]).length = records.length + 1 := by simp
        have hleft : limit - records.length = limit - (records.length + 1) + 1 := by omega
        rw [if_neg hfull, ih hrest _ (by rw [hlength]; omega), hlength, hleft,
          List.take_succ_cons, List.append_assoc, List.singleton_append, List.length_cons,
          Nat.add_assoc, Nat.add_comm 1]

theorem listLocked_spec (h : Represents self rows) {stream : ProtocolStreamKey} {now limit : Nat}
    {from_ : Option ProtocolReplayCursor} (hfrom : Retained rows stream now from_)
    (hlimit : 1 ≤ limit) :
    ∃ page, self.listLocked stream from_ now limit = .ok page ∧
      page.records = (unexpired now (rowsAfter rows stream from_)).take limit ∧
      (page.nextCursor = none → (unexpired now (rowsAfter rows stream from_)).length ≤ limit) ∧
      ∀ next, page.nextCursor = some next →
        limit < (unexpired now (rowsAfter rows stream from_)).length ∧
        Retained rows stream now (some next) ∧
        unexpired now (rowsAfter rows stream (some next)) =
          (unexpired now (rowsAfter rows stream from_)).drop limit := by
  obtain ⟨start, hstart, hafter⟩ := startOf_retained h hfrom
  have hfound : ∀ row ∈ (streamLog rows stream).drop start, row ∈ rows :=
    fun row hrow => mem_of_streamLog (List.mem_of_mem_drop hrow)
  have hcollect := collect_eq h now limit hfound [] (Nat.zero_le limit)
  rw [List.map_drop, ← h.index, ← hafter, List.nil_append, List.length_nil, Nat.sub_zero,
    Nat.zero_add] at hcollect
  have hlist : self.listLocked stream from_ now limit = .ok {
      records := (unexpired now (rowsAfter rows stream from_)).take limit
      nextCursor := if decide (limit < (unexpired now (rowsAfter rows stream from_)).length) then
          ((unexpired now (rowsAfter rows stream from_)).take limit).getLast?.map
            (·.protocolReplayCursor)
        else none
      hasMore := decide (limit < (unexpired now (rowsAfter rows stream from_)).length) } := by
    unfold listLocked
    rw [hstart]
    change (self.collect now limit [] ((self.index stream).drop start) >>= _) = _
    rw [hcollect]
    rfl
  refine ⟨_, hlist, rfl, ?_, ?_⟩
  · intro hnone
    by_contra hmore
    have hmore : limit < (unexpired now (rowsAfter rows stream from_)).length := by omega
    have hlast : ((unexpired now (rowsAfter rows stream from_)).take limit).getLast? = none := by
      simpa [hmore] using hnone
    rw [List.getLast?_eq_none_iff, List.take_eq_nil_iff] at hlast
    rcases hlast with rfl | hnil
    · omega
    · simp [hnil] at hmore
  · intro next hnext
    by_cases hmore : limit < (unexpired now (rowsAfter rows stream from_)).length
    · have hat : limit - 1 < (unexpired now (rowsAfter rows stream from_)).length := by omega
      have hlast : ((unexpired now (rowsAfter rows stream from_)).take limit).getLast? =
          (unexpired now (rowsAfter rows stream from_))[limit - 1]? := by
        rw [List.getLast?_take, if_neg (by omega)]
        simp [hat]
      rw [List.getElem?_eq_getElem hat] at hlast
      generalize hrow : (unexpired now (rowsAfter rows stream from_))[limit - 1] = row at hlast
      obtain rfl : row.protocolReplayCursor = next := by simpa [hmore, hlast] using hnext
      have hget : (((streamLog rows stream).drop start).filter
          (fun row => !isExpired row now))[limit - 1]? = some row := by
        rw [← hafter]
        exact List.getElem?_eq_some_iff.mpr ⟨hat, hrow⟩
      obtain ⟨k, hk, hrest⟩ := exists_getElem?_of_filter hget
      rw [List.getElem?_drop] at hk
      refine ⟨hmore, ⟨row, List.mem_iff_getElem?.mpr ⟨_, hk⟩, rfl, ?_⟩, ?_⟩
      · have hmem := List.mem_of_getElem? hget
        simpa using (List.mem_filter.mp hmem).2
      · rw [rowsAfter_getElem? h hk, hafter]
        rw [List.drop_drop, Nat.sub_add_cancel hlimit] at hrest
        exact hrest
    · simp [hmore] at hnext

lemma nodup_rows (h : Represents self rows) : rows.Nodup := by
  refine List.nodup_iff_getElem?_ne_getElem?.mpr (fun i j hij hj heq => ?_)
  have hrow := List.getElem?_eq_getElem hj
  have hid := h.ids i _ (heq.trans hrow)
  rw [h.ids j _ hrow] at hid
  have := replayIdAt_inj hid
  omega

def appendAll [DecidableEq J] (self : InMemoryProtocolReplayState J) :
    List (Nat × ProtocolReplayDraft J) → InMemoryProtocolReplayState J ×
      List (Except ProtocolReplayError (ProtocolReplayRecord J))
  | [] => (self, [])
  | (now, draft) :: appends =>
    let appended := self.appendReplay now draft
    let rest := appended.1.appendAll appends
    (rest.1, appended.2 :: rest.2)

def answered [DecidableEq J] (answers : List (Except ProtocolReplayError (ProtocolReplayRecord J))) :
    List (ProtocolReplayRecord J) :=
  (answers.filterMap Except.toOption).eraseDups

lemma represents_appendAll [DecidableEq J] (h : Represents self rows)
    (appends : List (Nat × ProtocolReplayDraft J)) :
    Represents (self.appendAll appends).1
      (rows ++ (self.appendAll appends).2.filterMap Except.toOption).eraseDups := by
  induction appends generalizing self rows with
  | nil =>
    change Represents self (rows ++ []).eraseDups
    rw [List.append_nil, eraseDups_of_nodup (nodup_rows h)]
    exact h
  | cons append appends ih =>
    obtain ⟨now, draft⟩ := append
    rcases appendReplay_spec h now draft with
      ⟨error, -, happend⟩ | ⟨-, row, hrow, -, happend⟩ | ⟨-, -, self', row, happend, -, hself⟩
    · simp only [appendAll, happend]
      exact ih h
    · simp only [appendAll, happend]
      split
      · rw [List.filterMap_cons_some (f := Except.toOption) rfl, eraseDups_append_cons_of_mem hrow]
        exact ih h
      · exact ih h
    · simp only [appendAll, happend]
      rw [List.filterMap_cons_some (f := Except.toOption) rfl, List.append_cons]
      exact ih hself

inductive Reading (self : InMemoryProtocolReplayState J) (stream : ProtocolStreamKey) (now : Nat) :
    Option ProtocolReplayCursor → List Nat → List (ProtocolReplayRecord J) → Prop
  | last {from_ : Option ProtocolReplayCursor} {limit : Nat} {page : ProtocolReplayPage J} :
      1 ≤ limit → self.listReplay stream from_ now limit = .ok page → page.nextCursor = none →
      Reading self stream now from_ [limit] page.records
  | next {from_ : Option ProtocolReplayCursor} {limit : Nat} {page : ProtocolReplayPage J}
      {next : ProtocolReplayCursor} {limits : List Nat} {found : List (ProtocolReplayRecord J)} :
      1 ≤ limit → self.listReplay stream from_ now limit = .ok page →
      page.nextCursor = some next → Reading self stream now (some next) limits found →
      Reading self stream now from_ (limit :: limits) (page.records ++ found)

lemma listReplay_ok {stream : ProtocolStreamKey} {now limit : Nat}
    {from_ : Option ProtocolReplayCursor} {page : ProtocolReplayPage J}
    (hpage : self.listReplay stream from_ now limit = .ok page) :
    stream.validate = .ok () ∧ self.listLocked stream from_ now limit = .ok page :=
  bind_eq_ok hpage |>.elim (fun _ hand => hand)

lemma retained_of_page (h : Represents self rows) {stream : ProtocolStreamKey} {now limit : Nat}
    {from_ : Option ProtocolReplayCursor} {page : ProtocolReplayPage J}
    (hpage : self.listReplay stream from_ now limit = .ok page) :
    Retained rows stream now from_ := by
  cases from_ with
  | none => trivial
  | some cursor =>
    by_contra hlost
    have hlist := (listReplay_ok hpage).2
    rw [listLocked, startOf_lost h hlost] at hlist
    cases hlist

lemma listReplay_spec (h : Represents self rows) {stream : ProtocolStreamKey} {now limit : Nat}
    {from_ : Option ProtocolReplayCursor} {page : ProtocolReplayPage J} (hlimit : 1 ≤ limit)
    (hpage : self.listReplay stream from_ now limit = .ok page) :
    page.records = (unexpired now (rowsAfter rows stream from_)).take limit ∧
      (page.nextCursor = none → (unexpired now (rowsAfter rows stream from_)).length ≤ limit) ∧
      ∀ next, page.nextCursor = some next →
        limit < (unexpired now (rowsAfter rows stream from_)).length ∧
        Retained rows stream now (some next) ∧
        unexpired now (rowsAfter rows stream (some next)) =
          (unexpired now (rowsAfter rows stream from_)).drop limit := by
  obtain ⟨page', hlist, hspec⟩ := listLocked_spec h (retained_of_page h hpage) hlimit
  obtain rfl : page' = page := Except.ok.inj (hlist.symm.trans (listReplay_ok hpage).2)
  exact hspec

lemma reading_complete (h : Represents self rows) {stream : ProtocolStreamKey} {now : Nat}
    {from_ : Option ProtocolReplayCursor} {limits : List Nat}
    {found : List (ProtocolReplayRecord J)}
    (hreading : Reading self stream now from_ limits found) :
    found = unexpired now (rowsAfter rows stream from_) := by
  induction hreading with
  | last hlimit hpage hend =>
    obtain ⟨hrecords, hlast, -⟩ := listReplay_spec h hlimit hpage
    rw [hrecords, List.take_of_length_le (hlast hend)]
  | next hlimit hpage hnext _ ih =>
    obtain ⟨hrecords, -, hrest⟩ := listReplay_spec h hlimit hpage
    rw [ih, hrecords, (hrest _ hnext).2.2, List.take_append_drop]

lemma reading_ends (h : Represents self rows) {stream : ProtocolStreamKey} {now : Nat}
    (hstream : stream.validate = .ok ()) {from_ : Option ProtocolReplayCursor}
    (hfrom : Retained rows stream now from_) (limits : Nat → Nat) (hlimits : ∀ i, 1 ≤ limits i) :
    ∃ n found, Reading self stream now from_ ((List.range n).map limits) found := by
  induction hn : (unexpired now (rowsAfter rows stream from_)).length using Nat.strong_induction_on
    generalizing from_ limits with
  | _ n ih =>
    obtain ⟨page, hlist, -, hend, hrest⟩ := listLocked_spec h hfrom (hlimits 0)
    have hpage : self.listReplay stream from_ now (limits 0) = .ok page := by
      rw [listReplay, hstream]
      exact hlist
    cases hcursor : page.nextCursor with
    | none => exact ⟨1, page.records, Reading.last (hlimits 0) hpage hcursor⟩
    | some next =>
      obtain ⟨hmore, hretained, hafter⟩ := hrest next hcursor
      have hfewer : (unexpired now (rowsAfter rows stream (some next))).length < n := by
        have := hlimits 0
        rw [hafter, List.length_drop]
        omega
      obtain ⟨m, found, hfound⟩ := ih _ hfewer hretained (fun i => limits (i + 1))
        (fun i => hlimits (i + 1)) rfl
      refine ⟨m + 1, page.records ++ found, ?_⟩
      rw [List.range_succ_eq_map, List.map_cons, List.map_map]
      exact Reading.next (hlimits 0) hpage hcursor hfound

variable [DecidableEq J]

lemma appendReplay_again (h : Represents self rows) (now : Nat) {draft : ProtocolReplayDraft J}
    (hdraft : draft.validate = .ok ()) {row : ProtocolReplayRecord J} (hrow : row ∈ rows)
    (hsame : row.wireIdentity = draft.wireIdentity) :
    self.appendReplay now draft = (self, if row.draft = draft then .ok row
      else .error (.conflict
        s!"wire_event_id reused with different replay row: {draft.wireEventId}")) := by
  rcases appendReplay_spec h now draft with
    ⟨error, herror, -⟩ | ⟨-, found, hfound, hidentity, happend⟩ | ⟨-, hfresh, -⟩
  · rw [hdraft] at herror
    cases herror
  · obtain rfl : found = row :=
      List.inj_on_of_nodup_map h.identities hfound hrow (hidentity.trans hsame.symm)
    exact happend
  · exact absurd hsame (hfresh row hrow)

lemma appendAll_concat (self : InMemoryProtocolReplayState J)
    (appends : List (Nat × ProtocolReplayDraft J)) (now : Nat) (draft : ProtocolReplayDraft J) :
    (self.appendAll (appends ++ [(now, draft)])).2 =
      (self.appendAll appends).2 ++ [((self.appendAll appends).1.appendReplay now draft).2] := by
  induction appends generalizing self with
  | nil => rfl
  | cons append appends ih =>
    rw [List.cons_append, appendAll, appendAll]
    exact congrArg _ (ih _)

lemma answered_concat {answers : List (Except ProtocolReplayError (ProtocolReplayRecord J))}
    {row : ProtocolReplayRecord J} (hfresh : row ∉ answered answers) :
    answered (answers ++ [.ok row]) = answered answers ++ [row] := by
  have hnew : row ∉ answers.filterMap Except.toOption := fun h => hfresh (List.mem_eraseDups.mpr h)
  rw [answered, List.filterMap_append, List.eraseDups_append]
  refine congrArg ((answers.filterMap Except.toOption).eraseDups ++ ·) ?_
  change (List.removeAll [row] (answers.filterMap Except.toOption)).eraseDups = [row]
  have hkept : List.removeAll [row] (answers.filterMap Except.toOption) = [row] :=
    List.filter_cons_of_pos (by simpa [List.elem_eq_mem] using hnew)
  rw [hkept]
  rfl

/-- After any appends, a reading from a retained place ends and goes once, in the order of the
appends, through the rows of the stream behind that place that have not expired; a reading from
another cursor is refused. A valid draft with a new wire event gets a row of its own, the last one;
one whose wire event has a row gets that row again or, with another draft, a conflict, and nothing
is stored. -/
theorem replay_pages_complete (appends : List (Nat × ProtocolReplayDraft J)) :
    let state := (default.appendAll appends).1
    let rows := answered (default.appendAll appends).2
    (∀ stream now from_ limits found, Reading state stream now from_ limits found →
      found = unexpired now (rowsAfter rows stream from_)) ∧
    (∀ stream now from_, stream.validate = .ok () → Retained rows stream now from_ →
      ∀ limits : Nat → Nat, (∀ i, 1 ≤ limits i) →
        ∃ n found, Reading state stream now from_ ((List.range n).map limits) found) ∧
    (∀ stream now cursor, stream.validate = .ok () → ¬ Retained rows stream now (some cursor) →
      ∀ limit, state.listReplay stream (some cursor) now limit =
        .error (.cursorExpired cursor.1)) ∧
    (∀ now draft, draft.validate = .ok () →
      ∀ row ∈ rows, row.wireIdentity = draft.wireIdentity →
        state.appendReplay now draft = (state, if row.draft = draft then .ok row
          else .error (.conflict
            s!"wire_event_id reused with different replay row: {draft.wireEventId}"))) ∧
    (∀ now draft, draft.validate = .ok () →
      (∀ row ∈ rows, row.wireIdentity ≠ draft.wireIdentity) →
        ∃ row, (state.appendReplay now draft).2 = .ok row ∧ row.draft = draft ∧
          answered (default.appendAll (appends ++ [(now, draft)])).2 = rows ++ [row]) ∧
    ∀ now draft error, draft.validate = .error error →
      state.appendReplay now draft = (state, .error error) := by
  intro state rows
  have h : Represents state rows := represents_appendAll represents_default appends
  refine ⟨?_, ?_, ?_, ?_, ?_, ?_⟩
  · intro stream now from_ limits found hreading
    exact reading_complete h hreading
  · intro stream now from_ hstream hfrom limits hlimits
    exact reading_ends h hstream hfrom limits hlimits
  · intro stream now cursor hstream hlost limit
    rw [listReplay, hstream]
    change state.listLocked stream (some cursor) now limit = _
    rw [listLocked, startOf_lost h hlost]
    rfl
  · intro now draft hdraft row hrow hsame
    exact appendReplay_again h now hdraft hrow hsame
  · intro now draft hdraft hnew
    rcases appendReplay_spec h now draft with
      ⟨error, herror, -⟩ | ⟨-, found, hfound, hsame, -⟩ | ⟨-, -, state', row, happend, hrow, -⟩
    · rw [hdraft] at herror
      cases herror
    · exact absurd hsame (hnew found hfound)
    · have hanswer : (state.appendReplay now draft).2 = .ok row := by rw [happend]
      refine ⟨row, hanswer, hrow, ?_⟩
      rw [appendAll_concat]
      change answered (_ ++ [(state.appendReplay now draft).2]) = _
      rw [hanswer]
      exact answered_concat fun hmem =>
        hnew row hmem (congrArg ProtocolReplayDraft.wireIdentity hrow)
  · intro now draft error hinvalid
    rw [appendReplay, hinvalid]

def oneByte (byte : UInt8) : ProtocolReplayDraft Unit where
  streamId := "thread"
  protocol := "ag-ui"
  protocolVersion := "1"
  projectorVersion := "1"
  wireEventId := "wire"
  wireEventType := "RUN_STARTED"
  wirePayloadBytes := [byte]
  wirePayloadJson := none
  sourceEventIds := []
  sourceEventCursors := []
  redactionState := .clear
  expiresAt := some 5

theorem changed_draft_refused :
    ∃ (state : InMemoryProtocolReplayState Unit) (row : ProtocolReplayRecord Unit),
      default.appendReplay 1 (oneByte 1) = (state, .ok row) ∧
      (state.appendReplay 2 (oneByte 2)).2 = .error (.conflict
        s!"wire_event_id reused with different replay row: {(oneByte 2).wireEventId}") ∧
      ∀ limit, state.listReplay (oneByte 1).stream (some row.protocolReplayCursor) 5 limit =
        .error (.cursorExpired row.protocolReplayCursor.1) := by
  have hvalid : (oneByte 2).validate = .ok () := rfl
  have hstream : (oneByte 1).stream.validate = .ok () := rfl
  have hempty : Represents (default : InMemoryProtocolReplayState Unit) [] := represents_default
  obtain ⟨state, row, happend, hrow, h⟩ :
      ∃ state row, default.appendReplay 1 (oneByte 1) = (state, .ok row) ∧
        row.draft = oneByte 1 ∧ Represents state [row] := by
    rcases appendReplay_spec hempty 1 (oneByte 1) with
      ⟨error, herror, -⟩ | ⟨-, found, hfound, -⟩ | ⟨-, -, hstored⟩
    · cases herror
    · cases hfound
    · exact hstored
  refine ⟨state, row, happend, ?_, fun limit => ?_⟩
  · have hsame : row.wireIdentity = (oneByte 2).wireIdentity :=
      congrArg ProtocolReplayDraft.wireIdentity hrow
    have hother : row.draft ≠ oneByte 2 := by
      rw [hrow]
      decide
    rw [appendReplay_again h 2 hvalid List.mem_cons_self hsame, if_neg hother]
  · have hexpired : isExpired row 5 = true := by
      have hexpires : row.expiresAt = some 5 := congrArg ProtocolReplayDraft.expiresAt hrow
      simp [isExpired, hexpires]
    have hlost : ¬ Retained [row] (oneByte 1).stream 5 (some row.protocolReplayCursor) := by
      rintro ⟨found, hfound, -, hlive⟩
      obtain rfl := List.mem_singleton.mp (List.mem_of_mem_filter hfound)
      rw [hexpired] at hlive
      cases hlive
    rw [listReplay, hstream]
    change state.listLocked _ _ _ _ = _
    rw [listLocked, startOf_lost h hlost]
    rfl

end InMemoryProtocolReplayState

end Awaken.Stores.MemoryProtocolReplayLog
