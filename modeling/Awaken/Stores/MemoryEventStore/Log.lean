import Awaken.Stores.MemoryEventStore
import Awaken.Lib.Filtered

namespace Awaken.Stores.MemoryEventStore

open Awaken.Lib Awaken.Lib.Text Awaken.Contract.EventStore

variable {J D : Type}

def eventIdAt (n : Nat) : CanonicalEventId := ⟨numbered "evt_mem" n, isBlank_numbered _ _⟩

def cursorAt (n : Nat) : EventCursor := ⟨numbered "cur_mem" n, isBlank_numbered _ _⟩

lemma eventId_new (n : Nat) : CanonicalEventId.new (numbered "evt_mem" n) = .ok (eventIdAt n) :=
  dif_pos (isBlank_numbered _ _)

lemma cursor_new (n : Nat) : EventCursor.new (numbered "cur_mem" n) = .ok (cursorAt n) :=
  dif_pos (isBlank_numbered _ _)

lemma eventIdAt_inj {m n : Nat} (h : eventIdAt m = eventIdAt n) : m = n :=
  numbered_inj (congrArg Subtype.val h)

lemma cursorAt_inj {m n : Nat} (h : cursorAt m = cursorAt n) : m = n :=
  numbered_inj (congrArg Subtype.val h)

def scopeLog (log : List (CanonicalEvent J)) (scope : EventScope) : List (CanonicalEvent J) :=
  log.filter (scope ∈ ·.scopes)

structure Represents (state : InMemoryEventState J D) (log : List (CanonicalEvent J)) : Prop where
  count : state.nextEventSeq = log.length
  eventIds : ∀ k event, log[k]? = some event → event.eventId = eventIdAt (k + 1)
  events : ∀ eventId, state.events.get eventId = log.find? (·.eventId = eventId)
  index : ∀ scope, state.index scope = (scopeLog log scope).map (·.eventId)
  seq : ∀ scope, (state.nextScopeSeq.get scope).getD 0 = (scopeLog log scope).length
  cursors : ∀ scope k event, (scopeLog log scope)[k]? = some event →
    event.cursorsByScope.get scope = some (cursorAt (k + 1))
  positions : ∀ scope cursor k, state.cursorPositions.get (scope, cursor) = some k ↔
    k < (scopeLog log scope).length ∧ cursor = cursorAt (k + 1)
  remembered : ∀ identity record, state.idempotency.get identity = some record →
    ∃ event ∈ log, event.eventId = record.eventId

namespace InMemoryEventState

variable {self : InMemoryEventState J D} {log : List (CanonicalEvent J)}

lemma represents_default : Represents (default : InMemoryEventState J D) [] where
  count := rfl
  eventIds := by simp
  events := by simp [default]
  index := by simp [default, index, scopeLog]
  seq := by simp [default, scopeLog]
  cursors := by simp [scopeLog]
  positions := by simp [default, scopeLog]
  remembered := by simp [default]

lemma assignCursors_eq (self : InMemoryEventState J D) (cursors : Table EventScope EventCursor)
    {scopes : List EventScope} (hn : scopes.Nodup) :
    ∃ seqs cursors', self.assignCursors cursors scopes =
        ({ self with nextScopeSeq := seqs }, .ok cursors') ∧
      (∀ scope, seqs.get scope =
        if scope ∈ scopes then some ((self.nextScopeSeq.get scope).getD 0 + 1)
        else self.nextScopeSeq.get scope) ∧
      ∀ scope, cursors'.get scope =
        if scope ∈ scopes then some (cursorAt ((self.nextScopeSeq.get scope).getD 0 + 1))
        else cursors.get scope := by
  induction scopes generalizing self cursors with
  | nil => exact ⟨self.nextScopeSeq, cursors, rfl, by simp, by simp⟩
  | cons scope scopes ih =>
    obtain ⟨hnot, hn⟩ := List.nodup_cons.mp hn
    obtain ⟨seqs, cursors', heq, hseqs, hcursors⟩ := ih { self with
      nextScopeSeq := self.nextScopeSeq.insert scope
        ((self.nextScopeSeq.get scope).getD 0 + 1) }
      (cursors.insert scope (cursorAt ((self.nextScopeSeq.get scope).getD 0 + 1))) hn
    refine ⟨seqs, cursors', ?_, ?_, ?_⟩
    · rw [assignCursors]
      simp only [cursor_new]
      exact heq
    · intro s
      rw [hseqs s]
      by_cases hs : s = scope
      · subst hs
        simp [hnot, Table.get_insert]
      · simp [hs, Table.get_insert]
    · intro s
      rw [hcursors s]
      by_cases hs : s = scope
      · subst hs
        simp [hnot, Table.get_insert]
      · simp [hs, Table.get_insert]

lemma indexEvent_eq (self : InMemoryEventState J D) (event : CanonicalEvent J)
    {scopes : List EventScope} (hn : scopes.Nodup)
    (hcursors : ∀ scope ∈ scopes, (event.cursorsByScope.get scope).isSome) :
    ∃ indexes positions, self.indexEvent event scopes =
        ({ self with scopeIndexes := indexes, cursorPositions := positions }, .ok ()) ∧
      (∀ scope, (indexes.get scope).getD [] =
        if scope ∈ scopes then self.index scope ++ [event.eventId] else self.index scope) ∧
      ∀ scope cursor, positions.get (scope, cursor) =
        if scope ∈ scopes ∧ event.cursorsByScope.get scope = some cursor
        then some (self.index scope).length else self.cursorPositions.get (scope, cursor) := by
  induction scopes generalizing self with
  | nil => exact ⟨self.scopeIndexes, self.cursorPositions, rfl, by simp [index], by simp⟩
  | cons scope scopes ih =>
    obtain ⟨hnot, hn⟩ := List.nodup_cons.mp hn
    obtain ⟨cursor, hcursor⟩ := Option.isSome_iff_exists.mp (hcursors scope List.mem_cons_self)
    obtain ⟨indexes, positions, heq, hindexes, hpositions⟩ := ih { self with
      scopeIndexes := self.scopeIndexes.insert scope (self.index scope ++ [event.eventId])
      cursorPositions := self.cursorPositions.insert (scope, cursor) (self.index scope).length }
      hn (fun s hs => hcursors s (List.mem_cons_of_mem _ hs))
    refine ⟨indexes, positions, ?_, ?_, ?_⟩
    · rw [indexEvent]
      simp only [hcursor]
      exact heq
    · intro s
      rw [hindexes s]
      by_cases hs : s = scope
      · subst hs
        simp [hnot, index, Table.get_insert]
      · simp [hs, index, Table.get_insert]
    · intro s c
      rw [hpositions s c]
      by_cases hs : s = scope
      · subst hs
        by_cases hc : c = cursor
        · subst hc
          simp [hnot, hcursor, Table.get_insert]
        · have hne : some cursor ≠ some c := fun h => hc (Option.some.inj h).symm
          simp [hnot, hcursor, Table.get_insert, hc, hne]
      · simp [hs, index, Table.get_insert]

lemma scopeLog_append (log : List (CanonicalEvent J)) (event : CanonicalEvent J)
    (scope : EventScope) : scopeLog (log ++ [event]) scope =
      scopeLog log scope ++ if scope ∈ event.scopes then [event] else [] := by
  by_cases h : scope ∈ event.scopes <;> simp [scopeLog, h]

theorem store_spec (h : Represents self log) {draft : CanonicalEventDraft J}
    (hdraft : draft.validate = .ok ()) (now : Nat) (identity : Option (String × String))
    (digest : D) :
    ∃ self' event, self.store now draft identity digest = (self', ⟨[event], .ok event⟩) ∧
      event.draft = draft ∧ Represents self' (log ++ [event]) ∧
      ∀ key, self'.idempotency.get key =
        if identity = some key then some ⟨digest, event.eventId⟩ else self.idempotency.get key := by
  have hn : draft.scopes.Nodup := (CanonicalEventDraft.validate_ok hdraft).1
  obtain ⟨seqs, cursors, hassign, hseqs, hcursors⟩ := assignCursors_eq
    { self with nextEventSeq := self.nextEventSeq + 1 } .empty hn
  have hcover : ∀ scope, (cursors.get scope).isSome ↔ scope ∈ draft.scopes := by
    intro scope
    rw [hcursors scope]
    by_cases hs : scope ∈ draft.scopes <;> simp [hs]
  obtain ⟨event, hevent, hid, hby, hdrafted⟩ :=
    CanonicalEvent.fromAppend_eq hdraft (eventIdAt (self.nextEventSeq + 1)) now hcover
  have hscopes : event.scopes = draft.scopes := congrArg CanonicalEventDraft.scopes hdrafted
  obtain ⟨indexes, positions, hindex, hindexes, hpositions⟩ := indexEvent_eq
    { self with nextEventSeq := self.nextEventSeq + 1, nextScopeSeq := seqs } event
    (hscopes ▸ hn) (fun scope hs => hby ▸ (hcover scope).mpr (hscopes ▸ hs))
  obtain ⟨records, hrecords, hremember⟩ : ∃ records : Table (String × String) (IdempotencyRecord D),
      (∀ key, records.get key =
        if identity = some key then some ⟨digest, event.eventId⟩ else self.idempotency.get key) ∧
      ∀ state : InMemoryEventState J D, state.idempotency = self.idempotency →
        state.remember identity digest event.eventId = { state with idempotency := records } := by
    cases identity with
    | none =>
      exact ⟨self.idempotency, by simp, fun state hstate => by rw [remember, ← hstate]⟩
    | some key =>
      refine ⟨self.idempotency.insert key ⟨digest, event.eventId⟩, ?_, ?_⟩
      · intro key'
        simp [Table.get_insert, eq_comm]
      · intro state hstate
        rw [remember, hstate]
  refine ⟨⟨self.nextEventSeq + 1, seqs, self.events.insert event.eventId event, indexes,
    positions, records⟩, event, ?_, hdrafted, ?_, hrecords⟩
  · rw [store]
    simp only [eventId_new, hassign, hevent, hindex]
    rw [← hid]
    simp only [hremember ⟨self.nextEventSeq + 1, seqs, self.events, indexes, positions,
      self.idempotency⟩ rfl]
  · have hlen : ∀ scope, (self.index scope).length = (scopeLog log scope).length := by
      intro scope
      rw [h.index, List.length_map]
    refine ⟨?_, ?_, ?_, ?_, ?_, ?_, ?_, ?_⟩
    · simp [h.count]
    · intro k found hk
      rcases getElem?_append_singleton hk with hk | ⟨rfl, rfl⟩
      · exact h.eventIds k found hk
      · rw [hid, h.count]
    · intro eventId
      change (self.events.insert event.eventId event).get eventId = _
      rw [Table.get_insert, List.find?_append, h.events]
      by_cases he : eventId = event.eventId
      · subst he
        have hfresh : log.find? (·.eventId = event.eventId) = none := by
          rw [List.find?_eq_none]
          intro old hold hsame
          obtain ⟨k, hk⟩ := List.mem_iff_getElem?.mp hold
          have hlt : k < log.length := (List.getElem?_eq_some_iff.mp hk).1
          have heq : eventIdAt (k + 1) = eventIdAt (log.length + 1) := by
            rw [← h.eventIds k old hk, ← h.count, ← hid]
            exact of_decide_eq_true hsame
          have := eventIdAt_inj heq
          omega
        simp [hfresh]
      · have hne : ¬ event.eventId = eventId := fun h => he h.symm
        simp [he, hne]
    · intro scope
      change (indexes.get scope).getD [] = _
      rw [hindexes, scopeLog_append, List.map_append]
      change (if scope ∈ event.scopes then self.index scope ++ _ else self.index scope) = _
      rw [h.index]
      by_cases hs : scope ∈ event.scopes <;> simp [hs]
    · intro scope
      change (seqs.get scope).getD 0 = _
      rw [hseqs, scopeLog_append, hscopes, List.length_append, ← h.seq scope]
      by_cases hs : scope ∈ draft.scopes <;> simp [hs]
    · intro scope k found hk
      rw [scopeLog_append] at hk
      by_cases hs : scope ∈ event.scopes
      · rw [if_pos hs] at hk
        rcases getElem?_append_singleton hk with hk | ⟨rfl, rfl⟩
        · exact h.cursors scope k found hk
        · rw [hby, hcursors scope, if_pos (hscopes ▸ hs)]
          exact congrArg (fun n => some (cursorAt (n + 1))) (h.seq scope)
      · rw [if_neg hs, List.append_nil] at hk
        exact h.cursors scope k found hk
    · intro scope cursor k
      change positions.get (scope, cursor) = some k ↔ _
      rw [hpositions, scopeLog_append, List.length_append]
      change (if _ then some (self.index scope).length else self.cursorPositions.get _) = _ ↔ _
      rw [hlen]
      have hcursor : scope ∈ event.scopes →
          event.cursorsByScope.get scope = some (cursorAt ((scopeLog log scope).length + 1)) := by
        intro hs
        rw [hby, hcursors scope, if_pos (hscopes ▸ hs)]
        exact congrArg (fun n => some (cursorAt (n + 1))) (h.seq scope)
      by_cases hs : scope ∈ event.scopes
      · rw [hcursor hs, if_pos hs]
        by_cases hc : cursor = cursorAt ((scopeLog log scope).length + 1)
        · subst hc
          simp only [hs, true_and, if_true, Option.some.injEq, List.length_singleton]
          constructor
          · rintro rfl
            exact ⟨Nat.lt_succ_self _, rfl⟩
          · rintro ⟨-, heq⟩
            have := cursorAt_inj heq
            omega
        · have hne : ¬ some (cursorAt ((scopeLog log scope).length + 1)) = some cursor :=
            fun heq => hc (Option.some.inj heq).symm
          rw [if_neg (fun hand => hne hand.2), h.positions, List.length_singleton]
          constructor
          · rintro ⟨hk, rfl⟩
            exact ⟨Nat.lt_succ_of_lt hk, rfl⟩
          · rintro ⟨hk, rfl⟩
            refine ⟨?_, rfl⟩
            have : k ≠ (scopeLog log scope).length := fun heq => hc (heq ▸ rfl)
            omega
      · rw [if_neg (fun hand => hs hand.1), if_neg hs]
        exact h.positions scope cursor k
    · intro key record hkey
      have hkey : records.get key = some record := hkey
      rw [hrecords] at hkey
      split at hkey
      · cases hkey
        exact ⟨event, by simp, rfl⟩
      · obtain ⟨found, hfound, he⟩ := h.remembered key record hkey
        exact ⟨found, List.mem_append_left _ hfound, he⟩

section Append

variable [DecidableEq D]

end Append

lemma find?_eventId (h : Represents self log) {event : CanonicalEvent J} (hmem : event ∈ log) :
    log.find? (·.eventId = event.eventId) = some event := by
  cases hfind : log.find? (·.eventId = event.eventId) with
  | none => exact absurd (List.find?_eq_none.mp hfind event hmem) (by simp)
  | some found =>
    have hsame : found.eventId = event.eventId := by simpa using List.find?_some hfind
    obtain ⟨i, hi⟩ := List.mem_iff_getElem?.mp (List.mem_of_find?_eq_some hfind)
    obtain ⟨j, hj⟩ := List.mem_iff_getElem?.mp hmem
    rw [h.eventIds i found hi, h.eventIds j event hj] at hsame
    obtain rfl : i = j := by
      have := eventIdAt_inj hsame
      omega
    rw [← hi, hj]

lemma mapM_loadIndexed (h : Represents self log) {events : List (CanonicalEvent J)}
    (hmem : ∀ event ∈ events, event ∈ log) :
    (events.map (·.eventId)).mapM self.loadIndexed = .ok events := by
  induction events with
  | nil => rfl
  | cons event events ih =>
    have hload : self.loadIndexed event.eventId = .ok event := by
      rw [loadIndexed, h.events, find?_eventId h (hmem event List.mem_cons_self)]
    rw [List.map_cons, List.mapM_cons, hload, ih (fun e he => hmem e (List.mem_cons_of_mem _ he))]
    rfl

def eventsAfter (log : List (CanonicalEvent J)) (scope : EventScope) :
    Option EventCursor → List (CanonicalEvent J)
  | none => scopeLog log scope
  | some cursor =>
    ((scopeLog log scope).dropWhile (·.cursorsByScope.get scope ≠ some cursor)).drop 1

lemma eventsAfter_cursorAt (h : Represents self log) {scope : EventScope} {k : Nat}
    (hk : k < (scopeLog log scope).length) :
    eventsAfter log scope (some (cursorAt (k + 1))) = (scopeLog log scope).drop (k + 1) := by
  have hsplit : (scopeLog log scope) = (scopeLog log scope).take k ++ (scopeLog log scope).drop k :=
    (List.take_append_drop k _).symm
  have hbefore : ∀ event ∈ (scopeLog log scope).take k,
      decide (event.cursorsByScope.get scope ≠ some (cursorAt (k + 1))) = true := by
    intro event hevent
    obtain ⟨i, hi⟩ := List.mem_iff_getElem?.mp hevent
    rw [List.getElem?_take] at hi
    split at hi
    · rw [h.cursors scope i event hi, decide_eq_true_eq]
      intro heq
      have := cursorAt_inj (Option.some.inj heq)
      omega
    · cases hi
  have hhere : (scopeLog log scope).drop k =
      (scopeLog log scope)[k] :: (scopeLog log scope).drop (k + 1) := List.drop_eq_getElem_cons hk
  have hcursor := h.cursors scope k _ (List.getElem?_eq_getElem hk)
  rw [eventsAfter]
  nth_rewrite 1 [hsplit]
  rw [List.dropWhile_append_of_pos hbefore, hhere, List.dropWhile_cons_of_neg (by simp [hcursor])]
  rfl

/-- The cursor is the start of the scope or one that the scope has given out. -/
def Known (log : List (CanonicalEvent J)) (scope : EventScope) : Option EventCursor → Prop
  | none => True
  | some cursor => ∃ k < (scopeLog log scope).length, cursor = cursorAt (k + 1)

lemma Known.append {scope : EventScope} {cursor : Option EventCursor}
    (h : Known log scope cursor) (event : CanonicalEvent J) :
    Known (log ++ [event]) scope cursor := by
  cases cursor with
  | none => trivial
  | some cursor =>
    obtain ⟨k, hk, hcursor⟩ := h
    refine ⟨k, ?_, hcursor⟩
    rw [scopeLog_append, List.length_append]
    omega

lemma known_of_position (h : Represents self log) {scope : EventScope}
    {cursor : Option EventCursor} {start : Nat} (hposition : self.position scope cursor = .ok start) :
    Known log scope cursor := by
  cases cursor with
  | none => trivial
  | some cursor =>
    cases hget : self.cursorPositions.get (scope, cursor) with
    | some k => exact ⟨k, (h.positions scope cursor k).mp hget⟩
    | none => simp [position, hget] at hposition

lemma position_spec (h : Represents self log) (scope : EventScope)
    (cursor : Option EventCursor) :
    (∃ start, self.position scope cursor = .ok start ∧ start ≤ (scopeLog log scope).length ∧
      eventsAfter log scope cursor = (scopeLog log scope).drop start) ∨
    (∃ error, self.position scope cursor = .error error) ∧ ¬ Known log scope cursor := by
  cases cursor with
  | none => exact .inl ⟨0, rfl, Nat.zero_le _, rfl⟩
  | some cursor =>
    cases hget : self.cursorPositions.get (scope, cursor) with
    | some k =>
      obtain ⟨hk, rfl⟩ := (h.positions scope cursor k).mp hget
      exact .inl ⟨k + 1, by simp [position, hget], hk, eventsAfter_cursorAt h hk⟩
    | none =>
      refine .inr ⟨⟨_, by simp [position, hget]; rfl⟩, ?_⟩
      rintro ⟨k, hk, hcursor⟩
      rw [(h.positions scope cursor k).mpr ⟨hk, hcursor⟩] at hget
      cases hget

lemma cursor_of_piece (h : Represents self log) {scope : EventScope} (start : Nat) {stop : Nat}
    (hstop : stop ≤ (scopeLog log scope).length) :
    (∀ next, ((((scopeLog log scope).take stop).drop start).getLast?.bind
        (·.cursorsByScope.get scope)) = some next →
      Known log scope (some next) ∧
        eventsAfter log scope (some next) = (scopeLog log scope).drop stop) ∧
    (((scopeLog log scope).take stop).drop start ≠ [] →
      ((((scopeLog log scope).take stop).drop start).getLast?.bind
        (·.cursorsByScope.get scope)).isSome) := by
  by_cases hlt : start < stop
  · have hlast : (((scopeLog log scope).take stop).drop start).getLast? =
        (scopeLog log scope)[stop - 1]? := by
      rw [List.getLast?_drop, List.length_take, Nat.min_eq_left hstop, if_neg (by omega),
        List.getLast?_take, if_neg (by omega)]
      have hsome : stop - 1 < (scopeLog log scope).length := by omega
      simp [hsome]
    have hat : stop - 1 < (scopeLog log scope).length := by omega
    have hcursor := h.cursors scope (stop - 1) _ (List.getElem?_eq_getElem hat)
    rw [hlast, List.getElem?_eq_getElem hat, Option.bind_some, hcursor]
    have hsucc : stop - 1 + 1 = stop := by omega
    refine ⟨?_, fun _ => rfl⟩
    rintro next hnext
    rw [← Option.some.inj hnext, eventsAfter_cursorAt h hat, hsucc]
    exact ⟨⟨stop - 1, hat, congrArg cursorAt hsucc.symm⟩, rfl⟩
  · have hnil : ((scopeLog log scope).take stop).drop start = [] := by
      rw [List.drop_eq_nil_iff, List.length_take]
      omega
    rw [hnil]
    exact ⟨fun next hnext => absurd hnext (by simp), fun hne => absurd rfl hne⟩

theorem listLocked_spec (h : Represents self log) (scope : EventScope)
    (cursor : Option EventCursor) (limit : Option Nat) :
    (∃ page, self.listLocked scope cursor limit = .ok page ∧ Known log scope cursor ∧
      page.events = (limit.elim id List.take) (eventsAfter log scope cursor) ∧
      (page.hasMore = true ↔ page.events.length < (eventsAfter log scope cursor).length) ∧
      (∀ next, page.nextCursor = some next → page.hasMore = true ∧
        Known log scope (some next) ∧
        eventsAfter log scope (some next) =
          (eventsAfter log scope cursor).drop page.events.length) ∧
      (page.hasMore = true → page.events ≠ [] → page.nextCursor.isSome)) ∨
    (∃ error, self.listLocked scope cursor limit = .error error) ∧ ¬ Known log scope cursor := by
  rcases position_spec h scope cursor with
    ⟨start, hposition, hstart, hafter⟩ | ⟨⟨error, herror⟩, hunknown⟩
  · left
    have hids : (self.index scope).length = (scopeLog log scope).length := by
      rw [h.index, List.length_map]
    let stop := limit.elim (self.index scope).length
      (fun limit => min (start + limit) (self.index scope).length)
    have hrange : start ≤ stop ∧ stop ≤ (scopeLog log scope).length := by
      cases limit with
      | none => exact ⟨by simpa [stop, hids] using hstart, by simp [stop, hids]⟩
      | some limit =>
        change start ≤ min _ _ ∧ min _ _ ≤ _
        omega
    have hpiece : (((self.index scope).take stop).drop start).mapM self.loadIndexed =
        .ok (((scopeLog log scope).take stop).drop start) := by
      rw [h.index, ← List.map_take, ← List.map_drop]
      refine mapM_loadIndexed h (fun event hevent => ?_)
      exact List.mem_of_mem_filter (List.mem_of_mem_take (List.mem_of_mem_drop hevent))
    obtain ⟨hnext, hsome⟩ := cursor_of_piece h start hrange.2
    have hlist : self.listLocked scope cursor limit = .ok {
        events := ((scopeLog log scope).take stop).drop start
        nextCursor := if stop < (self.index scope).length then
            (((scopeLog log scope).take stop).drop start).getLast?.bind
              (·.cursorsByScope.get scope)
          else none
        hasMore := decide (stop < (self.index scope).length) } := by
      unfold listLocked
      rw [hposition]
      cases limit with
      | none =>
        change ((((self.index scope).take stop).drop start).mapM self.loadIndexed >>= _) = _
        rw [hpiece]
        simp only [decide_eq_true_eq]
        rfl
      | some limit =>
        change ((((self.index scope).take stop).drop start).mapM self.loadIndexed >>= _) = _
        rw [hpiece]
        simp only [decide_eq_true_eq]
        rfl
    have hlength : (((scopeLog log scope).take stop).drop start).length = stop - start := by
      rw [List.length_drop, List.length_take, Nat.min_eq_left hrange.2]
    refine ⟨_, hlist, known_of_position h hposition, ?_, ?_, ?_, ?_⟩
    · rw [hafter, List.drop_take]
      cases limit with
      | none =>
        refine List.take_of_length_le ?_
        rw [List.length_drop, show stop = (self.index scope).length from rfl, hids]
      | some limit =>
        change List.take (min (start + limit) (self.index scope).length - start) _ = List.take limit _
        rw [List.take_eq_take_iff, List.length_drop, hids]
        omega
    · rw [hlength, hafter, List.length_drop, decide_eq_true_eq, hids]
      omega
    · intro next hcursor
      by_cases hmore : stop < (self.index scope).length
      · obtain ⟨hknown, hrest⟩ := hnext next (by simpa [hmore] using hcursor)
        refine ⟨by simpa using hmore, hknown, ?_⟩
        rw [hrest, hlength, hafter, List.drop_drop]
        congr 1
        omega
      · simp [hmore] at hcursor
    · intro hmore hne
      have hmore : stop < (self.index scope).length := by simpa using hmore
      simpa [hmore] using hsome hne
  · refine .inr ⟨⟨error, ?_⟩, hunknown⟩
    rw [listLocked, herror]
    rfl

end InMemoryEventState

end Awaken.Stores.MemoryEventStore
