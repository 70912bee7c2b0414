import Awaken.Contract.PairedCalls
import Awaken.Lib.Filtered
import Awaken.Stores.MemoryStore.Calls

/-! The sequence numbers of message records. A number is the position of a message in the committed
log; the readers count what is left of the log once the view is stripped. -/

namespace Awaken.Stores.MemoryStore

open Awaken.Lib Awaken.Contract Awaken.Contract.Storage Awaken.Contract.MessageAppend

variable {J C : Type}

def Denotes (log : List (Message J C)) (record : MessageRecord J C) : Prop :=
  1 ≤ record.seq ∧ (log.map (·.id))[record.seq - 1]? = some (some record.messageId)

/-- No message that the read view drops, a retraction marker or the result of a retracted call,
stands before one that it keeps. -/
def DropsLast (log : List (Message J C)) : Prop :=
  log.Pairwise (fun a b =>
    staysInView (retractedCalls log) b = true → staysInView (retractedCalls log) a = true)

instance (log : List (Message J C)) : Decidable (DropsLast log) :=
  inferInstanceAs (Decidable (List.Pairwise _ _))

inductive ReadBack (s : InMemoryStore J C) (gen : Nat → String) (threadId : String) :
    MessageRecord J C → Prop
  | load {records : List (MessageRecord J C)} {record : MessageRecord J C} :
      s.loadMessageRecords gen threadId = .ok (some records) → record ∈ records →
      ReadBack s gen threadId record
  | range {range : MessageSeqRange} {records : List (MessageRecord J C)}
      {record : MessageRecord J C} :
      s.loadMessageRecordsRange gen threadId range = .ok records → record ∈ records →
      ReadBack s gen threadId record
  | list {query : MessageQuery} {page : MessagePage J C} {record : MessageRecord J C} :
      s.listMessageRecords gen threadId query = .ok page → record ∈ page.records →
      ReadBack s gen threadId record

/-- The number of a record that is read is its position in the log, which is the number that the
append gave to it. -/
structure SeqStable (s : InMemoryStore J C) (gen : Nat → String) (threadId : String) : Prop where
  readBack : ∀ record, ReadBack s gen threadId record → Denotes (s.committed threadId) record
  assigned : ∀ messages records s',
    s.appendMessageRecords gen threadId messages = (.ok records, s') →
    ∀ record ∈ records, Denotes (s'.committed threadId) record

section View

variable {log : List (Message J C)}

lemma ids_stripUnpaired (log : List (Message J C)) :
    (stripUnpairedToolCallsFromView log).map (·.id) =
      (log.filter (staysInView (retractedCalls log))).map (·.id) := by
  rw [stripUnpairedToolCallsFromView, List.filter_map, List.map_map]
  congr 1
  · funext message
    exact retainCalls_id _ _ _
  · congr 1
    funext message
    exact staysInView_retainCalls _ _ _ _

lemma nodup_map_id (hlog : validateCommittedMessages log = .ok ()) : (log.map (·.id)).Nodup := by
  obtain ⟨hsome, hnodup⟩ := validateCommittedMessages_ids hlog
  have hids : log.map (·.id) = (messageIds log).map some := by
    clear hlog hnodup
    induction log with
    | nil => rfl
    | cons message log ih =>
      obtain ⟨messageId, hid⟩ := Option.isSome_iff_exists.mp (hsome message List.mem_cons_self)
      have htail := ih (fun m hm => hsome m (List.mem_cons_of_mem _ hm))
      rw [List.map_cons, htail, messageIds_cons (by rw [hid]; rfl), hid, List.map_cons]
      rfl
  rw [hids]
  exact hnodup.map (Option.some_injective _)

lemma mem_recordsFrom {gen : Nat → String} {threadId : String} {start : Nat}
    {messages : List (Message J C)} {record : MessageRecord J C} :
    record ∈ recordsFrom gen threadId start messages ↔
      ∃ i, ∃ h : i < messages.length,
        MessageRecord.fromMessage (gen i) threadId (start + i) messages[i] = record :=
  List.mem_mapIdx

lemma denotes_recordsFrom_iff {gen : Nat → String} {threadId : String} (start : Nat)
    {messages log : List (Message J C)} (hids : ∀ m ∈ messages, m.id.isSome) :
    (∀ record ∈ recordsFrom gen threadId (start + 1) messages, Denotes log record) ↔
      messages.map (·.id) <+: (log.map (·.id)).drop start := by
  rw [List.prefix_iff_getElem?]
  simp only [List.length_map, List.getElem?_drop, List.getElem_map]
  have hrecord : ∀ i, ∀ h : i < messages.length,
      (Denotes log (.fromMessage (gen i) threadId (start + 1 + i) messages[i]) ↔
        (log.map (·.id))[start + i]? = some messages[i].id) := by
    intro i h
    obtain ⟨messageId, hid⟩ := Option.isSome_iff_exists.mp (hids _ (List.getElem_mem h))
    have hseq : start + 1 + i - 1 = start + i := by omega
    simp only [Denotes, MessageRecord.fromMessage, hid, Option.getD_some, hseq]
    exact ⟨fun hd => hd.2, fun hd => ⟨by omega, hd⟩⟩
  constructor
  · intro hall i h
    exact (hrecord i h).mp (hall _ (mem_recordsFrom.mpr ⟨i, h, rfl⟩))
  · rintro hall record hmem
    obtain ⟨i, h, rfl⟩ := (mem_recordsFrom).mp hmem
    exact (hrecord i h).mpr (hall i h)

lemma isSome_of_mem_strip (hlog : validateCommittedMessages log = .ok ()) :
    ∀ m ∈ stripUnpairedToolCallsFromView log, m.id.isSome := by
  intro m hm
  have hid : m.id ∈ (stripUnpairedToolCallsFromView log).map (·.id) := List.mem_map.mpr ⟨m, hm, rfl⟩
  rw [ids_stripUnpaired] at hid
  obtain ⟨n, hn, heq⟩ := List.mem_map.mp hid
  rw [← heq]
  exact (validateCommittedMessages_ids hlog).1 n (List.mem_of_mem_filter hn)

lemma denotes_view_iff (gen : Nat → String) (threadId : String)
    (hlog : validateCommittedMessages log = .ok ()) :
    (∀ record ∈ recordsFrom gen threadId 1 (stripUnpairedToolCallsFromView log),
      Denotes log record) ↔ DropsLast log := by
  have h : (∀ record ∈ recordsFrom gen threadId 1 (stripUnpairedToolCallsFromView log),
      Denotes log record) ↔ _ := denotes_recordsFrom_iff 0 (isSome_of_mem_strip hlog)
  rw [List.drop_zero, ids_stripUnpaired, filter_map_prefix_iff (nodup_map_id hlog)] at h
  exact h

end View

section Readers

variable {s : InMemoryStore J C} {gen : Nat → String} {threadId : String}

def viewRecords (s : InMemoryStore J C) (gen : Nat → String) (threadId : String) :
    List (MessageRecord J C) :=
  recordsFrom gen threadId 1 (stripUnpairedToolCallsFromView (s.committed threadId))

lemma loadMessageRecords_some {log : List (Message J C)}
    (hlog : s.messages.get threadId = some log) (hvalid : validateCommittedMessages log = .ok ()) :
    s.loadMessageRecords gen threadId = .ok (some (viewRecords s gen threadId)) := by
  rw [viewRecords, InMemoryStore.committed_eq, hlog, Option.getD_some]
  unfold InMemoryStore.loadMessageRecords InMemoryStore.loadMessages
  rw [hlog]
  dsimp only
  rw [hvalid]
  rfl

lemma mem_view_of_loadMessageRecords {records : List (MessageRecord J C)}
    (h : s.loadMessageRecords gen threadId = .ok (some records)) :
    records = viewRecords s gen threadId := by
  cases hlog : s.messages.get threadId with
  | none =>
    unfold InMemoryStore.loadMessageRecords InMemoryStore.loadMessages at h
    rw [hlog] at h
    cases h
  | some log =>
    unfold InMemoryStore.loadMessageRecords InMemoryStore.loadMessages at h
    rw [hlog] at h
    obtain ⟨messages, hmessages, hrecords⟩ := bind_ok h
    obtain ⟨_, -, hview⟩ := bind_ok hmessages
    obtain rfl := Except.ok.inj hview
    rw [viewRecords, InMemoryStore.committed_eq, hlog]
    exact (Option.some.inj (Except.ok.inj hrecords)).symm

lemma mem_view_of_readBack {record : MessageRecord J C} (h : ReadBack s gen threadId record) :
    record ∈ viewRecords s gen threadId := by
  cases h with
  | load h hm =>
    rwa [mem_view_of_loadMessageRecords h] at hm
  | range h hm =>
    obtain ⟨records, hload, hfilter⟩ := bind_ok h
    obtain rfl := Except.ok.inj hfilter
    have hmem := List.mem_of_mem_filter hm
    cases records with
    | none => cases hmem
    | some records =>
      rw [mem_view_of_loadMessageRecords hload] at hmem
      exact hmem
  | list h hm =>
    rw [viewRecords, InMemoryStore.committed_eq]
    unfold InMemoryStore.listMessageRecords at h
    cases hlog : s.messages.get threadId with
    | none =>
      rw [hlog] at h
      obtain rfl := Except.ok.inj h
      cases hm
    | some log =>
      rw [hlog] at h
      obtain ⟨_, -, h⟩ := bind_ok h
      obtain ⟨_, -, h⟩ := bind_ok h
      obtain rfl := Except.ok.inj h
      exact mem_paginateMessageRecords hm

lemma denotes_of_append {messages : List (Message J C)} {records : List (MessageRecord J C)}
    {s' : InMemoryStore J C}
    (h : s.appendMessageRecords gen threadId messages = (.ok records, s')) :
    ∀ record ∈ records, Denotes (s'.committed threadId) record := by
  unfold InMemoryStore.appendMessageRecords at h
  dsimp only at h
  rw [InMemoryStore.committed_touchMessages] at h
  cases hdelta : validateAppendOnlyDelta (s.committed threadId) messages with
  | error e =>
    rw [hdelta] at h
    cases h
  | ok u =>
    rw [hdelta] at h
    obtain ⟨hrecords, rfl⟩ := Prod.mk.inj h
    obtain rfl := Except.ok.inj hrecords
    rw [InMemoryStore.committed_putMessages]
    refine (denotes_recordsFrom_iff _ (validateDelta_ids hdelta).1).mpr ?_
    have hdrop : ((s.committed threadId ++ messages).map (·.id)).drop
        (s.committed threadId).length = messages.map (·.id) := by
      rw [List.map_append, List.drop_left' (List.length_map _)]
    exact hdrop.symm ▸ List.prefix_rfl

end Readers

/-- In every state that calls lead to, the readers number the messages of a thread by their
positions in its committed log exactly when the view drops nothing but the end of the log. -/
theorem seqStable_iff [DecidableEq J] {s : InMemoryStore J C} (hs : Reachable StoreStep .new s)
    (gen : Nat → String) (threadId : String) :
    SeqStable s gen threadId ↔ DropsLast (s.committed threadId) := by
  have hvalid := (logsValid_of_reachable hs).committed threadId
  rw [← denotes_view_iff gen threadId hvalid]
  constructor
  · intro h record hmem
    cases hlog : s.messages.get threadId with
    | none =>
      rw [InMemoryStore.committed_eq, hlog] at hmem
      cases hmem
    | some log =>
      have hv := logsValid_of_reachable hs threadId log hlog
      exact h.readBack record (.load (loadMessageRecords_some hlog hv) hmem)
  · intro h
    refine ⟨fun record hread => h record (mem_view_of_readBack hread), ?_⟩
    intro messages records s' happend
    exact denotes_of_append happend

def retractedLog : List (Message Unit Unit) :=
  [⟨some "m1", .user, [], none, none, .all, none⟩,
    ⟨some "m2", .assistant, [], some [⟨"c1", "search", ()⟩], none, .all, none⟩,
    ⟨some "m3", .tool, [], none, some "c1", .internal, none⟩,
    ⟨some "m4", .user, [], none, none, .all, none⟩]

def retractedStore : InMemoryStore Unit Unit :=
  (InMemoryStore.new.exec ⟨0, fun _ => ""⟩ (.appendMessageRecords "t1" retractedLog)).2

lemma reachable_retractedStore : Reachable StoreStep .new retractedStore :=
  ⟨_, .single (l := .appendMessageRecords "t1" retractedLog) ⟨⟨0, fun _ => ""⟩, rfl⟩⟩

theorem seqStable_iff_retractedStore :
    SeqStable retractedStore (fun _ => "") "t1" ↔ DropsLast (retractedStore.committed "t1") :=
  seqStable_iff reachable_retractedStore (fun _ => "") "t1"

theorem seq_shifts_after_retraction :
    ¬ ∀ s : InMemoryStore Unit Unit, Reachable StoreStep .new s →
      ∀ gen threadId, SeqStable s gen threadId := by
  intro h
  have hlog : retractedStore.messages.get "t1" = some retractedLog := by decide
  have hvalid : validateCommittedMessages retractedLog = .ok () := by decide
  have hread := (h retractedStore reachable_retractedStore (fun _ => "") "t1").readBack
  have hview : ∀ record ∈ viewRecords retractedStore (fun _ => "") "t1",
      Denotes retractedLog record := by
    intro record hmem
    exact hread record (.load (loadMessageRecords_some hlog hvalid) hmem)
  have hdrops : ¬ DropsLast retractedLog := by decide
  exact hdrops ((denotes_view_iff _ _ hvalid).mp hview)

end Awaken.Stores.MemoryStore
