import Awaken.Lib.Run
import Awaken.Stores.MemoryOutbox.Claims

namespace Awaken.Stores.MemoryOutbox

open Awaken.Lib Awaken.Lib.Text Awaken.Contract.Mailbox Awaken.Contract.Outbox InMemoryOutboxState

variable {J D : Type}

inductive OutboxCall (J : Type) where
  | enqueue (draft : OutboxMessageDraft J)
  | claim (lane target : String) (limit leaseMs : Nat) (consumerId : String) (now : Nat)
  | ack (outboxId claimToken : String) (now : Nat)
  | nack (outboxId claimToken error : String) (retryAt now : Nat)

/-- The clock and the drawn ids at the time of a call. -/
structure Draw where
  now : Nat
  uuid : Nat → String

structure Tracked (J D : Type) where
  state : InMemoryOutboxState J D
  issued : List (String × String)

def handedOut (result : Except OutboxError (List (OutboxMessage J))) : List (String × String) :=
  match result with
  | .ok claimed => claimed.map (fun message => (message.outboxId, message.claimToken.getD ""))
  | .error _ => []

def Tracked.exec [DecidableEq D] (digest : OutboxMessageDraft J → D) (draw : Draw)
    (d : Tracked J D) : OutboxCall J → Tracked J D
  | .enqueue draft => { d with state := (d.state.enqueueOutbox digest draw.now draft).2 }
  | .claim lane target limit leaseMs consumerId now =>
    let r := d.state.claimOutbox draw.uuid lane target limit leaseMs consumerId now
    ⟨r.2, d.issued ++ handedOut r.1⟩
  | .ack outboxId claimToken now => { d with state := (d.state.ackOutbox outboxId claimToken now).2 }
  | .nack outboxId claimToken error retryAt now =>
    { d with state := (d.state.nackOutbox outboxId claimToken error retryAt now).2 }

def OutboxStep [DecidableEq D] (digest : OutboxMessageDraft J → D) (d : Tracked J D)
    (call : OutboxCall J) (d' : Tracked J D) : Prop :=
  ∃ draw, d.exec digest draw call = d'

def tokensOf (issued : List (String × String)) (id : String) : List String :=
  (issued.filter (fun e => e.1 = id)).map Prod.snd

lemma tokensOf_append (issued more : List (String × String)) (id : String) :
    tokensOf (issued ++ more) id = tokensOf issued id ++ tokensOf more id := by
  rw [tokensOf, List.filter_append, List.map_append]
  rfl

def Live (s : InMemoryOutboxState J D) (id token : String) : Prop :=
  ∃ message, s.messages.get id = some message ∧ message.status = .claimed ∧
    message.claimToken = some token

def outMemId (n : Nat) : String := s!"out_mem_{n}"

lemma outMemId_inj {m n : Nat} (h : outMemId m = outMemId n) : m = n := by
  have hn : ∀ k, outMemId k = numbered "out_mem" k := by
    intro k
    refine String.toList_inj.mp ?_
    have htext : ∀ t : String, toString t = t := fun _ => rfl
    simp [outMemId, numbered, htext]
  exact numbered_inj ((hn m).symm.trans (h.trans (hn n)))

lemma claimToken_inj {u v : String} {m n : Nat} (h : claimToken u m = claimToken v n) : m = n := by
  have hn : ∀ u k, claimToken u k = numbered ("claim_" ++ u) k := by
    intro u k
    refine String.toList_inj.mp ?_
    have htext : ∀ t : String, toString t = t := fun _ => rfl
    simp [claimToken, numbered, htext]
  exact numbered_inj ((hn u m).symm.trans (h.trans (hn v n)))

structure MessageInv (message : OutboxMessage J) (tokens : List String) : Prop where
  maxPos : 0 < message.maxAttempts.toNat
  attempts : message.attemptCount = min tokens.length 4294967295
  pending : message.status = .pending → message.attemptCount < message.maxAttempts.toNat
  held : message.status = .claimed → ∃ token, message.claimToken = some token ∧
    tokens.getLast? = some token
  numbered : ∀ i token, tokens[i]? = some token →
    ∃ uuid, token = claimToken uuid (min (i + 1) 4294967295)

structure OutboxInv (d : Tracked J D) : Prop where
  keyed : ∀ id message, d.state.messages.get id = some message → message.outboxId = id
  fresh : ∀ id, (d.state.messages.get id).isSome → ∃ n ≤ d.state.nextId, id = outMemId n
  unknown : ∀ id, d.state.messages.get id = none → tokensOf d.issued id = []
  message : ∀ id message, d.state.messages.get id = some message →
    MessageInv message (tokensOf d.issued id)
  dedupe : ∀ id message dedupeKey, d.state.messages.get id = some message →
    message.dedupeKey = some dedupeKey → ∃ record,
      d.state.dedupe.get (message.lane, message.target, dedupeKey) = some record ∧
        record.outboxId = id

/-- No message was handed out more often than it may be, and its tokens differ. -/
structure DeliveryBounded (d : Tracked J D) : Prop where
  attempts : ∀ id message, d.state.messages.get id = some message →
    message.attemptCount ≤ message.maxAttempts.toNat
  handouts : ∀ id message, d.state.messages.get id = some message →
    (tokensOf d.issued id).length ≤ message.maxAttempts.toNat
  distinct : ∀ id, (tokensOf d.issued id).Nodup

/-- No message of the batch is at its limit of attempts when its lease runs out. -/
def ClaimsWithinLimit (d : Tracked J D) : OutboxCall J → Prop
  | .claim lane target limit _ consumerId now =>
    checkClaim lane target consumerId = .ok () →
      ∀ id ∈ claimBatch d.state lane target limit now, ∀ message,
        d.state.messages.get id = some message → message.status = .claimed →
          message.attemptCount < message.maxAttempts.toNat
  | _ => True

namespace MessageInv

variable {message : OutboxMessage J} {tokens : List String}

lemma handOut (h : MessageInv message tokens) {leaseMs : Nat} {consumerId uuid : String}
    {now : Nat} : MessageInv (handOut message leaseMs consumerId uuid now)
      (tokens ++ [claimToken uuid (saturatingSucc message.attemptCount)]) := by
  have hnext : saturatingSucc message.attemptCount = min (tokens.length + 1) 4294967295 := by
    rw [saturatingSucc, h.attempts]
    omega
  refine ⟨h.maxPos, ?_, fun hp => ?_, fun _ => ?_, fun i token hi => ?_⟩
  · rw [List.length_append, List.length_singleton, ← hnext]
    rfl
  · cases hp
  · exact ⟨_, rfl, List.getLast?_concat⟩
  · rcases Nat.lt_or_ge i tokens.length with hlt | hge
    · rw [List.getElem?_append_left hlt] at hi
      exact h.numbered i token hi
    · rw [List.getElem?_append_right hge] at hi
      rw [List.getElem?_singleton] at hi
      split at hi
      · have hlast : i = tokens.length := by omega
        rw [← Option.some.inj hi, hlast, ← hnext]
        exact ⟨uuid, rfl⟩
      · cases hi

lemma nodup (h : MessageInv message tokens) (hle : tokens.length ≤ message.maxAttempts.toNat) :
    tokens.Nodup := by
  have hmax : message.maxAttempts.toNat < 4294967296 := message.maxAttempts.toNat_lt
  rw [List.nodup_iff_getElem?_ne_getElem?]
  intro i j hij hj heq
  have hi : tokens[i]? = some tokens[i] := List.getElem?_eq_getElem _
  have hj' : tokens[j]? = some tokens[j] := List.getElem?_eq_getElem _
  obtain ⟨u, hu⟩ := h.numbered i _ hi
  obtain ⟨v, hv⟩ := h.numbered j _ hj'
  have htokens : tokens[i] = tokens[j] := Option.some.inj (hi.symm.trans (heq.trans hj'))
  have := claimToken_inj (hu.symm.trans (htokens.trans hv))
  omega

end MessageInv

section Tokens

variable {s : InMemoryOutboxState J D} {batch : List String} {claimed : List (OutboxMessage J)}

lemma tokensOf_handedOut
    (hf : List.Forall₂ (fun id message => s.messages.get id = some message) batch claimed)
    (hk : ∀ id ∈ batch, ∀ message, s.messages.get id = some message → message.outboxId = id)
    (hn : batch.Nodup) (id : String) :
    tokensOf (handedOut (.ok claimed)) id =
      if id ∈ batch then (s.messages.get id).toList.map (fun message => message.claimToken.getD "")
      else [] := by
  induction hf with
  | nil => rfl
  | @cons k message batch claimed hget _ ih =>
    obtain ⟨hnot, hn⟩ := List.nodup_cons.mp hn
    have ih := ih (fun j hj => hk j (List.mem_cons_of_mem _ hj)) hn
    have hid : message.outboxId = k := hk k List.mem_cons_self message hget
    have hsplit : handedOut (.ok (message :: claimed)) =
        [(k, message.claimToken.getD "")] ++ handedOut (.ok claimed) := by
      rw [handedOut, List.map_cons, hid]
      rfl
    rw [hsplit, tokensOf_append, ih]
    by_cases hkid : k = id
    · subst hkid
      rw [if_neg hnot, List.append_nil, if_pos List.mem_cons_self, hget]
      simp [tokensOf]
    · have hiff : id ∈ k :: batch ↔ id ∈ batch := by
        rw [List.mem_cons]
        exact or_iff_right (fun h => hkid h.symm)
      simp only [hiff]
      simp [tokensOf, hkid]

end Tokens

namespace OutboxInv

variable {d : Tracked J D}

lemma new : OutboxInv (⟨.new, []⟩ : Tracked J D) := by
  refine ⟨fun id m h => ?_, fun id h => ?_, fun _ _ => rfl, fun id m h => ?_, fun id m k h => ?_⟩
  · cases h
  · cases h
  · cases h
  · cases h

lemma update (h : OutboxInv d) {id : String} {message message' : OutboxMessage J}
    (hget : d.state.messages.get id = some message) (hid : message'.outboxId = message.outboxId)
    (hlane : message'.lane = message.lane) (htarget : message'.target = message.target)
    (hkey : message'.dedupeKey = message.dedupeKey)
    (hinv : MessageInv message' (tokensOf d.issued id)) :
    OutboxInv { d with state := { d.state with messages := d.state.messages.insert id message' } } := by
  refine ⟨fun k m hk => ?_, fun k hk => ?_, fun k hk => ?_, fun k m hk => ?_,
    fun k m key hk hm => ?_⟩
  · rw [Table.get_insert] at hk
    split at hk
    · rename_i hkid
      rw [← Option.some.inj hk, hid, h.keyed id message hget, hkid]
    · exact h.keyed k m hk
  · rw [Table.get_insert] at hk
    split at hk
    · rename_i hkid
      exact hkid ▸ h.fresh id (by rw [hget]; rfl)
    · exact h.fresh k hk
  · rw [Table.get_insert] at hk
    split at hk
    · cases hk
    · exact h.unknown k hk
  · rw [Table.get_insert] at hk
    split at hk
    · rename_i hkid
      rw [← Option.some.inj hk, hkid]
      exact hinv
    · exact h.message k m hk
  · rw [Table.get_insert] at hk
    split at hk
    · rename_i hkid
      obtain rfl := Option.some.inj hk
      rw [hlane, htarget, hkid]
      exact h.dedupe id message key hget (hkey ▸ hm)
    · exact h.dedupe k m key hk hm

lemma validate_maxPos {draft : OutboxMessageDraft J} (h : draft.validate = .ok ()) :
    0 < draft.maxAttempts.toNat := by
  obtain ⟨_, -, h⟩ := bind_eq_ok h
  obtain ⟨_, -, h⟩ := bind_eq_ok h
  obtain ⟨_, -, h⟩ := bind_eq_ok h
  split at h
  · cases h
  · rename_i hne
    refine Nat.pos_of_ne_zero (fun hzero => hne ?_)
    exact UInt32.toNat_inj.mp hzero

lemma fromEnqueue_ok {n now : Nat} {draft : OutboxMessageDraft J} (h : draft.validate = .ok ()) :
    ∃ message, OutboxMessage.fromEnqueue (outMemId n) draft now = .ok message ∧
      message.outboxId = outMemId n ∧ message.lane = draft.lane ∧ message.target = draft.target ∧
      message.dedupeKey = draft.dedupeKey ∧ MessageInv message [] := by
  have hblank : rejectBlank "outbox_id" (outMemId n) = .ok () := by
    have htext : ∀ t : String, toString t = t := fun _ => rfl
    have hnot : isBlank (outMemId n) = false := by
      rw [isBlank, outMemId]
      simp [htext, isWhiteSpace]
    rw [rejectBlank, hnot]
    rfl
  unfold OutboxMessage.fromEnqueue
  rw [h, hblank]
  refine ⟨_, rfl, rfl, rfl, rfl, rfl, ⟨validate_maxPos h, rfl, fun _ => validate_maxPos h, ?_, ?_⟩⟩
  · intro hclaimed
    cases hclaimed
  · intro i token hi
    cases hi

lemma get_putDedupe (s : InMemoryOutboxState J D) (draft : OutboxMessageDraft J) (digest : D)
    (outboxId lane target dedupeKey : String) :
    (s.putDedupe draft digest outboxId).dedupe.get (lane, target, dedupeKey) =
      if draft.dedupeKey = some dedupeKey ∧ lane = draft.lane ∧ target = draft.target then
        some ⟨digest, outboxId⟩
      else s.dedupe.get (lane, target, dedupeKey) := by
  unfold putDedupe
  cases hkey : draft.dedupeKey with
  | none => simp
  | some key =>
    rw [Table.get_insert]
    refine if_congr ?_ rfl rfl
    simp only [Prod.mk.injEq, Option.some.injEq]
    constructor
    · rintro ⟨rfl, rfl, rfl⟩
      exact ⟨rfl, rfl, rfl⟩
    · rintro ⟨rfl, rfl, rfl⟩
      exact ⟨rfl, rfl, rfl⟩

lemma dedupeRecord_none {s : InMemoryOutboxState J D} {draft : OutboxMessageDraft J}
    {dedupeKey : String} (h : s.dedupeRecord draft = none) (hkey : draft.dedupeKey = some dedupeKey) :
    s.dedupe.get (draft.lane, draft.target, dedupeKey) = none := by
  rw [dedupeRecord, hkey, Option.bind_some, Option.map_eq_none_iff] at h
  exact h

lemma insertNew (h : OutboxInv d) {digest : D} {now : Nat} {draft : OutboxMessageDraft J}
    (hv : draft.validate = .ok ()) (hrecord : d.state.dedupeRecord draft = none) :
    OutboxInv { d with state := (d.state.insertNew digest now draft).2 } := by
  obtain ⟨message, hnew, hid, hlane, htarget, hkey, hinv⟩ := fromEnqueue_ok hv
  have hnone : d.state.messages.get (outMemId (d.state.nextId + 1)) = none := by
    rw [← Option.not_isSome_iff_eq_none]
    intro hsome
    obtain ⟨n, hn, heq⟩ := h.fresh _ hsome
    have := outMemId_inj heq
    omega
  have hstate : (d.state.insertNew digest now draft).2 =
      ({ d.state with nextId := d.state.nextId + 1 }.putDedupe draft digest
        (outMemId (d.state.nextId + 1))).putMessage message := by
    unfold InMemoryOutboxState.insertNew
    dsimp only
    rw [← outMemId, hnew]
  have hmessages : ∀ s : InMemoryOutboxState J D, ∀ id, (s.putDedupe draft digest id).messages =
      s.messages ∧ (s.putDedupe draft digest id).nextId = s.nextId := by
    intro s id
    unfold putDedupe
    split <;> exact ⟨rfl, rfl⟩
  have hget : ∀ k, (d.state.insertNew digest now draft).2.messages.get k =
      if k = outMemId (d.state.nextId + 1) then some message else d.state.messages.get k := by
    intro k
    rw [hstate, putMessage, Table.get_insert, (hmessages _ _).1, hid]
  have hnext : (d.state.insertNew digest now draft).2.nextId = d.state.nextId + 1 := by
    rw [hstate, putMessage, (hmessages _ _).2]
  have hdedupe : ∀ lane target key,
      (d.state.insertNew digest now draft).2.dedupe.get (lane, target, key) =
        if draft.dedupeKey = some key ∧ lane = draft.lane ∧ target = draft.target then
          some ⟨digest, outMemId (d.state.nextId + 1)⟩
        else d.state.dedupe.get (lane, target, key) := by
    intro lane target key
    rw [hstate, putMessage, get_putDedupe]
  refine ⟨fun k m hk => ?_, fun k hk => ?_, fun k hk => ?_, fun k m hk => ?_,
    fun k m key hk hm => ?_⟩
  · rw [hget] at hk
    split at hk
    · rename_i hkid
      rw [← Option.some.inj hk, hid, hkid]
    · exact h.keyed k m hk
  · rw [hget] at hk
    rw [hnext]
    split at hk
    · rename_i hkid
      exact ⟨_, le_rfl, hkid⟩
    · obtain ⟨n, hn, heq⟩ := h.fresh k hk
      exact ⟨n, Nat.le_succ_of_le hn, heq⟩
  · rw [hget] at hk
    split at hk
    · cases hk
    · exact h.unknown k hk
  · rw [hget] at hk
    split at hk
    · rename_i hkid
      rw [← Option.some.inj hk, hkid]
      dsimp only
      rw [h.unknown _ hnone]
      exact hinv
    · exact h.message k m hk
  · rw [hget] at hk
    rw [hdedupe]
    split at hk
    · rename_i hkid
      obtain rfl := Option.some.inj hk
      rw [if_pos ⟨hkey ▸ hm, hlane, htarget⟩, hkid]
      exact ⟨_, rfl, rfl⟩
    · obtain ⟨record, hrec, hrid⟩ := h.dedupe k m key hk hm
      rw [if_neg ?_]
      · exact ⟨record, hrec, hrid⟩
      · rintro ⟨hdraft, hl, ht⟩
        rw [hl, ht, dedupeRecord_none hrecord hdraft] at hrec
        cases hrec

lemma enqueue [DecidableEq D] (h : OutboxInv d) (digest : OutboxMessageDraft J → D) (now : Nat)
    (draft : OutboxMessageDraft J) :
    OutboxInv { d with state := (d.state.enqueueOutbox digest now draft).2 } := by
  unfold enqueueOutbox
  split
  · exact h
  · rename_i hv
    split
    · split
      · exact h
      · split <;> exact h
    · rename_i hrecord
      exact h.insertNew hv hrecord

lemma tokens_of_mem (h : OutboxInv d) {leaseMs : Nat} {consumerId : String} {now : Nat}
    {batch : List String} {claimed : List (OutboxMessage J)} {s' : InMemoryOutboxState J D}
    (hc : Claims leaseMs consumerId now batch claimed d.state s') (hn : batch.Nodup) {id : String}
    (hid : id ∈ batch) : ∃ message uuid, d.state.messages.get id = some message ∧
      s'.messages.get id = some (handOut message leaseMs consumerId uuid now) ∧
      tokensOf (d.issued ++ handedOut (.ok claimed)) id =
        tokensOf d.issued id ++ [claimToken uuid (saturatingSucc message.attemptCount)] := by
  have hk : ∀ k ∈ batch, ∀ m, s'.messages.get k = some m → m.outboxId = k := by
    intro k hk m hm
    obtain ⟨message, uuid, hold, hnew⟩ := hc.handed k hk
    rw [← Option.some.inj (hnew.symm.trans hm)]
    exact h.keyed k message hold
  obtain ⟨message, uuid, hold, hnew⟩ := hc.handed id hid
  refine ⟨message, uuid, hold, hnew, ?_⟩
  rw [tokensOf_append, tokensOf_handedOut hc.claimed hk hn, if_pos hid, hnew]
  rfl

lemma tokens_of_not_mem (h : OutboxInv d) {leaseMs : Nat} {consumerId : String} {now : Nat}
    {batch : List String} {claimed : List (OutboxMessage J)} {s' : InMemoryOutboxState J D}
    (hc : Claims leaseMs consumerId now batch claimed d.state s') (hn : batch.Nodup) {id : String}
    (hid : id ∉ batch) :
    tokensOf (d.issued ++ handedOut (.ok claimed)) id = tokensOf d.issued id := by
  have hk : ∀ k ∈ batch, ∀ m, s'.messages.get k = some m → m.outboxId = k := by
    intro k hk m hm
    obtain ⟨message, uuid, hold, hnew⟩ := hc.handed k hk
    rw [← Option.some.inj (hnew.symm.trans hm)]
    exact h.keyed k message hold
  rw [tokensOf_append, tokensOf_handedOut hc.claimed hk hn, if_neg hid, List.append_nil]

lemma claims (h : OutboxInv d) {leaseMs : Nat} {consumerId : String} {now : Nat}
    {batch : List String} {claimed : List (OutboxMessage J)} {s' : InMemoryOutboxState J D}
    (hc : Claims leaseMs consumerId now batch claimed d.state s') (hn : batch.Nodup) :
    OutboxInv ⟨s', d.issued ++ handedOut (.ok claimed)⟩ := by
  have hcases : ∀ id message', s'.messages.get id = some message' → ∃ message,
      d.state.messages.get id = some message ∧ message'.outboxId = message.outboxId ∧
        message'.lane = message.lane ∧ message'.target = message.target ∧
        message'.dedupeKey = message.dedupeKey ∧
        MessageInv message' (tokensOf (d.issued ++ handedOut (.ok claimed)) id) := by
    intro id message' hget
    by_cases hid : id ∈ batch
    · obtain ⟨message, uuid, hold, hnew, htokens⟩ := h.tokens_of_mem hc hn hid
      obtain rfl := Option.some.inj (hnew.symm.trans hget)
      refine ⟨message, hold, rfl, rfl, rfl, rfl, ?_⟩
      rw [htokens]
      exact (h.message id message hold).handOut
    · rw [h.tokens_of_not_mem hc hn hid]
      rw [hc.others id hid] at hget
      exact ⟨message', hget, rfl, rfl, rfl, rfl, h.message id message' hget⟩
  refine ⟨fun id m hget => ?_, fun id hsome => ?_, fun id hnone => ?_, fun id m hget => ?_,
    fun id m key hget hkey => ?_⟩
  · obtain ⟨message, hold, hid, -⟩ := hcases id m hget
    exact hid.trans (h.keyed id message hold)
  · obtain ⟨m, hget⟩ := Option.isSome_iff_exists.mp hsome
    obtain ⟨message, hold, -⟩ := hcases id m hget
    obtain ⟨n, hn, heq⟩ := h.fresh id (by rw [hold]; rfl)
    exact ⟨n, hc.nextId ▸ hn, heq⟩
  · have hid : id ∉ batch := by
      intro hid
      obtain ⟨message, uuid, -, hnew⟩ := hc.handed id hid
      cases hnone.symm.trans hnew
    dsimp only
    rw [h.tokens_of_not_mem hc hn hid]
    exact h.unknown id ((hc.others id hid).symm.trans hnone)
  · obtain ⟨message, -, -, -, -, -, hinv⟩ := hcases id m hget
    exact hinv
  · obtain ⟨message, hold, -, hlane, htarget, hdedupe, -⟩ := hcases id m hget
    dsimp only
    rw [hlane, htarget, hc.dedupe]
    exact h.dedupe id message key hold (hdedupe ▸ hkey)

lemma nodup_claimBatch (s : InMemoryOutboxState J D) (lane target : String) (limit now : Nat) :
    (claimBatch s lane target limit now).Nodup :=
  ((nodup_claimOrder s).filter _).sublist (List.take_sublist _ _)

lemma settle {message message' : OutboxMessage J} {tokens : List String}
    (h : MessageInv message tokens) (hmax : message'.maxAttempts = message.maxAttempts)
    (hcount : message'.attemptCount = message.attemptCount) (hstatus : message'.status ≠ .claimed)
    (hpending : message'.status = .pending → message.attemptCount < message.maxAttempts.toNat) :
    MessageInv message' tokens := by
  refine ⟨hmax ▸ h.maxPos, hcount.trans h.attempts, fun hp => ?_, fun hc => absurd hc hstatus,
    h.numbered⟩
  rw [hcount, hmax]
  exact hpending hp

lemma ack (h : OutboxInv d) (outboxId claimToken : String) (now : Nat) :
    OutboxInv { d with state := (d.state.ackOutbox outboxId claimToken now).2 } := by
  unfold ackOutbox
  split
  · exact h
  · rename_i message hget
    split
    · refine h.update hget rfl rfl rfl rfl (settle (h.message outboxId message hget) rfl rfl ?_ ?_)
      · intro hs
        cases hs
      · intro hs
        cases hs
    · exact h

lemma nack (h : OutboxInv d) (outboxId claimToken error : String) (retryAt now : Nat) :
    OutboxInv { d with state := (d.state.nackOutbox outboxId claimToken error retryAt now).2 } := by
  unfold nackOutbox
  split
  · exact h
  · rename_i message hget
    have hinv := h.message outboxId message hget
    split
    · dsimp only
      split
      · refine h.update hget rfl rfl rfl rfl (settle hinv rfl rfl ?_ ?_)
        · intro hs
          cases hs
        · intro hs
          cases hs
      · rename_i hless
        refine h.update hget rfl rfl rfl rfl (settle hinv rfl rfl ?_ (fun _ => ?_))
        · intro hs
          cases hs
        · exact Nat.lt_of_not_le hless
    · exact h

lemma step [DecidableEq D] {digest : OutboxMessageDraft J → D} {d' : Tracked J D}
    {call : OutboxCall J} (h : OutboxInv d) (hstep : OutboxStep digest d call d') :
    OutboxInv d' := by
  obtain ⟨draw, rfl⟩ := hstep
  cases call with
  | enqueue draft => exact h.enqueue digest draw.now draft
  | claim lane target limit leaseMs consumerId now =>
    rw [Tracked.exec]
    rcases claimOutbox_spec draw.uuid d.state lane target limit leaseMs consumerId now with
      ⟨e, -, hr⟩ | ⟨claimed, s', -, hr, hc⟩
    · rw [hr]
      dsimp only
      rw [handedOut, List.append_nil]
      exact h
    · rw [hr]
      exact h.claims hc (nodup_claimBatch _ _ _ _ _)
  | ack outboxId claimToken now => exact h.ack outboxId claimToken now
  | nack outboxId claimToken error retryAt now => exact h.nack outboxId claimToken error retryAt now

end OutboxInv

/-- Delivered and dead messages stay as they are. -/
def Settled (s s' : InMemoryOutboxState J D) : Prop :=
  ∀ id message, s.messages.get id = some message →
    message.status = .delivered ∨ message.status = .deadLetter →
    s'.messages.get id = some message

/-- One token at most can answer for a message, and one message has a dedupe key. -/
structure Exclusive (d : Tracked J D) : Prop where
  live : ∀ id t t', Live d.state id t → Live d.state id t' → t = t'
  last : ∀ id t, Live d.state id t → (tokensOf d.issued id).getLast? = some t
  ack : ∀ id t now, (d.state.ackOutbox id t now).1 = true ↔ Live d.state id t
  nack : ∀ id t error retryAt now,
    (d.state.nackOutbox id t error retryAt now).1 ≠ .lostClaim ↔ Live d.state id t
  refused : ∀ id t, ¬ Live d.state id t → ∀ error retryAt now,
    (d.state.ackOutbox id t now).2 = d.state ∧
      (d.state.nackOutbox id t error retryAt now).2 = d.state
  dedupe : ∀ id id' message message' dedupeKey, d.state.messages.get id = some message →
    d.state.messages.get id' = some message' → message.lane = message'.lane →
    message.target = message'.target → message.dedupeKey = some dedupeKey →
    message'.dedupeKey = some dedupeKey → id = id'

section Answers

variable {s : InMemoryOutboxState J D} {id token : String}

lemma live_iff {message : OutboxMessage J} (hget : s.messages.get id = some message) :
    Live s id token ↔ message.heldBy token = true := by
  rw [Live, OutboxMessage.heldBy, Bool.and_eq_true, decide_eq_true_eq, decide_eq_true_eq]
  constructor
  · rintro ⟨m, hm, hstatus, htoken⟩
    obtain rfl := Option.some.inj (hget.symm.trans hm)
    exact ⟨hstatus, htoken⟩
  · rintro ⟨hstatus, htoken⟩
    exact ⟨message, hget, hstatus, htoken⟩

lemma not_live_of_none (hget : s.messages.get id = none) : ¬ Live s id token := by
  rintro ⟨m, hm, -⟩
  cases hget.symm.trans hm

lemma ack_iff (now : Nat) : (s.ackOutbox id token now).1 = true ↔ Live s id token := by
  unfold ackOutbox
  split
  · rename_i hget
    exact iff_of_false Bool.false_ne_true (not_live_of_none hget)
  · rename_i message hget
    rw [live_iff hget]
    split
    · rename_i hheld
      exact iff_of_true rfl hheld
    · rename_i hheld
      exact iff_of_false Bool.false_ne_true hheld

lemma nack_iff (error : String) (retryAt now : Nat) :
    (s.nackOutbox id token error retryAt now).1 ≠ .lostClaim ↔ Live s id token := by
  unfold nackOutbox
  split
  · rename_i hget
    exact iff_of_false (fun h => h rfl) (not_live_of_none hget)
  · rename_i message hget
    rw [live_iff hget]
    split
    · rename_i hheld
      refine iff_of_true ?_ hheld
      dsimp only
      split
      · intro h
        cases h
      · intro h
        cases h
    · rename_i hheld
      exact iff_of_false (fun h => h rfl) hheld

lemma ack_refused (h : ¬ Live s id token) (now : Nat) : (s.ackOutbox id token now).2 = s := by
  unfold ackOutbox
  split
  · rfl
  · rename_i message hget
    rw [if_neg (fun hheld => h ((live_iff hget).mpr hheld))]

lemma nack_refused (h : ¬ Live s id token) (error : String) (retryAt now : Nat) :
    (s.nackOutbox id token error retryAt now).2 = s := by
  unfold nackOutbox
  split
  · rfl
  · rename_i message hget
    rw [if_neg (fun hheld => h ((live_iff hget).mpr hheld))]

end Answers

namespace OutboxInv

variable {d d' : Tracked J D}

lemma exclusive (h : OutboxInv d) : Exclusive d := by
  refine ⟨fun id t t' => ?_, fun id t => ?_, fun _ _ => ack_iff, fun _ _ => nack_iff,
    fun id t hl error retryAt now => ⟨ack_refused hl now, nack_refused hl error retryAt now⟩,
    fun id id' m m' key hm hm' hlane htarget hkey hkey' => ?_⟩
  · rintro ⟨m, hm, -, ht⟩ ⟨m', hm', -, ht'⟩
    obtain rfl := Option.some.inj (hm.symm.trans hm')
    exact Option.some.inj (ht.symm.trans ht')
  · rintro ⟨m, hm, hstatus, ht⟩
    obtain ⟨token, htoken, hlast⟩ := (h.message id m hm).held hstatus
    rw [hlast, ← htoken, ht]
  · obtain ⟨record, hrecord, rfl⟩ := h.dedupe id m key hm hkey
    obtain ⟨record', hrecord', rfl⟩ := h.dedupe id' m' key hm' hkey'
    rw [← hlane, ← htarget, hrecord] at hrecord'
    rw [Option.some.inj hrecord']

lemma bounded_iff (h : OutboxInv d) : DeliveryBounded d ↔
    ∀ id message, d.state.messages.get id = some message →
      (tokensOf d.issued id).length ≤ message.maxAttempts.toNat := by
  refine ⟨fun hb => hb.handouts, fun hle => ⟨fun id m hm => ?_, hle, fun id => ?_⟩⟩
  · have hattempts := (h.message id m hm).attempts
    have hlength := hle id m hm
    omega
  · cases hget : d.state.messages.get id with
    | none =>
      rw [h.unknown id hget]
      exact List.nodup_nil
    | some m => exact (h.message id m hget).nodup (hle id m hget)

def Takes (d : Tracked J D) (id : String) : OutboxCall J → Prop
  | .claim lane target limit _ consumerId now =>
    checkClaim lane target consumerId = .ok () ∧ id ∈ claimBatch d.state lane target limit now
  | _ => False

inductive MessagesChange (messages : Table String (OutboxMessage J)) :
    Table String (OutboxMessage J) → Prop
  | same : MessagesChange messages messages
  | added {id : String} {message : OutboxMessage J} : messages.get id = none →
      MessagesChange messages (messages.insert id message)
  | answered {id : String} {message message' : OutboxMessage J} :
      messages.get id = some message → message.status = .claimed →
      message'.maxAttempts = message.maxAttempts →
      MessagesChange messages (messages.insert id message')

lemma enqueue_change [DecidableEq D] (h : OutboxInv d) (digest : OutboxMessageDraft J → D)
    (now : Nat) (draft : OutboxMessageDraft J) :
    MessagesChange d.state.messages (d.state.enqueueOutbox digest now draft).2.messages := by
  unfold enqueueOutbox
  split
  · exact .same
  · rename_i hv
    split
    · split
      · exact .same
      · split <;> exact .same
    · obtain ⟨message, hnew, hid, -⟩ := fromEnqueue_ok hv
      have hmessages : (d.state.insertNew (digest draft) now draft).2.messages =
          d.state.messages.insert (outMemId (d.state.nextId + 1)) message := by
        unfold InMemoryOutboxState.insertNew
        dsimp only
        rw [← outMemId, hnew]
        dsimp only
        rw [putMessage, hid]
        unfold putDedupe
        split <;> rfl
      rw [hmessages]
      refine .added ?_
      rw [← Option.not_isSome_iff_eq_none]
      intro hsome
      obtain ⟨n, hn, heq⟩ := h.fresh _ hsome
      have := outMemId_inj heq
      omega

lemma status_of_heldBy {message : OutboxMessage J} {token : String}
    (h : message.heldBy token = true) : message.status = .claimed := by
  rw [OutboxMessage.heldBy, Bool.and_eq_true, decide_eq_true_eq] at h
  exact h.1

lemma ack_change (s : InMemoryOutboxState J D) (id token : String) (now : Nat) :
    MessagesChange s.messages (s.ackOutbox id token now).2.messages := by
  unfold ackOutbox
  split
  · exact .same
  · rename_i message hget
    split
    · rename_i hheld
      exact .answered hget (status_of_heldBy hheld) rfl
    · exact .same

lemma nack_change (s : InMemoryOutboxState J D) (id token error : String) (retryAt now : Nat) :
    MessagesChange s.messages (s.nackOutbox id token error retryAt now).2.messages := by
  unfold nackOutbox
  split
  · exact .same
  · rename_i message hget
    split
    · rename_i hheld
      dsimp only
      split <;> exact .answered hget (status_of_heldBy hheld) rfl
    · exact .same

structure MessageStep (takes : Prop) (before after : Option (OutboxMessage J))
    (tokens tokens' : List String) : Prop where
  origin : ∀ message', after = some message' → (before = none ∧ tokens' = []) ∨
    ∃ message, before = some message ∧ message'.maxAttempts = message.maxAttempts
  handed : takes → tokens'.length = tokens.length + 1
  kept : ¬ takes → tokens' = tokens
  stays : ∀ message, before = some message → after.isSome
  settled : ∀ message, before = some message →
    message.status = .delivered ∨ message.status = .deadLetter → after = some message

lemma messageStep_of_change (h : OutboxInv d) {messages' : Table String (OutboxMessage J)}
    (hc : MessagesChange d.state.messages messages') (id : String) :
    MessageStep False (d.state.messages.get id) (messages'.get id) (tokensOf d.issued id)
      (tokensOf d.issued id) := by
  cases hc with
  | same =>
    exact ⟨fun m hm => Or.inr ⟨m, hm, rfl⟩, False.elim, fun _ => rfl, fun m hm => by rw [hm]; rfl,
      fun m hm _ => hm⟩
  | @added k message hnone =>
    rw [Table.get_insert]
    by_cases hid : id = k
    · rw [if_pos hid, hid, hnone]
      exact ⟨fun _ _ => Or.inl ⟨rfl, h.unknown k hnone⟩, False.elim, fun _ => rfl,
        fun m hm => (by cases hm), fun m hm => (by cases hm)⟩
    · rw [if_neg hid]
      exact ⟨fun m hm => Or.inr ⟨m, hm, rfl⟩, False.elim, fun _ => rfl,
        fun m hm => by rw [hm]; rfl, fun m hm _ => hm⟩
  | @answered k message message' hget hstatus hmax =>
    rw [Table.get_insert]
    by_cases hid : id = k
    · rw [if_pos hid, hid, hget]
      refine ⟨fun m hm => Or.inr ⟨message, rfl, Option.some.inj hm ▸ hmax⟩, False.elim,
        fun _ => rfl, fun _ _ => rfl, fun m hm hsettled => ?_⟩
      rw [← Option.some.inj hm, hstatus] at hsettled
      rcases hsettled with hs | hs <;> cases hs
    · rw [if_neg hid]
      exact ⟨fun m hm => Or.inr ⟨m, hm, rfl⟩, False.elim, fun _ => rfl,
        fun m hm => by rw [hm]; rfl, fun m hm _ => hm⟩

lemma status_of_mem_batch {s : InMemoryOutboxState J D} {lane target : String} {limit now : Nat}
    {id : String} {message : OutboxMessage J} (hid : id ∈ claimBatch s lane target limit now)
    (hget : s.messages.get id = some message) :
    message.status = .pending ∨ message.status = .claimed := by
  have hclaimable := (List.mem_filter.mp (List.mem_of_mem_take hid)).2
  rw [claimableAt, hget, Option.any_some, isClaimable] at hclaimable
  simp only [Bool.and_eq_true, Bool.or_eq_true, decide_eq_true_eq] at hclaimable
  exact hclaimable.1.1.2

lemma messageStep [DecidableEq D] {digest : OutboxMessageDraft J → D} {call : OutboxCall J}
    (h : OutboxInv d) (hstep : OutboxStep digest d call d') (id : String) :
    MessageStep (Takes d id call) (d.state.messages.get id) (d'.state.messages.get id)
      (tokensOf d.issued id) (tokensOf d'.issued id) := by
  obtain ⟨draw, rfl⟩ := hstep
  cases call with
  | enqueue draft => exact h.messageStep_of_change (h.enqueue_change digest draw.now draft) id
  | ack outboxId token now => exact h.messageStep_of_change (ack_change _ _ _ _) id
  | nack outboxId token error retryAt now =>
    exact h.messageStep_of_change (nack_change _ _ _ _ _ _) id
  | claim lane target limit leaseMs consumerId now =>
    rw [Tracked.exec, Takes]
    rcases claimOutbox_spec draw.uuid d.state lane target limit leaseMs consumerId now with
      ⟨e, hcheck, hr⟩ | ⟨claimed, s', hcheck, hr, hc⟩
    · have hnot : ¬ (checkClaim lane target consumerId = .ok () ∧
          id ∈ claimBatch d.state lane target limit now) := by
        rintro ⟨hok, -⟩
        cases hcheck.symm.trans hok
      rw [hr]
      dsimp only
      rw [handedOut, List.append_nil]
      exact ⟨fun m hm => Or.inr ⟨m, hm, rfl⟩, fun ht => absurd ht hnot, fun _ => rfl,
        fun m hm => by rw [hm]; rfl, fun m hm _ => hm⟩
    · have hn := nodup_claimBatch d.state lane target limit now
      rw [hr]
      dsimp only
      by_cases hid : id ∈ claimBatch d.state lane target limit now
      · obtain ⟨message, uuid, hold, hnew, htokens⟩ := h.tokens_of_mem hc hn hid
        rw [hold, hnew, htokens]
        refine ⟨fun m hm => Or.inr ⟨message, rfl, by rw [← Option.some.inj hm]; rfl⟩,
          fun _ => by simp, fun ht => absurd ⟨hcheck, hid⟩ ht, fun _ _ => rfl,
          fun m hm hsettled => ?_⟩
        rw [← Option.some.inj hm] at hsettled
        rcases status_of_mem_batch hid hold with hs | hs <;> rw [hs] at hsettled <;>
          rcases hsettled with hs' | hs' <;> cases hs'
      · rw [hc.others id hid, h.tokens_of_not_mem hc hn hid]
        exact ⟨fun m hm => Or.inr ⟨m, hm, rfl⟩, fun ht => absurd ht.2 hid, fun _ => rfl,
          fun m hm => by rw [hm]; rfl, fun m hm _ => hm⟩

lemma attempts_of_takes (h : OutboxInv d) {call : OutboxCall J} {id : String}
    {message : OutboxMessage J} (hw : ClaimsWithinLimit d call) (ht : Takes d id call)
    (hget : d.state.messages.get id = some message) :
    message.attemptCount < message.maxAttempts.toNat := by
  cases call with
  | claim lane target limit leaseMs consumerId now =>
    rcases status_of_mem_batch ht.2 hget with hs | hs
    · exact (h.message id message hget).pending hs
    · exact hw ht.1 id ht.2 message hget hs
  | _ => exact ht.elim

lemma bounded_step [DecidableEq D] {digest : OutboxMessageDraft J → D} {call : OutboxCall J}
    (h : OutboxInv d) (hstep : OutboxStep digest d call d') (hw : ClaimsWithinLimit d call)
    (hb : DeliveryBounded d) : DeliveryBounded d' := by
  refine (h.step hstep).bounded_iff.mpr (fun id m' hm' => ?_)
  have hs := h.messageStep hstep id
  rcases hs.origin m' hm' with ⟨-, htokens⟩ | ⟨m, hm, hmax⟩
  · rw [htokens]
    exact Nat.zero_le _
  · have hle := hb.handouts id m hm
    rw [hmax]
    by_cases ht : Takes d id call
    · have hless := h.attempts_of_takes hw ht hm
      have hattempts := (h.message id m hm).attempts
      have hlt : m.maxAttempts.toNat < 4294967296 := m.maxAttempts.toNat_lt
      rw [hs.handed ht]
      omega
    · rw [hs.kept ht]
      exact hle

lemma exceeded [DecidableEq D] {digest : OutboxMessageDraft J → D} {call : OutboxCall J}
    (h : OutboxInv d) (hstep : OutboxStep digest d call d') (hb : DeliveryBounded d') :
    ClaimsWithinLimit d call := by
  cases call with
  | claim lane target limit leaseMs consumerId now =>
    intro hcheck id hid m hm hstatus
    by_contra hge
    have ht : Takes d id (.claim lane target limit leaseMs consumerId now) := ⟨hcheck, hid⟩
    have hs := h.messageStep hstep id
    obtain ⟨m', hm'⟩ := Option.isSome_iff_exists.mp (hs.stays m hm)
    have hle := hb.handouts id m' hm'
    rw [hs.handed ht] at hle
    have hattempts := (h.message id m hm).attempts
    rcases hs.origin m' hm' with ⟨hnone, -⟩ | ⟨m₀, hm₀, hmax⟩
    · cases hnone.symm.trans hm
    · obtain rfl := Option.some.inj (hm₀.symm.trans hm)
      rw [hmax] at hle
      omega
  | _ => trivial

end OutboxInv

/-- In every run messages that are settled stay so, one token at most answers for a message and
dedupe keys are unique. No message is handed out more often than its limit exactly when no claim
takes a message at its limit. -/
theorem delivery_bounded_iff [DecidableEq D] (digest : OutboxMessageDraft J → D)
    {tr : List (Transition (Tracked J D) (OutboxCall J))} {d : Tracked J D}
    (h : Run (OutboxStep digest) ⟨.new, []⟩ tr d) :
    (∀ τ ∈ tr, Settled τ.pre.state τ.post.state) ∧ (∀ τ ∈ tr, Exclusive τ.post) ∧
      ((∀ τ ∈ tr, DeliveryBounded τ.post) ↔ ∀ τ ∈ tr, ClaimsWithinLimit τ.pre τ.label) := by
  have hinv : ∀ τ ∈ tr, OutboxInv τ.pre ∧ OutboxInv τ.post :=
    (h.invariant (C := fun _ => True) (fun _ hstep _ hi => hi.step hstep) (fun _ _ => trivial)
      OutboxInv.new).2
  refine ⟨fun τ hτ id m hm hs => ?_, fun τ hτ => (hinv τ hτ).2.exclusive, fun hb τ hτ => ?_,
    fun hw => ?_⟩
  · exact ((hinv τ hτ).1.messageStep (h.step_of_mem hτ) id).settled m hm hs
  · exact (hinv τ hτ).1.exceeded (h.step_of_mem hτ) (hb τ hτ)
  · have hbounded : DeliveryBounded (⟨.new, []⟩ : Tracked J D) :=
      OutboxInv.new.bounded_iff.mpr (fun id m hm => (by cases hm))
    have hall := (h.invariant (I := fun d => OutboxInv d ∧ DeliveryBounded d)
      (fun τ hstep hc hi => ⟨hi.1.step hstep, hi.1.bounded_step hstep hc hi.2⟩) hw
      ⟨OutboxInv.new, hbounded⟩).2
    exact fun τ hτ => (hall τ hτ).2.2

section Crash

def crashDraft (maxAttempts : UInt32) : OutboxMessageDraft Unit :=
  ⟨"canonical", "projector", (), none, 0, maxAttempts⟩

def crashDraw : Draw := ⟨0, fun _ => "u"⟩

def crashClaim (now : Nat) : OutboxCall Unit := .claim "canonical" "projector" 1 10 "c1" now

def queuedOnce (maxAttempts : UInt32) : Tracked Unit Unit :=
  (⟨.new, []⟩ : Tracked Unit Unit).exec (fun _ => ()) crashDraw (.enqueue (crashDraft maxAttempts))

lemma claimOrder_singleton {s : InMemoryOutboxState J D} {id : String} {message : OutboxMessage J}
    (h : s.messages.entries = [(id, message)]) : s.claimOrder = [id] := by
  rw [claimOrder, h, List.mergeSort_singleton]
  rfl

def claimedBy (d : Tracked Unit Unit) (now : Nat) : Tracked Unit Unit :=
  let r := claimLoop crashDraw.uuid "canonical" "projector" 1 10 "c1" now ["out_mem_1"] [] d.state
  ⟨r.2, d.issued ++ handedOut (.ok r.1)⟩

section Single

variable {d : Tracked Unit Unit} {message : OutboxMessage Unit} {now : Nat}

lemma exec_crashClaim (h : d.state.messages.entries = [("out_mem_1", message)]) :
    d.exec (fun _ => ()) crashDraw (crashClaim now) = claimedBy d now := by
  have hcheck : checkClaim "canonical" "projector" "c1" = .ok () := by decide
  rw [crashClaim, Tracked.exec, claimOutbox, hcheck, claimOrder_singleton h]
  rfl

lemma mem_crashBatch (h : d.state.messages.entries = [("out_mem_1", message)]) :
    "out_mem_1" ∈ claimBatch d.state "canonical" "projector" 1 now ↔
      isClaimable message "canonical" "projector" now = true := by
  have hget : d.state.messages.get "out_mem_1" = some message :=
    Table.get_eq_some.mpr (by rw [h]; exact List.mem_cons_self)
  rw [claimBatch, claimOrder_singleton h]
  cases hc : isClaimable message "canonical" "projector" now <;>
    simp [claimableAt, hget, hc]

lemma crash_within (h : d.state.messages.entries = [("out_mem_1", message)])
    (hm : message.status = .claimed → message.attemptCount < message.maxAttempts.toNat) :
    ClaimsWithinLimit d (crashClaim now) := by
  intro _ id hid m hget hs
  have hmem := Table.get_eq_some.mp hget
  rw [h, List.mem_singleton] at hmem
  obtain ⟨-, rfl⟩ := Prod.mk.inj hmem
  exact hm hs

end Single

lemma crash_exceeds : ¬ ClaimsWithinLimit (claimedBy (queuedOnce 1) 0) (crashClaim 10) := by
  intro h
  exact absurd (h (by decide) "out_mem_1" ((mem_crashBatch rfl).mpr (by decide)) _ rfl rfl)
    (by decide)

def firstToken : String := claimToken "u" 1

def secondToken : String := claimToken "u" 2

def redelivered : Tracked Unit Unit :=
  ((claimedBy (claimedBy (queuedOnce 2) 0) 10).exec (fun _ => ()) crashDraw
    (.ack "out_mem_1" firstToken 11)).exec (fun _ => ()) crashDraw
    (.nack "out_mem_1" secondToken "error" 20 12)

theorem delivery_bounded_iff_redelivered :
    DeliveryBounded redelivered ∧ Exclusive redelivered ∧
      tokensOf redelivered.issued "out_mem_1" = [firstToken, secondToken] ∧
      (redelivered.state.messages.get "out_mem_1").map (·.status) = some .deadLetter := by
  have hrun : Run (OutboxStep (fun _ => ())) (⟨.new, []⟩ : Tracked Unit Unit) _ redelivered :=
    .cons (l := .enqueue (crashDraft 2)) ⟨crashDraw, rfl⟩
      (.cons (l := crashClaim 0) ⟨crashDraw, exec_crashClaim rfl⟩
        (.cons (l := crashClaim 10) ⟨crashDraw, exec_crashClaim rfl⟩
          (.cons (l := .ack "out_mem_1" firstToken 11) ⟨crashDraw, rfl⟩
            (.single (l := .nack "out_mem_1" secondToken "error" 20 12) ⟨crashDraw, rfl⟩))))
  obtain ⟨-, hx, hb⟩ := delivery_bounded_iff (fun _ => ()) hrun
  have hbounded := hb.mpr (by
    simp only [List.forall_mem_cons, List.not_mem_nil, false_imp_iff, implies_true, and_true]
    exact ⟨trivial, crash_within rfl (by decide), crash_within rfl (by decide), trivial, trivial⟩)
  exact ⟨hbounded _ (.tail _ (.tail _ (.tail _ (.tail _ (.head _))))),
    hx _ (.tail _ (.tail _ (.tail _ (.tail _ (.head _))))), by decide, by decide⟩

theorem crash_hands_out_again : ¬ ∀ (d : Tracked Unit Unit),
    Reachable (OutboxStep (fun _ => ())) ⟨.new, []⟩ d → DeliveryBounded d := by
  intro h
  have hrun : Run (OutboxStep (fun _ => ())) (⟨.new, []⟩ : Tracked Unit Unit) _
      (claimedBy (queuedOnce 1) 0) :=
    .cons (l := .enqueue (crashDraft 1)) ⟨crashDraw, rfl⟩
      (.single (l := crashClaim 0) ⟨crashDraw, exec_crashClaim rfl⟩)
  have hstep : OutboxStep (fun _ => ()) (claimedBy (queuedOnce 1) 0) (crashClaim 10)
      (claimedBy (claimedBy (queuedOnce 1) 0) 10) := ⟨crashDraw, exec_crashClaim rfl⟩
  have hinv : OutboxInv (claimedBy (queuedOnce 1) 0) :=
    hrun.invariant_all (fun _ _ _ hstep hi => hi.step hstep) OutboxInv.new
  exact crash_exceeds (hinv.exceeded hstep (h _ ⟨_, hrun.append (.single hstep)⟩))

end Crash

end Awaken.Stores.MemoryOutbox
