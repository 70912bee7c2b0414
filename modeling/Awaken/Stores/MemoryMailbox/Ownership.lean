import Awaken.Stores.MemoryMailbox.FailureAtomicity

namespace Awaken.Stores.MemoryMailbox

open Awaken.Lib Awaken.Lib.Text Awaken.Contract.Mailbox Awaken.Contract.Storage
open Awaken.Stores.MailboxState InMemoryMailboxStore

variable {s s' : InMemoryMailboxStore} {op : MailboxOp}

def drawnToken : MailboxOp → Option String
  | .claim _ _ _ _ _ token => some token
  | .claimDispatch _ _ _ _ token => some token
  | _ => none

def holderCall : MailboxOp → Option (String × String)
  | .ack id token _ => some (id, token)
  | .recordDispatchStart id token _ _ => some (id, token)
  | .recordRunResult id token _ _ => some (id, token)
  | .nack id token _ _ _ => some (id, token)
  | .deadLetter id token _ _ => some (id, token)
  | .extendLease id token _ _ => some (id, token)
  | _ => none

def AtMostOneClaim : MailboxOp → Prop
  | .claim _ _ _ _ limit _ => limit ≤ 1
  | _ => True

def HeldBy (k token : String) (s : InMemoryMailboxStore) : Prop :=
  ∃ d, s.get k = some d ∧ d.status = .claimed ∧ d.claimToken = some token

def Exclusive (s : InMemoryMailboxStore) : Prop :=
  ∀ k₁ k₂ d₁ d₂, s.get k₁ = some d₁ → s.get k₂ = some d₂ → d₁.status = .claimed →
    d₂.status = .claimed → d₁.threadId = d₂.threadId → k₁ = k₂

section Claimed

variable {epoch : Nat} {d d' : RunDispatch} {o : Option RunDispatch} {k : String}

lemma Change.claimed (h : Change epoch d op d') (hs : d'.status = .claimed) :
    (d.status = .claimed ∧ d.claimToken = d'.claimToken ∧ d.claimedBy = d'.claimedBy) ∨
      ∃ token, drawnToken op = some token ∧ d'.claimToken = some token := by
  cases h with
  | claim => exact .inr ⟨_, rfl, rfl⟩
  | claimDispatch => exact .inr ⟨_, rfl, rfl⟩
  | start hc => exact .inl ⟨hc, rfl, rfl⟩
  | finish hc => exact .inl ⟨hc, rfl, rfl⟩
  | extend hc => exact .inl ⟨hc, rfl, rfl⟩
  | nack =>
    rw [RunDispatch.nacked_status] at hs
    split at hs <;> exact nomatch hs
  | expire =>
    rw [RunDispatch.expired_status] at hs
    split at hs <;> exact nomatch hs
  | _ => exact nomatch hs

lemma EntryStep.claimed (h : EntryStep s op k o (some d')) (hs : d'.status = .claimed) :
    (∃ d, o = some d ∧ d.status = .claimed ∧ d.claimToken = d'.claimToken ∧
        d.claimedBy = d'.claimedBy ∧ d.threadId = d'.threadId) ∨
      ∃ token, drawnToken op = some token ∧ d'.claimToken = some token := by
  cases h with
  | same => exact .inl ⟨d', rfl, hs, rfl, rfl, rfl⟩
  | enqueued => exact nomatch hs
  | @change d _ hc =>
    rcases hc.claimed hs with ⟨hd, ht, hb⟩ | hdrawn
    · exact .inl ⟨d, rfl, hd, ht, hb, hc.same.threadId.symm⟩
    · exact .inr hdrawn

end Claimed

section Exclusivity

lemma exclusive_of_claimed (hx : Exclusive s)
    (h : ∀ k d', s'.get k = some d' → d'.status = .claimed →
      ∃ d, s.get k = some d ∧ d.status = .claimed ∧ d.threadId = d'.threadId) :
    Exclusive s' := by
  intro k₁ k₂ d₁ d₂ h₁ h₂ hs₁ hs₂ ht
  obtain ⟨e₁, he₁, hc₁, ht₁⟩ := h k₁ d₁ h₁ hs₁
  obtain ⟨e₂, he₂, hc₂, ht₂⟩ := h k₂ d₂ h₂ hs₂
  exact hx k₁ k₂ e₁ e₂ he₁ he₂ hc₁ hc₂ (ht₁.trans (ht.trans ht₂.symm))

lemma hasClaimed_of_get {t : Table String RunDispatch} {threadId k : String} {d : RunDispatch}
    (hd : t.get k = some d) (hs : d.status = .claimed) (ht : d.threadId = threadId) :
    hasClaimed t threadId = true := by
  rw [hasClaimed, List.any_eq_true]
  exact ⟨d, Table.mem_values.mpr ⟨k, hd⟩, by simp [hs, ht]⟩

lemma eligible_unique {t : Table String RunDispatch} {threadId : String} {now limit : Nat}
    (hl : limit ≤ 1) {k₁ k₂ : String} (h₁ : k₁ ∈ eligible t threadId now limit)
    (h₂ : k₂ ∈ eligible t threadId now limit) : k₁ = k₂ := by
  have hlen : (eligible t threadId now limit).length ≤ 1 :=
    (List.length_take_le _ _).trans hl
  match hm : eligible t threadId now limit, hlen with
  | [], _ =>
    rw [hm] at h₁
    exact nomatch h₁
  | [k], _ =>
    rw [hm, List.mem_singleton] at h₁ h₂
    exact h₁.trans h₂.symm

lemma fence_claimed {threadId k : String} {now : Nat} {d : RunDispatch}
    (h : (fence s threadId now).get k = some d) (hs : d.status = .claimed) : s.get k = some d := by
  rw [fence_get, Option.map_eq_some_iff] at h
  obtain ⟨e, he, rfl⟩ := h
  unfold afterFence at hs ⊢
  split at hs
  · exact nomatch hs
  · next hc => rw [if_neg hc, he]

lemma exclusive_fence {threadId : String} {now : Nat} (hx : Exclusive s) :
    Exclusive (fence s threadId now) :=
  exclusive_of_claimed hx (fun _ d hd hs => ⟨d, fence_claimed hd hs, hs, rfl⟩)

lemma exclusive_claim (hi : Inv s) (hx : Exclusive s) (threadId consumerId : String)
    (leaseMs now : Nat) {limit : Nat} (hl : limit ≤ 1) (token : String) :
    Exclusive (s.claim threadId consumerId leaseMs now limit token).2 := by
  intro k₁ k₂ d₁ d₂ h₁ h₂ hs₁ hs₂ ht
  have hf : ∀ k d, (fence s threadId now).get k = some d → d.status = .claimed →
      hasClaimed (fence s threadId now).dispatches threadId = false → d.threadId ≠ threadId := by
    intro k d hd hs hc ht
    rw [hasClaimed_of_get hd hs ht] at hc
    exact nomatch hc
  rcases @claim_get s threadId now hi consumerId leaseMs limit token k₁ with
    hg₁ | ⟨e₁, _, ht₁, _, _, _, hc₁, hm₁, hg₁⟩ <;>
  rcases @claim_get s threadId now hi consumerId leaseMs limit token k₂ with
    hg₂ | ⟨e₂, _, ht₂, _, _, _, hc₂, hm₂, hg₂⟩
  · exact exclusive_fence hx k₁ k₂ d₁ d₂ (hg₁ ▸ h₁) (hg₂ ▸ h₂) hs₁ hs₂ ht
  · rw [hg₂] at h₂
    cases h₂
    exact absurd (ht.trans ht₂) (hf k₁ d₁ (hg₁ ▸ h₁) hs₁ hc₂)
  · rw [hg₁] at h₁
    cases h₁
    exact absurd (ht.symm.trans ht₁) (hf k₂ d₂ (hg₂ ▸ h₂) hs₂ hc₁)
  · exact eligible_unique hl hm₁ hm₂

lemma exclusive_put {k : String} {d d' : RunDispatch} (hx : Exclusive s) (hd : s.get k = some d)
    (h : d'.status = .claimed → ∀ j e, s.get j = some e → e.status = .claimed →
      e.threadId = d'.threadId → j = k) : Exclusive (s.put k d') := by
  intro k₁ k₂ d₁ d₂ h₁ h₂ hs₁ hs₂ ht
  rw [get_put hd] at h₁ h₂
  split at h₁ <;> split at h₂
  · next he₁ he₂ => exact he₁.trans he₂.symm
  · next he₁ _ =>
    cases h₁
    exact he₁.trans (h hs₁ k₂ d₂ h₂ hs₂ ht.symm).symm
  · next _ he₂ =>
    cases h₂
    exact (h hs₂ k₁ d₁ h₁ hs₁ ht).trans he₂.symm
  · exact hx k₁ k₂ d₁ d₂ h₁ h₂ hs₁ hs₂ ht

lemma exclusive_claimDispatch (hi : Inv s) (hx : Exclusive s) (id consumerId : String)
    (leaseMs now : Nat) (token : String) :
    Exclusive (s.claimDispatch id consumerId leaseMs now token).2 := by
  unfold claimDispatch
  split
  · exact hx
  · next d hd =>
    split
    · exact hx
    · next hs =>
      rw [ne_eq, not_not] at hs
      dsimp only
      split
      · rw [markSupersededAtEpoch_eq (hi.wellFormed _ _ hd) (.inl hs)]
        exact exclusive_put hx hd (fun hc => nomatch hc)
      · split
        · exact hx
        · next ho =>
          rw [claimOne_snd hs]
          refine exclusive_put hx hd (fun _ j e he hc ht => ?_)
          by_contra hne
          refine ho (List.any_eq_true.mpr ⟨e, Table.mem_values.mpr ⟨j, he⟩, ?_⟩)
          have hid : e.dispatchId ≠ id := by rwa [hi.key j e he]
          simp [hc, hid, show e.threadId = d.threadId from ht]

lemma exclusive_exec (hi : Inv s) (hx : Exclusive s) (hl : AtMostOneClaim op) :
    Exclusive (exec op s).2 := by
  cases hd : drawnToken op with
  | none =>
    refine exclusive_of_claimed hx (fun k d' hd' hs => ?_)
    have he := exec_entry hi op k
    rw [hd'] at he
    rcases he.claimed hs with ⟨d, ho, hc, _, _, ht⟩ | ⟨token, ho, _⟩
    · exact ⟨d, ho, hc, ht⟩
    · exact nomatch hd.symm.trans ho
  | some token =>
    cases op with
    | claim => exact exclusive_claim hi hx _ _ _ _ hl _
    | claimDispatch => exact exclusive_claimDispatch hi hx _ _ _ _ _
    | _ => exact nomatch hd

lemma exclusive_reorders {t : InMemoryMailboxStore} (h : s.Reorders t) (hx : Exclusive s) :
    Exclusive t :=
  exclusive_of_claimed hx (fun k d hd hs => ⟨d, h.get k ▸ hd, hs, rfl⟩)

lemma exclusive_step {call : Call} (hi : Inv s) (hx : Exclusive s) (hl : AtMostOneClaim call.op)
    (h : Step s call s') : Exclusive s' := by
  obtain ⟨t, ht, he⟩ := h
  have hs := exclusive_exec (hi.reorders ht) (exclusive_reorders ht hx) hl
  rwa [he] at hs

end Exclusivity

section Named

/-- Every Claimed dispatch names its owner and its claim. -/
def Named (s : InMemoryMailboxStore) : Prop := ∀ k d, s.get k = some d → d.NamedLease

/-- A claim that takes a dispatch for a blank consumer or under a blank token. -/
def ClaimsAnonymously (s : InMemoryMailboxStore) (op : MailboxOp) : Prop :=
  (drawnToken op).isSome ∧ SpoilsStore s op

lemma namedLease_claimedFor {d : RunDispatch} {consumerId token : String} {leaseUntil now : Nat} :
    (d.claimedFor consumerId token leaseUntil now).NamedLease ↔ ¬ Anonymous consumerId token := by
  simp only [RunDispatch.NamedLease, RunDispatch.claimedFor, Option.all_some, forall_true_left,
    Anonymous, not_or, Bool.not_eq_true]
  exact and_comm

lemma named_claim (hi : Inv s) (hn : Named s) (threadId consumerId : String)
    (leaseMs now limit : Nat) (token : String) :
    Named (s.claim threadId consumerId leaseMs now limit token).2 ↔
      ¬ SpoilsStore s (.claim threadId consumerId leaseMs now limit token) := by
  constructor
  · rintro h ⟨ha, hl, hc, he⟩
    obtain ⟨-, k, d, -, -, hk⟩ := claim_anonymous hi ha hl hc he leaseMs
    exact namedLease_claimedFor.mp (h k _ hk) ha
  · intro h k d' hd'
    rcases @claim_get s threadId now hi consumerId leaseMs limit token k with
      hg | ⟨d, hd, ht, hs, hav, hc, hf, hm, hg⟩
    · exact fun hs => hn k d' (fence_claimed (hg ▸ hd') hs) hs
    · rw [hg, Option.some.injEq] at hd'
      subst hd'
      refine namedLease_claimedFor.mpr (fun ha => h ⟨ha, ?_, ?_, k, d, hd, ht, hs, hav, ?_⟩)
      · rw [Nat.pos_iff_ne_zero]
        rintro rfl
        exact nomatch hm
      · exact (unclaimed_fence threadId now).mp hf
      · rwa [Current, ht]

lemma named_put {k : String} {d d' : RunDispatch} (hn : Named s) (hd : s.get k = some d) :
    Named (s.put k d') ↔ d'.NamedLease := by
  constructor
  · intro h
    exact h k d' (by rw [get_put hd, if_pos rfl])
  · intro h j e he
    rw [get_put hd] at he
    split at he
    · cases he
      exact h
    · exact hn j e he

lemma named_claimDispatch (hi : Inv s) (hn : Named s) (id consumerId : String)
    (leaseMs now : Nat) (token : String) :
    Named (s.claimDispatch id consumerId leaseMs now token).2 ↔
      ¬ SpoilsStore s (.claimDispatch id consumerId leaseMs now token) := by
  simp only [SpoilsStore]
  unfold claimDispatch
  cases hd : s.get id with
  | none => simp [hn]
  | some d =>
    simp only [Option.some.injEq, exists_eq_left']
    by_cases hs : d.status = .queued
    · rw [if_neg (not_not.mpr hs)]
      by_cases hc : Current s d
      · rw [if_neg (Nat.not_lt.mpr hc), ← hasOtherClaimed_false]
        cases s.hasOtherClaimed d.threadId id with
        | true => simp [hn]
        | false =>
          simp only [Bool.false_eq_true, if_false, hs, hc, and_true]
          rw [named_put hn hd, claimOne_snd hs, namedLease_claimedFor]
      · rw [if_pos (Nat.not_le.mp hc), markSupersededAtEpoch_eq (hi.wellFormed _ _ hd) (.inl hs)]
        simp only [hc, false_and, and_false, not_false_eq_true, iff_true]
        refine (named_put hn hd).mpr (fun h => ?_)
        cases h
    · rw [if_pos hs]
      simp [hs, hn]

lemma named_exec (hi : Inv s) (hn : Named s) (op : MailboxOp) :
    Named (exec op s).2 ↔ ¬ ClaimsAnonymously s op := by
  cases hd : drawnToken op with
  | none =>
    simp only [ClaimsAnonymously, hd, Option.isSome_none, Bool.false_eq_true, false_and,
      not_false_eq_true, iff_true]
    intro k d' hd' hs
    have he := exec_entry hi op k
    rw [hd'] at he
    rcases he.claimed hs with ⟨d, ho, hc, ht, hb, _⟩ | ⟨token, ho, _⟩
    · rw [← ht, ← hb]
      exact hn k d ho hc
    · exact nomatch hd.symm.trans ho
  | some token =>
    simp only [ClaimsAnonymously, hd, Option.isSome_some, true_and]
    cases op with
    | claim => exact named_claim hi hn _ _ _ _ _ _
    | claimDispatch => exact named_claimDispatch hi hn _ _ _ _ _
    | _ => exact nomatch hd

lemma spoilsStore_reorders {t : InMemoryMailboxStore} (h : s.Reorders t) (op : MailboxOp) :
    SpoilsStore t op ↔ SpoilsStore s op := by
  cases op <;> simp only [SpoilsStore, Held, Current, h.get, h.epoch]

lemma named_step {call : Call} (hi : Inv s) (hn : Named s) (h : Step s call s') :
    Named s' ↔ ¬ ClaimsAnonymously s call.op := by
  obtain ⟨t, ht, he⟩ := h
  have hs := named_exec (hi.reorders ht) (fun k d hd => hn k d (ht.get k ▸ hd)) call.op
  rw [he] at hs
  rw [hs, ClaimsAnonymously, ClaimsAnonymously, spoilsStore_reorders ht]

end Named

section Tokens

def Refused (r : Outcome StorageError MailboxResp × InMemoryMailboxStore)
    (s : InMemoryMailboxStore) : Prop :=
  r.2 = s ∧ (r.1 = .ok (.flag false) ∨ ∃ e, r.1 = .err e)

lemma asHolder_refused {id token reason : String} {now : Nat} {checkStatus : Bool}
    {body : RunDispatch → Outcome StorageError Unit × RunDispatch}
    (ht : ∀ d, s.get id = some d → d.claimToken ≠ some token) :
    ∃ e, s.asHolder id token now checkStatus reason body = (.err e, s) := by
  unfold asHolder
  split
  · exact ⟨_, rfl⟩
  · next d hd => exact ⟨_, if_pos (.inr (ht d hd))⟩

lemma exec_refused {k token : String} (ho : holderCall op = some (k, token))
    (ht : ∀ d, s.get k = some d → d.claimToken ≠ some token) : Refused (exec op s) s := by
  cases op with
  | ack | recordDispatchStart | recordRunResult | nack | deadLetter =>
    cases ho
    obtain ⟨e, he⟩ := asHolder_refused ht
    refine ⟨?_, .inr ⟨e, ?_⟩⟩
    · exact congrArg Prod.snd he
    · exact congrArg (fun r => r.1.map (fun _ => MailboxResp.unit)) he
  | extendLease =>
    cases ho
    have he : ∀ extensionMs now, s.extendLease k token extensionMs now = (.ok false, s) := by
      intro extensionMs now
      unfold extendLease
      split
      · rfl
      · next d hd => exact if_pos (.inr (ht d hd))
    exact ⟨congrArg Prod.snd (he _ _), .inl (congrArg (fun r => r.1.map MailboxResp.flag) (he _ _))⟩
  | _ => exact nomatch ho

/-- A holder call is accepted when it reports success, or changes the dispatch it names. -/
def Accepted (τ : Transition InMemoryMailboxStore Call) (k token : String) : Prop :=
  holderCall τ.label.op = some (k, token) ∧
    (τ.label.resp = .ok .unit ∨ τ.label.resp = .ok (.flag true) ∨ τ.post.get k ≠ τ.pre.get k)

lemma heldBy_of_accepted {τ : Transition InMemoryMailboxStore Call} {k token : String}
    (hi : Inv τ.pre) (hstep : Step τ.pre τ.label τ.post) (ha : Accepted τ k token) :
    HeldBy k token τ.pre := by
  obtain ⟨ho, ha⟩ := ha
  obtain ⟨t, ht, he⟩ := hstep
  by_contra hn
  have hr : Refused (exec τ.label.op t) t := by
    refine exec_refused ho (fun d hd hdt => hn ⟨d, ht.get k ▸ hd, ?_, hdt⟩)
    exact claimed_of_token ((hi.reorders ht).wellFormed _ _ hd) hdt
  rw [he] at hr
  obtain ⟨hs, hf⟩ := hr
  have hsame : τ.post.get k = τ.pre.get k := by rw [show τ.post = t from hs, ht.get]
  rcases hf with hf | ⟨e, hf⟩ <;> rcases ha with ha | ha | ha <;> first
    | exact ha hsame
    | exact nomatch hf.symm.trans ha

def drawnTokens (tr : List (Transition InMemoryMailboxStore Call)) : List String :=
  tr.filterMap (fun τ => drawnToken τ.label.op)

lemma drawn_once {tr₁ tr₂ : List (Transition InMemoryMailboxStore Call)}
    {τ : Transition InMemoryMailboxStore Call} {token : String}
    (hn : (drawnTokens (tr₁ ++ τ :: tr₂)).Nodup) (ht : drawnToken τ.label.op = some token) :
    ∀ ρ ∈ tr₁ ++ tr₂, drawnToken ρ.label.op ≠ some token := by
  have he : drawnTokens (tr₁ ++ τ :: tr₂) = drawnTokens tr₁ ++ token :: drawnTokens tr₂ := by
    simp only [drawnTokens, List.filterMap_append, List.filterMap_cons, ht]
  rw [he, List.nodup_append, List.nodup_cons] at hn
  obtain ⟨_, ⟨htail, _⟩, hhead⟩ := hn
  intro ρ hρ hd
  have hmem : ∀ l, ρ ∈ l → token ∈ drawnTokens l :=
    fun l hl => List.mem_filterMap.mpr ⟨ρ, hl, hd⟩
  rcases List.mem_append.mp hρ with h | h
  · exact hhead token (hmem _ h) token List.mem_cons_self rfl
  · exact htail (hmem _ h)

lemma drawn_of_newly_held {τ : Transition InMemoryMailboxStore Call} {k token : String}
    (hi : Inv τ.pre) (hstep : Step τ.pre τ.label τ.post) (hpre : ¬ HeldBy k token τ.pre)
    (hpost : HeldBy k token τ.post) : drawnToken τ.label.op = some token := by
  obtain ⟨d', hd', hs, ht⟩ := hpost
  have he := step_entry hi hstep k
  rw [hd'] at he
  rcases he.claimed hs with ⟨d, ho, hc, hdt, _, _⟩ | ⟨token', ho, hdt⟩
  · exact absurd ⟨d, ho, hc, hdt.trans ht⟩ hpre
  · rw [ho, ← hdt, ht]

end Tokens

/-- Among runs that draw distinct tokens and claim one dispatch at a time, a thread has at most one
Claimed dispatch, a token is accepted only while the one claim that drew it has held the dispatch
without a break, and every Claimed dispatch carries a lease, a consumer and a token, which are not
blank as long as nobody claims anonymously. -/
theorem one_owner {tr : List (Transition InMemoryMailboxStore Call)} (hr : Run Step new tr s)
    (hfresh : (drawnTokens tr).Nodup) (hlimit : ∀ τ ∈ tr, AtMostOneClaim τ.label.op) :
    Exclusive s ∧
    (∀ k d, s.get k = some d → d.status = .claimed →
      d.claimToken.isSome ∧ d.claimedBy.isSome ∧ d.leaseUntil.isSome) ∧
    ((∀ τ ∈ tr, Named τ.post) ↔ ∀ τ ∈ tr, ¬ ClaimsAnonymously τ.pre τ.label.op) ∧
    ∀ tr₁ τ tr₂ k token, tr = tr₁ ++ τ :: tr₂ → Accepted τ k token →
      ∃ tra claim trb, tr₁ = tra ++ claim :: trb ∧ drawnToken claim.label.op = some token ∧
        (∀ ρ ∈ tra ++ (trb ++ τ :: tr₂), drawnToken ρ.label.op ≠ some token) ∧
        HeldBy k token claim.post ∧ (∀ ρ ∈ trb, HeldBy k token ρ.pre ∧ HeldBy k token ρ.post) ∧
        HeldBy k token τ.pre := by
  have hx : Inv s ∧ Exclusive s := by
    refine (hr.invariant (I := fun s => Inv s ∧ Exclusive s) ?_ hlimit ⟨inv_new, ?_⟩).1
    · exact fun τ he hl ⟨hi, hx⟩ => ⟨hi.step he, exclusive_step hi hx hl he⟩
    · exact fun _ _ _ _ h => nomatch h
  refine ⟨hx.2, fun k d hd hs => (hx.1.wellFormed k d hd).lease hs, ?_, ?_⟩
  · exact Run.always_iff (fun _ _ _ he hi => hi.step he) (fun _ he hi hn => named_step hi hn he) hr
      inv_new (fun _ _ h => nomatch h)
  · rintro tr₁ τ tr₂ k token rfl ha
    have hmem : ∀ ρ ∈ tr₁ ++ τ :: tr₂, Inv ρ.pre ∧ Step ρ.pre ρ.label ρ.post :=
      fun ρ hρ => ⟨inv_reachable (hr.reachable_of_mem hρ), hr.step_of_mem hρ⟩
    obtain ⟨hi, hstep⟩ := hmem τ (by simp)
    have hheld := heldBy_of_accepted hi hstep ha
    obtain ⟨s₁, hr₁, hr₂⟩ := hr.split
    cases hr₂ with
    | cons =>
      rcases hr₁.since hheld with ⟨⟨d, hd, _⟩, _⟩ | ⟨tra, claim, trb, rfl, hpre, hpost, hall⟩
      · exact nomatch hd
      · obtain ⟨hic, hsc⟩ := hmem claim (by simp)
        have hdrawn := drawn_of_newly_held hic hsc hpre hpost
        refine ⟨tra, claim, trb, rfl, hdrawn, ?_, hpost, hall, hheld⟩
        refine drawn_once ?_ hdrawn
        simpa only [List.append_assoc, List.cons_append] using hfresh

def handedOnOps : List MailboxOp :=
  [.enqueue (.queued "d" "t" "r" 0), .claim "t" "a" 10 0 1 "first", .reclaimExpiredLeases 20 1,
    .claim "t" "b" 10 20 1 "second"]

def secondStart : MailboxOp := .recordDispatchStart "d" "second" "i" 21

def staleAck : MailboxOp := .ack "d" "first" 22

def handedOnTrace : List (Transition InMemoryMailboxStore Call) :=
  callTrace new (handedOnOps ++ [secondStart, staleAck])

lemma handedOnTrace_limit : ∀ τ ∈ handedOnTrace, AtMostOneClaim τ.label.op := by
  simp [handedOnTrace, handedOnOps, callTrace, AtMostOneClaim, secondStart, staleAck]

lemma handedOnTrace_named : ∀ τ ∈ handedOnTrace, ¬ ClaimsAnonymously τ.pre τ.label.op := by
  have ha : ¬ Anonymous "a" "first" ∧ ¬ Anonymous "b" "second" := by
    unfold Anonymous
    decide
  simp [handedOnTrace, handedOnOps, callTrace, ClaimsAnonymously, drawnToken, SpoilsStore, ha,
    secondStart, staleAck]

def lastCall (ops : List MailboxOp) (op : MailboxOp) : Transition InMemoryMailboxStore Call :=
  ⟨execAll new ops, ⟨op, (exec op (execAll new ops)).1⟩, (exec op (execAll new ops)).2⟩

theorem one_owner_handedOn :
    HeldBy "d" "second" (execAll new (handedOnOps ++ [secondStart, staleAck])) ∧
    Exclusive (execAll new (handedOnOps ++ [secondStart, staleAck])) ∧
    (∀ τ ∈ handedOnTrace, Named τ.post) ∧
    ¬ Accepted (lastCall (handedOnOps ++ [secondStart]) staleAck) "d" "first" ∧
    ∃ tra claim trb, callTrace new handedOnOps = tra ++ claim :: trb ∧
      drawnToken claim.label.op = some "second" ∧ HeldBy "d" "second" claim.post := by
  obtain ⟨hx, -, hn, ht⟩ := one_owner (run_callTrace new (handedOnOps ++ [secondStart, staleAck]))
    (by decide) handedOnTrace_limit
  refine ⟨⟨_, by rfl, rfl, rfl⟩, hx, hn.mpr handedOnTrace_named, fun ha => ?_, ?_⟩
  · obtain ⟨_, _, _, _, _, _, _, _, d, hd, -, hfirst⟩ :=
      ht (callTrace new (handedOnOps ++ [secondStart]))
        (lastCall (handedOnOps ++ [secondStart]) staleAck) [] "d" "first" rfl ha
    have hsecond : ((execAll new (handedOnOps ++ [secondStart])).get "d").map (·.claimToken) =
        some (some "second") := by decide
    rw [show (execAll new (handedOnOps ++ [secondStart])).get "d" = some d from hd,
      Option.map_some, hfirst] at hsecond
    exact absurd hsecond (by decide)
  · obtain ⟨tra, claim, trb, htr, hdrawn, -, hpost, -, -⟩ := ht (callTrace new handedOnOps)
      (lastCall handedOnOps secondStart) (callTrace _ [staleAck]) "d" "second" rfl
      ⟨rfl, .inl rfl⟩
    exact ⟨tra, claim, trb, htr, hdrawn, hpost⟩

def anonymousOps : List MailboxOp :=
  [.enqueue (.queued "d" "t" "r" 0), .claim "t" "" 10 0 1 "token"]

theorem claimed_by_nobody :
    ¬ ∀ tr s, Run Step new tr s → (drawnTokens tr).Nodup →
      (∀ τ ∈ tr, AtMostOneClaim τ.label.op) → Named s := by
  intro h
  have hn := h _ _ (run_callTrace new anonymousOps) (by decide)
    (by simp [anonymousOps, callTrace, AtMostOneClaim])
  have hd := hn "d" ((RunDispatch.queued "d" "t" "r" 0).claimedFor "" "token" 10 0) (by decide) rfl
  exact absurd hd.2 (by decide)

end Awaken.Stores.MemoryMailbox
