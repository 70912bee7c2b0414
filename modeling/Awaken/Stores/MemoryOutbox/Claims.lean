import Mathlib.Data.List.Forall2
import Awaken.Stores.MemoryOutbox

namespace Awaken.Stores.MemoryOutbox

open Awaken.Lib Awaken.Contract.Outbox InMemoryOutboxState

variable {J D : Type}

def claimableAt (s : InMemoryOutboxState J D) (lane target : String) (now : Nat) (id : String) :
    Bool :=
  (s.messages.get id).any (fun message => isClaimable message lane target now)

def claimBatch (s : InMemoryOutboxState J D) (lane target : String) (limit now : Nat) :
    List String :=
  (s.claimOrder.filter (claimableAt s lane target now)).take limit

structure Claims (leaseMs : Nat) (consumerId : String) (now : Nat) (batch : List String)
    (claimed : List (OutboxMessage J)) (s s' : InMemoryOutboxState J D) : Prop where
  nextId : s'.nextId = s.nextId
  dedupe : s'.dedupe = s.dedupe
  others : ∀ id ∉ batch, s'.messages.get id = s.messages.get id
  handed : ∀ id ∈ batch, ∃ message uuid, s.messages.get id = some message ∧
    s'.messages.get id = some (handOut message leaseMs consumerId uuid now)
  claimed : List.Forall₂ (fun id message => s'.messages.get id = some message) batch claimed

lemma claimLoop_spec {uuid : Nat → String} {lane target : String} {limit leaseMs : Nat}
    {consumerId : String} {now : Nat} {ids : List String} (hn : ids.Nodup)
    (claimed : List (OutboxMessage J)) (s : InMemoryOutboxState J D) :
    ∃ new s', claimLoop uuid lane target limit leaseMs consumerId now ids claimed s =
        (claimed ++ new, s') ∧
      Claims leaseMs consumerId now
        ((ids.filter (claimableAt s lane target now)).take (limit - claimed.length)) new s s' := by
  induction ids generalizing claimed s with
  | nil => exact ⟨[], s, by rw [claimLoop, List.append_nil], ⟨rfl, rfl, by simp, by simp, by simp⟩⟩
  | cons id ids ih =>
    obtain ⟨hid, hn⟩ := List.nodup_cons.mp hn
    rw [claimLoop]
    split
    · rename_i hlimit
      have hzero : limit - claimed.length = 0 := by omega
      rw [hzero, List.take_zero]
      exact ⟨[], s, by rw [List.append_nil], ⟨rfl, rfl, by simp, by simp, .nil⟩⟩
    · rename_i hlimit
      split
      · rename_i hget
        have hnot : claimableAt s lane target now id = false := by rw [claimableAt, hget]; rfl
        rw [List.filter_cons_of_neg (by simp [hnot])]
        exact ih hn claimed s
      · rename_i message hget
        split
        · rename_i hclaim
          have hyes : claimableAt s lane target now id = true := by
            rw [claimableAt, hget]
            exact hclaim
          let taken := handOut message leaseMs consumerId (uuid claimed.length) now
          let s₁ := { s with messages := s.messages.insert id taken }
          have hget₁ : ∀ k, s₁.messages.get k = if k = id then some taken else s.messages.get k :=
            fun k => Table.get_insert _ _ _ _
          have hothers : ∀ k ∈ ids, claimableAt s₁ lane target now k =
              claimableAt s lane target now k := by
            intro k hk
            have hne : k ≠ id := by
              rintro rfl
              exact hid hk
            rw [claimableAt, hget₁, if_neg hne, claimableAt]
          obtain ⟨new, s', hloop, hc⟩ := ih hn (claimed ++ [taken]) s₁
          rw [List.filter_congr hothers, List.length_append, List.length_singleton] at hc
          rw [List.filter_cons_of_pos hyes]
          have hroom : limit - claimed.length = (limit - (claimed.length + 1)) + 1 := by omega
          rw [hroom, List.take_succ_cons]
          have hnot : id ∉ (ids.filter (claimableAt s lane target now)).take
              (limit - (claimed.length + 1)) := fun hin =>
            hid (List.mem_of_mem_filter (List.mem_of_mem_take hin))
          have hself : s'.messages.get id = some taken := by
            rw [hc.others id hnot, hget₁, if_pos rfl]
          refine ⟨taken :: new, s', ?_, hc.nextId, hc.dedupe, fun k hk => ?_, fun k hk => ?_, ?_⟩
          · rw [List.append_cons claimed taken new]
            exact hloop
          · obtain ⟨hne, hk⟩ := not_or.mp (List.mem_cons.not.mp hk)
            rw [hc.others k hk, hget₁, if_neg hne]
          · rcases List.mem_cons.mp hk with rfl | hk
            · exact ⟨message, uuid claimed.length, hget, hself⟩
            · obtain ⟨m, u, hm, hm'⟩ := hc.handed k hk
              have hne : k ≠ id := fun heq => hnot (heq ▸ hk)
              rw [hget₁, if_neg hne] at hm
              exact ⟨m, u, hm, hm'⟩
          · exact .cons hself hc.claimed
        · rename_i hclaim
          have hnot : claimableAt s lane target now id = false := by
            rw [claimableAt, hget]
            simpa using hclaim
          rw [List.filter_cons_of_neg (by simp [hnot])]
          exact ih hn claimed s

lemma nodup_claimOrder (s : InMemoryOutboxState J D) : s.claimOrder.Nodup := by
  rw [claimOrder]
  exact ((List.mergeSort_perm _ _).map Prod.fst).nodup_iff.mpr s.messages.nodup

lemma claimOutbox_spec (uuid : Nat → String) (s : InMemoryOutboxState J D) (lane target : String)
    (limit leaseMs : Nat) (consumerId : String) (now : Nat) :
    (∃ e, checkClaim lane target consumerId = .error e ∧
      s.claimOutbox uuid lane target limit leaseMs consumerId now = (.error e, s)) ∨
    (∃ claimed s', checkClaim lane target consumerId = .ok () ∧
      s.claimOutbox uuid lane target limit leaseMs consumerId now = (.ok claimed, s') ∧
      Claims leaseMs consumerId now (claimBatch s lane target limit now) claimed s s') := by
  unfold claimOutbox
  cases hcheck : checkClaim lane target consumerId with
  | error e => exact Or.inl ⟨e, rfl, rfl⟩
  | ok u =>
    obtain ⟨new, s', hloop, hc⟩ := claimLoop_spec (nodup_claimOrder s) [] s
    refine Or.inr ⟨new, s', rfl, ?_, hc⟩
    dsimp only
    rw [hloop, List.nil_append]

end Awaken.Stores.MemoryOutbox
