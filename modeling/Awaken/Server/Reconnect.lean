import Mathlib.Data.List.Perm.Basic
import Mathlib.Tactic.Lemma
import Awaken.Server.ReplayBuffer

namespace Awaken.Server.ReplayBuffer

open Awaken.Lib

structure Wired (w : World) : Prop where
  nodup : w.buffer.subscribers.Nodup
  bounded : ∀ id ∈ w.buffer.subscribers, id < w.streams.length
  alive : ∀ (id : Nat) (s : Stream), w.streams[id]? = some s → s.dropped = false → id ∈ w.buffer.subscribers

/-- What steps do that take numbers, places in the ring and the lock of the subscribers for these
frames. -/
structure Progress (w w' : World) (pushed added sent : List Frame) : Prop where
  allocated : (w'.allocated ++ added).Perm (w.allocated ++ pushed)
  appended : (w'.appended ++ sent).Perm (w.appended ++ added)
  capacity : w'.buffer.capacity = w.buffer.capacity
  frames : w.buffer.frames.length + added.length ≤ w.buffer.capacity →
    w'.buffer.frames = w.buffer.frames ++ added
  increasing : pushed.Pairwise (fun a b => a.1 < b.1)
  numbers : ∀ frame ∈ pushed, w.buffer.nextSeq ≤ frame.1 ∧ frame.1 < w'.buffer.nextSeq
  next : w.buffer.nextSeq ≤ w'.buffer.nextSeq
  stream : ∀ (id : Nat) (s s' : Stream), w.streams[id]? = some s → w'.streams[id]? = some s' →
    s'.dropped = false → s'.lastSeenSeq = s.lastSeenSeq ∧ s'.replayed = s.replayed ∧
      s'.live = s.live ++ sent ∧ s.dropped = false
  streams : w.streams.length ≤ w'.streams.length

lemma perm_flow {α : Type} {b b₁ b₂ entered left entered' left' : List α}
    (h : (b₁ ++ left).Perm (b ++ entered)) (h' : (b₂ ++ left').Perm (b₁ ++ entered')) :
    (b₂ ++ (left ++ left')).Perm (b ++ (entered ++ entered')) := by
  have h₁ : (b₂ ++ (left ++ left')).Perm ((b₂ ++ left') ++ left) := by
    rw [List.append_assoc]
    exact List.perm_append_comm.append_left b₂
  have h₂ : ((b₁ ++ entered') ++ left).Perm ((b₁ ++ left) ++ entered') := by
    rw [List.append_assoc, List.append_assoc]
    exact List.perm_append_comm.append_left b₁
  have h₃ : ((b₁ ++ left) ++ entered').Perm (b ++ (entered ++ entered')) := by
    rw [← List.append_assoc]
    exact h.append_right entered'
  exact h₁.trans ((h'.append_right left).trans (h₂.trans h₃))

section Streams

variable {streams : List Stream} {frame : Frame} {ids : List Nat} {id : Nat}

lemma length_foldl_receive :
    (ids.foldl (fun streams id => streams.modify id (Stream.receive frame)) streams).length =
      streams.length := by
  induction ids generalizing streams with
  | nil => rfl
  | cons k ids ih => rw [List.foldl_cons, ih, List.length_modify]

lemma getElem?_foldl_receive (hn : ids.Nodup) :
    (ids.foldl (fun streams id => streams.modify id (Stream.receive frame)) streams)[id]? =
      if id ∈ ids then (streams[id]?).map (Stream.receive frame) else streams[id]? := by
  induction ids generalizing streams with
  | nil => simp
  | cons k ids ih =>
    obtain ⟨hk, hn⟩ := List.nodup_cons.mp hn
    rw [List.foldl_cons, ih hn, List.getElem?_modify]
    by_cases hid : k = id
    · subst hid
      simp [hk]
    · have hne : id ≠ k := fun h => hid h.symm
      simp [hid, hne]

lemma receive_dropped (frame : Frame) (s : Stream) : (s.receive frame).dropped = s.dropped := by
  unfold Stream.receive
  split <;> rfl

end Streams

namespace Progress

variable {w w₁ w₂ w' : World} {p a s p' a' s' : List Frame}

lemma refl (w : World) : Progress w w [] [] [] := by
  refine ⟨.refl _, .refl _, rfl, fun _ => by rw [List.append_nil], List.Pairwise.nil, by simp,
    Nat.le_refl _, fun id t t' ht ht' hd => ?_, Nat.le_refl _⟩
  obtain rfl := Option.some.inj (ht.symm.trans ht')
  exact ⟨rfl, rfl, by rw [List.append_nil], hd⟩

lemma trans (h : Progress w w₁ p a s) (h' : Progress w₁ w₂ p' a' s') :
    Progress w w₂ (p ++ p') (a ++ a') (s ++ s') := by
  refine ⟨perm_flow h.allocated h'.allocated, perm_flow h.appended h'.appended,
    h'.capacity.trans h.capacity, fun hroom => ?_, ?_, fun frame hf => ?_,
    Nat.le_trans h.next h'.next, fun id t t₂ ht ht₂ hd => ?_, Nat.le_trans h.streams h'.streams⟩
  · rw [List.length_append] at hroom
    have hframes := h.frames (by omega)
    rw [h'.frames (by rw [hframes, h.capacity, List.length_append]; omega), hframes,
      List.append_assoc]
  · refine List.pairwise_append.mpr ⟨h.increasing, h'.increasing, fun x hx y hy => ?_⟩
    have hx' := (h.numbers x hx).2
    have hy' := (h'.numbers y hy).1
    omega
  · have hn := h.next
    have hn' := h'.next
    rcases List.mem_append.mp hf with hf | hf
    · have := h.numbers frame hf
      omega
    · have := h'.numbers frame hf
      omega
  · have hlt : id < w.streams.length := (List.getElem?_eq_some_iff.mp ht).1
    obtain ⟨t₁, ht₁⟩ : ∃ t₁, w₁.streams[id]? = some t₁ :=
      ⟨_, List.getElem?_eq_getElem (Nat.lt_of_lt_of_le hlt h.streams)⟩
    obtain ⟨hl', hr', hv', hd₁⟩ := h'.stream id t₁ t₂ ht₁ ht₂ hd
    obtain ⟨hl, hr, hv, hd₀⟩ := h.stream id t t₁ ht ht₁ hd₁
    exact ⟨hl'.trans hl, hr'.trans hr, by rw [hv', hv, List.append_assoc], hd₀⟩

def stepFrames (w : World) : BufferAction → List Frame × List Frame × List Frame
  | .allocate json => ([(w.buffer.nextSeq, sseFrame json)], [], [])
  | .append frame => ([], [frame], [])
  | .send frame => ([], [], [frame])
  | _ => ([], [], [])

lemma step (hw : Wired w) {action : BufferAction} (h : BufferStep w action w') :
    Progress w w' (stepFrames w action).1 (stepFrames w action).2.1 (stepFrames w action).2.2 := by
  have hkept : ∀ (id : Nat) (t t' : Stream), w.streams[id]? = some t → w.streams[id]? = some t' →
      t'.dropped = false → t'.lastSeenSeq = t.lastSeenSeq ∧ t'.replayed = t.replayed ∧
        t'.live = t.live ++ [] ∧ t.dropped = false := by
    intro id t t' ht ht' hd
    obtain rfl := Option.some.inj (ht.symm.trans ht')
    exact ⟨rfl, rfl, by rw [List.append_nil], hd⟩
  cases action with
  | allocate json =>
    obtain rfl := h
    refine ⟨by simp [stepFrames], .refl _, rfl, fun _ => by simp [stepFrames],
      List.pairwise_singleton _ _, fun frame hf => ?_, Nat.le_succ _, hkept, Nat.le_refl _⟩
    rw [List.mem_singleton.mp hf]
    exact ⟨Nat.le_refl _, Nat.lt_succ_self _⟩
  | append frame =>
    obtain ⟨hmem, rfl⟩ := h
    refine ⟨?_, by simp [stepFrames], rfl, fun hroom => ?_, List.Pairwise.nil, by simp [stepFrames],
      Nat.le_refl _, hkept, Nat.le_refl _⟩
    · simp only [stepFrames, List.append_nil]
      exact List.perm_append_comm.trans (List.perm_cons_erase hmem).symm
    · simp only [stepFrames, List.length_singleton] at hroom
      simp only [EventReplayBuffer.pushBack, stepFrames, List.length_append, List.length_singleton]
      rw [Nat.sub_eq_zero_of_le hroom, List.drop_zero]
  | send frame =>
    obtain ⟨hmem, rfl⟩ := h
    refine ⟨by simp [stepFrames, World.notify], ?_, rfl,
      fun _ => by simp [stepFrames, World.notify], List.Pairwise.nil, by simp [stepFrames], Nat.le_refl _,
      fun id t t' ht ht' hd => ?_, ?_⟩
    · simp only [stepFrames, List.append_nil]
      exact List.perm_append_comm.trans (List.perm_cons_erase hmem).symm
    · simp only [World.notify] at ht'
      rw [getElem?_foldl_receive hw.nodup, ht] at ht'
      by_cases hdropped : t.dropped = true
      · exfalso
        split at ht'
        · rw [← Option.some.inj ht', receive_dropped] at hd
          exact absurd (hdropped.symm.trans hd) Bool.noConfusion
        · rw [← Option.some.inj ht'] at hd
          exact absurd (hdropped.symm.trans hd) Bool.noConfusion
      · have halive : t.dropped = false := by simpa using hdropped
        rw [if_pos (hw.alive id t ht halive)] at ht'
        rw [← Option.some.inj ht', Stream.receive, if_neg hdropped]
        exact ⟨rfl, rfl, rfl, halive⟩
    · exact Nat.le_of_eq (length_foldl_receive).symm
  | subscribeAfter lastSeenSeq =>
    obtain rfl := h
    refine ⟨.refl _, .refl _, rfl, fun _ => by simp [stepFrames, World.subscribeAfter],
      List.Pairwise.nil, by simp [stepFrames], Nat.le_refl _, fun id t t' ht ht' hd => ?_, ?_⟩
    · have hlt : id < w.streams.length := (List.getElem?_eq_some_iff.mp ht).1
      simp only [World.subscribeAfter] at ht'
      rw [List.getElem?_append_left hlt] at ht'
      exact hkept id t t' ht ht' hd
    · simp [World.subscribeAfter]
  | drop k =>
    obtain rfl := h
    refine ⟨.refl _, .refl _, rfl, fun _ => by simp [stepFrames], List.Pairwise.nil,
      by simp [stepFrames], Nat.le_refl _, fun id t t' ht ht' hd => ?_, by simp⟩
    dsimp only at ht'
    rw [List.getElem?_modify, ht] at ht'
    split at ht'
    · rw [← Option.some.inj ht'] at hd
      cases hd
    · exact hkept id t t' ht (ht ▸ ht') hd

end Progress

namespace Wired

variable {w w' : World}

lemma new (capacity : Nat) : Wired (World.new capacity) :=
  ⟨List.nodup_nil, fun id hid => (by cases hid), fun id s hs => (by cases hs)⟩

lemma step (hw : Wired w) {action : BufferAction} (h : BufferStep w action w') : Wired w' := by
  cases action with
  | allocate json =>
    obtain rfl := h
    exact ⟨hw.nodup, hw.bounded, hw.alive⟩
  | append frame =>
    obtain ⟨-, rfl⟩ := h
    exact ⟨hw.nodup, hw.bounded, hw.alive⟩
  | send frame =>
    obtain ⟨-, rfl⟩ := h
    refine ⟨hw.nodup.filter _, fun id hid => ?_, fun id s hs hd => ?_⟩
    · have hlt := hw.bounded id (List.mem_of_mem_filter hid)
      rw [World.notify]
      exact Nat.lt_of_lt_of_le hlt (Nat.le_of_eq (length_foldl_receive).symm)
    · simp only [World.notify] at hs
      rw [getElem?_foldl_receive hw.nodup] at hs
      obtain ⟨t, ht, htd⟩ : ∃ t, w.streams[id]? = some t ∧ t.dropped = false := by
        split at hs
        · obtain ⟨t, ht, rfl⟩ := Option.map_eq_some_iff.mp hs
          exact ⟨t, ht, receive_dropped frame t ▸ hd⟩
        · exact ⟨s, hs, hd⟩
      refine List.mem_filter.mpr ⟨hw.alive id t ht htd, ?_⟩
      rw [World.isAlive, ht, Option.all_some, htd]
      rfl
  | subscribeAfter lastSeenSeq =>
    obtain rfl := h
    refine ⟨?_, fun id hid => ?_, fun id s hs hd => ?_⟩
    · refine List.nodup_append.mpr ⟨hw.nodup, by simp, fun a ha b hb hab => ?_⟩
      have hlt := hw.bounded a ha
      rw [List.mem_singleton] at hb
      omega
    · simp only [World.subscribeAfter, List.length_append, List.length_singleton]
      rcases List.mem_append.mp hid with hid | hid
      · have hlt := hw.bounded id hid
        omega
      · rw [List.mem_singleton.mp hid]
        exact Nat.lt_succ_self _
    · simp only [World.subscribeAfter] at hs ⊢
      rw [List.getElem?_append] at hs
      split at hs
      · exact List.mem_append_left _ (hw.alive id s hs hd)
      · have hlt : id - w.streams.length < 1 := (List.getElem?_eq_some_iff.mp hs).1
        refine List.mem_append_right _ (List.mem_singleton.mpr ?_)
        omega
  | drop k =>
    obtain rfl := h
    refine ⟨hw.nodup, fun id hid => ?_, fun id s hs hd => ?_⟩
    · dsimp only
      rw [List.length_modify]
      exact hw.bounded id hid
    · dsimp only at hs
      rw [List.getElem?_modify] at hs
      split at hs
      · obtain ⟨t, -, rfl⟩ := Option.map_eq_some_iff.mp hs
        cases hd
      · exact hw.alive id s (by simpa using hs) hd

end Wired

lemma progress {w w' : World} {tr : List (Transition World BufferAction)}
    (h : Run BufferStep w tr w') (hw : Wired w) :
    Progress w w' (pushes tr) (appends tr) (sends tr) := by
  induction h with
  | nil w => exact .refl w
  | @cons w w₁ w' action tr hstep _ ih =>
    have hfirst := Progress.step hw hstep
    have hrest := ih (hw.step hstep)
    have h := hfirst.trans hrest
    cases action <;> exact h

/-- The pushes take the locks in the order of their numbers as far as the client sees them: none
is between its two locks when the client subscribes, and none that comes later has a number that
the client has seen. -/
structure InStep (lastSeenSeq : Nat) (w : World) (before after : List Frame) : Prop where
  window : w.appended = []
  later : ∀ frame ∈ after, lastSeenSeq < frame.1
  ring : (before.filter (fun frame => lastSeenSeq < frame.1)).Pairwise (fun a b => a.1 < b.1)
  live : after.Pairwise (fun a b => a.1 < b.1)
  across : ∀ a ∈ before, lastSeenSeq < a.1 → ∀ b ∈ after, a.1 < b.1

section Reconnect

variable {capacity lastSeenSeq : Nat} {tr₁ tr₂ : List (Transition World BufferAction)}
  {w w' : World} {stream : Stream}

lemma pushes_append : pushes (tr₁ ++ tr₂) = pushes tr₁ ++ pushes tr₂ := List.filterMap_append

lemma received_eq (h₁ : Run BufferStep (World.new capacity) tr₁ w)
    (h₂ : Run BufferStep (w.subscribeAfter lastSeenSeq) tr₂ w')
    (hcapacity : (pushes (tr₁ ++ tr₂)).length ≤ capacity)
    (hstream : w'.streams[w.streams.length]? = some stream) (halive : stream.dropped = false) :
    stream.received =
      (appends tr₁).filter (fun frame => lastSeenSeq < frame.1) ++ sends tr₂ := by
  have hwired := h₁.invariant_all (fun _ _ _ hstep hw => hw.step hstep) (Wired.new capacity)
  have p₁ := progress h₁ (Wired.new capacity)
  have hstep : BufferStep w (.subscribeAfter lastSeenSeq) (w.subscribeAfter lastSeenSeq) := rfl
  have p₂ := progress h₂ (hwired.step hstep)
  have hlength := p₁.allocated.length_eq
  have hframes : w.buffer.frames = appends tr₁ := by
    refine p₁.frames ?_
    rw [pushes_append, List.length_append] at hcapacity
    simp only [World.new, EventReplayBuffer.new, List.length_append, List.length_nil] at hlength ⊢
    omega
  have hnew : (w.subscribeAfter lastSeenSeq).streams[w.streams.length]? =
      some ⟨lastSeenSeq, w.buffer.replayAfter lastSeenSeq, [], false⟩ := by
    rw [World.subscribeAfter, List.getElem?_append_right (Nat.le_refl _), Nat.sub_self]
    rfl
  obtain ⟨-, hreplayed, hlive, -⟩ := p₂.stream _ _ _ hnew hstream halive
  rw [Stream.received, hreplayed, hlive, EventReplayBuffer.replayAfter, hframes, List.nil_append]

/-- A client that subscribes again receives the frames after the last it has seen, each once and in
order, exactly when the pushes are in step. -/
theorem reconnect_exact_iff (h₁ : Run BufferStep (World.new capacity) tr₁ w)
    (h₂ : Run BufferStep (w.subscribeAfter lastSeenSeq) tr₂ w')
    (hcapacity : (pushes (tr₁ ++ tr₂)).length ≤ capacity)
    (hdone : w'.allocated = [] ∧ w'.appended = [])
    (hstream : w'.streams[w.streams.length]? = some stream) (halive : stream.dropped = false) :
    stream.received = (pushes (tr₁ ++ tr₂)).filter (fun frame => lastSeenSeq < frame.1) ↔
      InStep lastSeenSeq w (appends tr₁) (sends tr₂) := by
  have hwired := h₁.invariant_all (fun _ _ _ hstep hw => hw.step hstep) (Wired.new capacity)
  have p₁ := progress h₁ (Wired.new capacity)
  have hstep : BufferStep w (.subscribeAfter lastSeenSeq) (w.subscribeAfter lastSeenSeq) := rfl
  have p₂ := progress h₂ (hwired.step hstep)
  have p : Progress (World.new capacity) w' (pushes tr₁ ++ pushes tr₂) _ _ :=
    p₁.trans ((Progress.step hwired hstep).trans p₂)
  rw [received_eq h₁ h₂ hcapacity hstream halive, pushes_append]
  -- all frames have been sent in the end
  have hadded : (appends tr₁ ++ appends tr₂).Perm (pushes tr₁ ++ pushes tr₂) := by
    have h := p.allocated
    rw [hdone.1] at h
    exact h
  have hsent : (sends tr₂).Perm (w.appended ++ appends tr₂) := by
    have h := p₂.appended
    rw [hdone.2] at h
    exact h
  have hwaiting : ∀ frame ∈ w.appended, frame ∈ appends tr₁ := by
    intro frame hf
    have h : frame ∈ ([] : List Frame) ++ appends tr₁ :=
      p₁.appended.mem_iff.mp (List.mem_append_left _ hf)
    simpa using h
  constructor
  · intro heq
    have hsorted : ((appends tr₁).filter (fun frame => lastSeenSeq < frame.1) ++
        sends tr₂).Pairwise (fun a b => a.1 < b.1) := by
      rw [heq]
      exact p.increasing.filter _
    obtain ⟨hring, hlive, hacross⟩ := List.pairwise_append.mp hsorted
    have hlater : ∀ frame ∈ sends tr₂, lastSeenSeq < frame.1 := by
      intro frame hf
      have hmem := List.mem_append_right
        ((appends tr₁).filter (fun frame => lastSeenSeq < frame.1)) hf
      rw [heq] at hmem
      exact of_decide_eq_true (List.mem_filter.mp hmem).2
    have hacross' : ∀ a ∈ appends tr₁, lastSeenSeq < a.1 → ∀ b ∈ sends tr₂, a.1 < b.1 :=
      fun a ha hseen b hb => hacross a (List.mem_filter.mpr ⟨ha, decide_eq_true hseen⟩) b hb
    refine ⟨List.eq_nil_iff_forall_not_mem.mpr (fun frame hf => ?_), hlater, hring, hlive, hacross'⟩
    have hin : frame ∈ sends tr₂ := hsent.mem_iff.mpr (List.mem_append_left _ hf)
    exact Nat.lt_irrefl _ (hacross' frame (hwaiting frame hf) (hlater frame hin) frame hin)
  · rintro ⟨hwindow, hlater, hring, hlive, hacross⟩
    rw [hwindow, List.nil_append] at hsent
    have hkept : (sends tr₂).filter (fun frame => lastSeenSeq < frame.1) = sends tr₂ :=
      List.filter_eq_self.mpr (fun frame hf => decide_eq_true (hlater frame hf))
    have hperm : ((appends tr₁).filter (fun frame => lastSeenSeq < frame.1) ++ sends tr₂).Perm
        ((pushes tr₁ ++ pushes tr₂).filter (fun frame => lastSeenSeq < frame.1)) := by
      rw [← hkept, ← List.filter_append]
      exact ((hsent.append_left _).trans hadded).filter _
    refine hperm.eq_of_pairwise (fun a b _ _ hab hba => ?_) ?_ (p.increasing.filter _)
    · exact absurd (Nat.lt_trans hab hba) (Nat.lt_irrefl _)
    · refine List.pairwise_append.mpr ⟨hring, hlive, fun a ha b hb => ?_⟩
      obtain ⟨hmem, hseen⟩ := List.mem_filter.mp ha
      exact hacross a hmem (of_decide_eq_true hseen) b hb

def onlyFrame : Frame := (1, sseFrame "x")

def ringWorld : World := ⟨⟨[onlyFrame], 2, 8, []⟩, [], [onlyFrame], []⟩

def idleWorld : World := ⟨⟨[onlyFrame], 2, 8, []⟩, [], [], []⟩

def doubledWorld : World :=
  ⟨⟨[onlyFrame], 2, 8, [0]⟩, [], [], [⟨0, [onlyFrame], [onlyFrame], false⟩]⟩

def ringTrace : List (Transition World BufferAction) :=
  [⟨.new 8, .allocate "x", ⟨⟨[], 2, 8, []⟩, [onlyFrame], [], []⟩⟩,
    ⟨⟨⟨[], 2, 8, []⟩, [onlyFrame], [], []⟩, .append onlyFrame, ringWorld⟩]

lemma run_ringWorld : Run BufferStep (.new 8) ringTrace ringWorld :=
  .cons rfl (.cons ⟨List.mem_cons_self, rfl⟩ (.nil _))

lemma run_doubledWorld : Run BufferStep (ringWorld.subscribeAfter 0)
    [⟨ringWorld.subscribeAfter 0, .send onlyFrame, doubledWorld⟩] doubledWorld :=
  .cons ⟨List.mem_cons_self, rfl⟩ (.nil _)

theorem reconnect_exact_iff_idleWorld :
    (Stream.received ⟨0, [onlyFrame], [], false⟩) = [onlyFrame] ↔
      InStep 0 idleWorld [onlyFrame] [] := by
  have hsent : Run BufferStep ringWorld [⟨ringWorld, .send onlyFrame, idleWorld⟩] idleWorld :=
    .cons ⟨List.mem_cons_self, rfl⟩ (.nil _)
  exact reconnect_exact_iff (run_ringWorld.append hsent) (.nil _) (by decide) ⟨rfl, rfl⟩ rfl rfl

theorem reconnect_doubles_frame :
    ¬ ∀ (capacity lastSeenSeq : Nat) (tr₁ tr₂ : List (Transition World BufferAction))
      (w w' : World) (stream : Stream), Run BufferStep (World.new capacity) tr₁ w →
        Run BufferStep (w.subscribeAfter lastSeenSeq) tr₂ w' →
        (pushes (tr₁ ++ tr₂)).length ≤ capacity → (w'.allocated = [] ∧ w'.appended = []) →
        w'.streams[w.streams.length]? = some stream → stream.dropped = false →
        stream.received = (pushes (tr₁ ++ tr₂)).filter (fun frame => lastSeenSeq < frame.1) := by
  intro h
  have heq := h 8 0 ringTrace _ ringWorld doubledWorld _ run_ringWorld run_doubledWorld (by decide)
    ⟨rfl, rfl⟩ rfl rfl
  have hlength := congrArg List.length heq
  exact absurd hlength (by decide)

end Reconnect

end Awaken.Server.ReplayBuffer
