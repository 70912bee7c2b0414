import Awaken.Lib.Run
import Awaken.Contract.ScopedMailbox

/-! Isolation of the scopes that share a mailbox store. The shared store is any store that keeps
its dispatches by their ids and its epochs by their threads. -/

namespace Awaken.Contract.ScopeIsolation

open Awaken.Lib Awaken.Contract.Mailbox Awaken.Contract.Scope Awaken.Contract.Storage
open Awaken.Contract.ScopedMailbox

structure StoreView (σ : Type) where
  exec : MailboxOp → σ → Outcome StorageError MailboxResp × σ
  row : σ → String → Option RunDispatch
  epoch : σ → String → Nat
  size : σ → Nat
  part : (String → Bool) → σ → σ

def leaseExpired (now : Nat) (dispatch : RunDispatch) : Bool :=
  dispatch.status = .claimed && dispatch.leaseUntil.any (· < now)

def KeysIn (p : String → Bool) : MailboxOp → Prop
  | .enqueue dispatch => p dispatch.dispatchId = true ∧ p dispatch.threadId = true
  | .claim threadId .. | .interrupt threadId .. | .interruptDetailed threadId ..
  | .currentDispatchEpoch threadId | .listDispatches threadId .. => p threadId = true
  | .claimDispatch dispatchId .. | .ack dispatchId .. | .recordDispatchStart dispatchId ..
  | .recordRunResult dispatchId .. | .nack dispatchId .. | .deadLetter dispatchId ..
  | .cancel dispatchId .. | .extendLease dispatchId .. | .supersedeClaimed dispatchId ..
  | .loadDispatch dispatchId => p dispatchId = true
  | .countDispatchesByStatus .. | .listTerminalDispatches .. | .reclaimExpiredLeases ..
  | .purgeTerminal .. | .queuedThreadIds => False

inductive Listing : MailboxOp → Prop
  | terminal : Listing (.listTerminalDispatches usizeMax 0)
  | queuedThreads : Listing .queuedThreadIds

def listed (p : String → Bool) : MailboxResp → MailboxResp
  | .dispatches value => .dispatches (value.filter (fun dispatch => p dispatch.dispatchId))
  | .threads value => .threads (value.filter p)
  | resp => resp

namespace StoreView

variable {σ : Type} (V : StoreView σ)

def Closed (p : String → Bool) (s : σ) : Prop :=
  ∀ k d, V.row s k = some d → p d.threadId = p k

def ReclaimsIn (p : String → Bool) (s : σ) (now limit : Nat) : Prop :=
  limit = 0 ∨ ∀ k d, V.row s k = some d → leaseExpired now d = true → p k = true

def Within (p : String → Bool) (s : σ) (op : MailboxOp) : Prop :=
  KeysIn p op ∨ ∃ now limit, op = .reclaimExpiredLeases now limit ∧ V.ReclaimsIn p s now limit

end StoreView

structure KeyedMailbox (σ : Type) extends StoreView σ where
  row_part : ∀ p s k, row (part p s) k = (row s k).filter (fun d => p k && p d.threadId)
  epoch_part : ∀ p s t, p t = true → epoch (part p s) t = epoch s t
  part_part : ∀ p q s, part q (part p s) = part (fun k => p k && q k) s
  row_exec : ∀ op s k d', row (exec op s).2 k = some d' →
    (∃ d, row s k = some d ∧ d'.threadId = d.threadId) ∨
      ∃ x, op = .enqueue x ∧ x.dispatchId = k ∧ d'.threadId = x.threadId
  exec_part : ∀ p s op, toStoreView.Closed p s → toStoreView.Within p s op →
    exec op (part p s) = ((exec op s).1, part p (exec op s).2)
  exec_frame : ∀ p s op, toStoreView.Closed p s → toStoreView.Within p s op →
    part (fun k => !p k) (exec op s).2 = part (fun k => !p k) s
  listing : ∀ op s, Listing op → (exec op s).2 = s
  listing_part : ∀ p s op, toStoreView.Closed p s → size s ≤ usizeMax → Listing op →
    exec op (part p s) = ((exec op s).1.map (listed p), part p s)

structure ScopedCall where
  scopeId : ScopeId
  op : MailboxOp
  resp : Outcome StorageError MailboxResp

namespace KeyedMailbox

variable {σ : Type} (K : KeyedMailbox σ)

/-- Each scope finds its dispatches in its own threads. -/
def WellScoped (s : σ) : Prop := ∀ a : ScopeId, K.Closed (inScope a) s

def ScopedStep (s : σ) (call : ScopedCall) (s' : σ) : Prop :=
  ScopedMailbox.exec K.exec call.scopeId call.op s = (call.resp, s')

def ReclaimsOwn (s : σ) (call : ScopedCall) : Prop :=
  ∀ now limit, call.op = .reclaimExpiredLeases now limit →
    K.ReclaimsIn (inScope call.scopeId) s now limit

variable {K} {s s' : σ}

lemma row_part_of {p : String → Bool} {k : String} (hc : K.Closed p s) (hk : p k = true) :
    K.row (K.part p s) k = K.row s k := by
  rw [K.row_part]
  cases hd : K.row s k with
  | none => rfl
  | some d => simp [hc k d hd, hk]

lemma row_eq_of_part {p : String → Bool} {k : String} (hc : K.Closed p s) (hc' : K.Closed p s')
    (h : K.part p s = K.part p s') (hk : p k = true) : K.row s k = K.row s' k := by
  rw [← row_part_of hc hk, h, row_part_of hc' hk]

lemma epoch_eq_of_part {p : String → Bool} {t : String} (h : K.part p s = K.part p s')
    (ht : p t = true) : K.epoch s t = K.epoch s' t := by
  rw [← K.epoch_part p s t ht, h, K.epoch_part p s' t ht]

lemma part_of_frame {a b : ScopeId} (hab : a ≠ b)
    (h : K.part (fun k => !inScope a k) s = K.part (fun k => !inScope a k) s') :
    K.part (inScope b) s = K.part (inScope b) s' := by
  have hb : (fun k => !inScope a k && inScope b k) = inScope b := by
    funext k
    cases hk : inScope b k with
    | false => simp
    | true => simp [inScope_of_ne hab.symm hk]
  have hp := congrArg (K.part (inScope b)) h
  rwa [K.part_part, K.part_part, hb] at hp

section Keys

variable (a : ScopeId)

lemma enqueue_of_encodeOp {op : MailboxOp} {x : RunDispatch} (h : encodeOp a op = .enqueue x) :
    inScope a x.dispatchId = true ∧ inScope a x.threadId = true := by
  cases op with
  | enqueue dispatch =>
    cases h
    exact ⟨inScope_scopedKey _ _, inScope_scopedKey _ _⟩
  | _ => exact nomatch h

lemma WellScoped.encodeOp (hw : K.WellScoped s) (op : MailboxOp) :
    K.WellScoped (K.exec (encodeOp a op) s).2 := by
  intro b k d' hk
  rcases K.row_exec _ _ _ _ hk with ⟨d, hd, ht⟩ | ⟨x, hx, rfl, ht⟩
  · rw [ht]
    exact hw b k d hd
  · obtain ⟨hid, hth⟩ := enqueue_of_encodeOp a hx
    rw [ht]
    by_cases hab : a = b
    · subst hab
      rw [hid, hth]
    · rw [inScope_of_ne hab hid, inScope_of_ne hab hth]

lemma decodeDispatch_of_not_inScope {d : RunDispatch} (h : inScope a d.dispatchId = false) :
    decodeDispatch a d = none := by
  have hn : unscopedKey a d.dispatchId = none :=
    Option.isNone_iff_eq_none.mp (Option.isSome_eq_false_iff.mp h)
  simp [decodeDispatch, hn]

lemma filterMap_filter {α β : Type} {f : α → Option β} {q : α → Bool}
    (h : ∀ x, q x = false → f x = none) (xs : List α) :
    (xs.filter q).filterMap f = xs.filterMap f := by
  rw [List.filterMap_filter]
  refine List.filterMap_congr (fun x _ => ?_)
  cases hx : q x with
  | false => simp [h x hx]
  | true => simp

lemma decodeResp_listed (resp : MailboxResp) :
    decodeResp a (listed (inScope a) resp) = decodeResp a resp := by
  cases resp with
  | dispatches value =>
    simp only [listed, decodeResp]
    rw [filterMap_filter (fun d hd => decodeDispatch_of_not_inScope a hd)]
  | threads value =>
    simp only [listed, decodeResp]
    rw [filterMap_filter (q := inScope a) (fun t ht =>
      Option.isNone_iff_eq_none.mp (Option.isSome_eq_false_iff.mp ht))]
  | _ => rfl

end Keys

structure Contained (K : KeyedMailbox σ) (a : ScopeId) {α : Type}
    (m : σ → Outcome StorageError α × σ) (s : σ) : Prop where
  alone : m (K.part (inScope a) s) = ((m s).1, K.part (inScope a) (m s).2)
  frame : K.part (fun k => !inScope a k) (m s).2 = K.part (fun k => !inScope a k) s
  wellScoped : K.WellScoped (m s).2

section Contained

variable {a : ScopeId} {α β : Type}

lemma Contained.map {m : σ → Outcome StorageError α × σ} (h : Contained K a m s) (f : α → β) :
    Contained K a (fun s => ((m s).1.map f, (m s).2)) s where
  alone := by rw [h.alone]
  frame := h.frame
  wellScoped := h.wellScoped

lemma contained_forward (hw : K.WellScoped s) (op : MailboxOp)
    (hin : K.Within (inScope a) s (encodeOp a op)) :
    Contained K a (forward K.exec a op) s where
  alone := by simp only [forward, K.exec_part _ _ _ (hw a) hin]
  frame := K.exec_frame _ _ _ (hw a) hin
  wellScoped := hw.encodeOp a op

lemma contained_listing (hw : K.WellScoped s) (hs : K.size s ≤ usizeMax) (op : MailboxOp)
    (hl : Listing (encodeOp a op)) : Contained K a (forward K.exec a op) s where
  alone := by
    simp only [forward, K.listing_part _ _ _ (hw a) hs hl, K.listing _ _ hl]
    cases (K.exec (encodeOp a op) s).1 with
    | ok resp => simp only [Outcome.map_ok, decodeResp_listed]
    | err e => rfl
    | panic => rfl
  frame := by simp only [forward, K.listing _ _ hl]
  wellScoped := by simpa only [forward, K.listing _ _ hl] using hw

lemma contained_queuedThreadIds (hw : K.WellScoped s) (hs : K.size s ≤ usizeMax) :
    Contained K a (queuedThreadIds K.exec a) s :=
  (contained_listing hw hs .queuedThreadIds .queuedThreads).map threadList

lemma contained_listDispatches (hw : K.WellScoped s) (threadId : String)
    (statusFilter : Option (List RunDispatchStatus)) (limit offset : Nat) :
    Contained K a (listDispatches K.exec a threadId statusFilter limit offset) s :=
  (contained_forward hw (.listDispatches threadId statusFilter limit offset)
    (.inl (inScope_scopedKey _ _))).map dispatchList

lemma contained_listTerminalDispatches (hw : K.WellScoped s) (hs : K.size s ≤ usizeMax)
    (limit offset : Nat) : Contained K a (listTerminalDispatches K.exec a limit offset) s :=
  (contained_listing hw hs (.listTerminalDispatches usizeMax 0) .terminal).map
    (fun resp => ((dispatchList resp).drop offset).take limit)

lemma Contained.andThen {m : σ → Outcome StorageError α × σ}
    {f : α → σ → Outcome StorageError β × σ} (h : Contained K a m s)
    (hf : ∀ x, Contained K a (f x) (m s).2) : Contained K a (andThen m f) s := by
  obtain ⟨ha, hfr, hw⟩ := h
  rcases hr : m s with ⟨r, s₁⟩
  rw [hr] at ha hfr hw hf
  cases r with
  | ok x =>
    obtain ⟨hxa, hxf, hxw⟩ := hf x
    refine ⟨?_, ?_, ?_⟩
    · simp only [ScopedMailbox.andThen, ha, hr, hxa]
    · simp only [ScopedMailbox.andThen, hr, hxf, hfr]
    · simpa only [ScopedMailbox.andThen, hr] using hxw
  | err e =>
    refine ⟨?_, ?_, ?_⟩
    · simp only [ScopedMailbox.andThen, ha, hr]
    · simp only [ScopedMailbox.andThen, hr, hfr]
    · simpa only [ScopedMailbox.andThen, hr] using hw
  | panic =>
    refine ⟨?_, ?_, ?_⟩
    · simp only [ScopedMailbox.andThen, ha, hr]
    · simp only [ScopedMailbox.andThen, hr, hfr]
    · simpa only [ScopedMailbox.andThen, hr] using hw

lemma contained_countQueued (threadIds : List String) (total : Nat) {s : σ}
    (hw : K.WellScoped s) : Contained K a (countQueued K.exec a total threadIds) s := by
  induction threadIds generalizing total s with
  | nil => exact ⟨rfl, rfl, hw⟩
  | cons threadId threadIds ih =>
    have hl := contained_listDispatches (a := a) hw threadId (some [.queued]) usizeMax 0
    exact hl.andThen (fun dispatches => ih (total + dispatches.length) hl.wellScoped)

lemma contained_countDispatchesByStatus (hw : K.WellScoped s) (hs : K.size s ≤ usizeMax)
    (status : RunDispatchStatus) :
    Contained K a (countDispatchesByStatus K.exec a status) s := by
  cases status with
  | queued =>
    have hq := contained_queuedThreadIds (a := a) hw hs
    exact hq.andThen (fun threadIds => contained_countQueued threadIds 0 hq.wellScoped)
  | claimed => exact ⟨rfl, rfl, hw⟩
  | acked | cancelled | superseded | deadLetter =>
    exact (contained_listTerminalDispatches hw hs usizeMax 0).map (fun all => _)

theorem contained_exec (hw : K.WellScoped s) (hs : K.size s ≤ usizeMax) (op : MailboxOp)
    (ho : ∀ now limit, op = .reclaimExpiredLeases now limit →
      K.ReclaimsIn (inScope a) s now limit) :
    Contained K a (ScopedMailbox.exec K.exec a op) s := by
  cases op with
  | countDispatchesByStatus status =>
    exact (contained_countDispatchesByStatus hw hs status).map MailboxResp.count
  | listTerminalDispatches limit offset =>
    exact (contained_listTerminalDispatches hw hs limit offset).map MailboxResp.dispatches
  | purgeTerminal olderThan => exact ⟨rfl, rfl, hw⟩
  | queuedThreadIds => exact contained_listing hw hs .queuedThreadIds .queuedThreads
  | reclaimExpiredLeases now limit =>
    exact contained_forward hw _ (.inr ⟨now, limit, rfl, ho now limit rfl⟩)
  | enqueue dispatch =>
    exact contained_forward hw (.enqueue dispatch)
      (.inl ⟨inScope_scopedKey _ _, inScope_scopedKey _ _⟩)
  | _ => exact contained_forward hw _ (.inl (inScope_scopedKey _ _))

end Contained

section Runs

variable {a : ScopeId} {tr : List (Transition σ ScopedCall)}

/-- What a transition of a run has to meet: the store is no larger than the largest `usize`, and a
reclaiming call finds no expired lease of others. -/
structure Fair (K : KeyedMailbox σ) (τ : Transition σ ScopedCall) : Prop where
  fits : K.size τ.pre ≤ usizeMax
  reclaimsOwn : K.ReclaimsOwn τ.pre τ.label

lemma contained_step {τ : Transition σ ScopedCall} (hw : K.WellScoped τ.pre) (hτ : Fair K τ) :
    Contained K τ.label.scopeId (ScopedMailbox.exec K.exec τ.label.scopeId τ.label.op) τ.pre :=
  contained_exec hw hτ.fits τ.label.op hτ.reclaimsOwn

theorem WellScoped.step {τ : Transition σ ScopedCall} (hw : K.WellScoped τ.pre)
    (hs : K.ScopedStep τ.pre τ.label τ.post) (hτ : Fair K τ) : K.WellScoped τ.post := by
  have h := (contained_step hw hτ).wellScoped
  rwa [hs] at h

theorem step_frame {τ : Transition σ ScopedCall} (hw : K.WellScoped τ.pre)
    (hs : K.ScopedStep τ.pre τ.label τ.post) (hτ : Fair K τ) {b : ScopeId}
    (hb : τ.label.scopeId ≠ b) : K.part (inScope b) τ.post = K.part (inScope b) τ.pre := by
  have h := (contained_step hw hτ).frame
  rw [hs] at h
  exact part_of_frame hb h

theorem step_alone {τ : Transition σ ScopedCall} (hw : K.WellScoped τ.pre)
    (hs : K.ScopedStep τ.pre τ.label τ.post) (hτ : Fair K τ) :
    ScopedMailbox.exec K.exec τ.label.scopeId τ.label.op
        (K.part (inScope τ.label.scopeId) τ.pre) =
      (τ.label.resp, K.part (inScope τ.label.scopeId) τ.post) := by
  have h := (contained_step hw hτ).alone
  rwa [hs] at h

def callsOf (a : ScopeId) (tr : List (Transition σ ScopedCall)) : List ScopedCall :=
  (tr.map (·.label)).filter (fun call => call.scopeId = a)

def serve (K : KeyedMailbox σ) (a : ScopeId) : List MailboxOp → σ → List ScopedCall × σ
  | [], s => ([], s)
  | op :: ops, s =>
    let r := ScopedMailbox.exec K.exec a op s
    (⟨a, op, r.1⟩ :: (serve K a ops r.2).1, (serve K a ops r.2).2)

def trace (K : KeyedMailbox σ) : σ → List (ScopeId × MailboxOp) → List (Transition σ ScopedCall)
  | _, [] => []
  | s, (a, op) :: calls =>
    let r := ScopedMailbox.exec K.exec a op s
    ⟨s, ⟨a, op, r.1⟩, r.2⟩ :: trace K r.2 calls

def served (K : KeyedMailbox σ) (s : σ) (calls : List (ScopeId × MailboxOp)) : σ :=
  calls.foldl (fun s call => (ScopedMailbox.exec K.exec call.1 call.2 s).2) s

lemma run_trace (s : σ) (calls : List (ScopeId × MailboxOp)) :
    Run K.ScopedStep s (trace K s calls) (served K s calls) := by
  induction calls generalizing s with
  | nil => exact .nil s
  | cons call calls ih => exact .cons rfl (ih _)

theorem run_alone (hr : Run K.ScopedStep s tr s') (hw : K.WellScoped s)
    (hf : ∀ τ ∈ tr, Fair K τ) (a : ScopeId) :
    serve K a ((callsOf a tr).map (·.op)) (K.part (inScope a) s) =
      (callsOf a tr, K.part (inScope a) s') := by
  induction hr with
  | nil => rfl
  | @cons s s₁ s' call tr hs _ ih =>
    have hτ : Fair K ⟨s, call, s₁⟩ := hf _ List.mem_cons_self
    have hi := ih (WellScoped.step (τ := ⟨s, call, s₁⟩) hw hs hτ)
      (fun τ hm => hf τ (List.mem_cons_of_mem _ hm))
    by_cases ha : call.scopeId = a
    · subst ha
      have hc : callsOf call.scopeId (⟨s, call, s₁⟩ :: tr) = call :: callsOf call.scopeId tr := by
        simp [callsOf]
      have h1 := step_alone (τ := ⟨s, call, s₁⟩) hw hs hτ
      rw [hc, List.map_cons]
      simp only [serve, h1, hi]
    · have hc : callsOf a (⟨s, call, s₁⟩ :: tr) = callsOf a tr := by simp [callsOf, ha]
      have h1 := step_frame (τ := ⟨s, call, s₁⟩) hw hs hτ ha
      rw [hc, ← h1]
      exact hi

/-- Runs without a reclaim that finds expired leases of others: no call changes a dispatch or an
epoch of another scope, each response is the one given by a store that holds only the dispatches
of the calling scope, and runs that start with the same dispatches of a scope and serve it the
same operations give it the same responses. -/
theorem scopes_isolated (hw : K.WellScoped s) (hr : Run K.ScopedStep s tr s')
    (hf : ∀ τ ∈ tr, Fair K τ) :
    (∀ τ ∈ tr, ∀ b, τ.label.scopeId ≠ b → ∀ k, inScope b k = true →
      K.row τ.post k = K.row τ.pre k ∧ K.epoch τ.post k = K.epoch τ.pre k) ∧
    (∀ τ ∈ tr, τ.label.resp = (ScopedMailbox.exec K.exec τ.label.scopeId τ.label.op
      (K.part (inScope τ.label.scopeId) τ.pre)).1) ∧
    ∀ t t' tr₂, K.WellScoped t → Run K.ScopedStep t tr₂ t' → (∀ τ ∈ tr₂, Fair K τ) →
      ∀ a, K.part (inScope a) s = K.part (inScope a) t →
        (callsOf a tr).map (·.op) = (callsOf a tr₂).map (·.op) → callsOf a tr = callsOf a tr₂ := by
  have hall := (hr.invariant (C := Fair K) (fun τ hs hτ hw => hw.step hs hτ) hf hw).2
  refine ⟨?_, ?_, ?_⟩
  · intro τ hτ b hb k hk
    have hp := step_frame (hall τ hτ).1 (hr.step_of_mem hτ) (hf τ hτ) hb
    exact ⟨row_eq_of_part ((hall τ hτ).2 b) ((hall τ hτ).1 b) hp hk, epoch_eq_of_part hp hk⟩
  · intro τ hτ
    rw [step_alone (hall τ hτ).1 (hr.step_of_mem hτ) (hf τ hτ)]
  · intro t t' tr₂ hw₂ hr₂ hf₂ a hp ho
    have h₁ := run_alone hr hw hf a
    have h₂ := run_alone hr₂ hw₂ hf₂ a
    rw [hp, ho, h₂] at h₁
    exact (congrArg Prod.fst h₁).symm

end Runs

end KeyedMailbox

end Awaken.Contract.ScopeIsolation
