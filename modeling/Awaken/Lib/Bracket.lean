import Awaken.Lib.Run

/-! Streams in which the members of a block stand between its start and its end. A block has a kind
and an id, and the stream is cut into rounds. -/

namespace Awaken.Lib

inductive Mark (κ ι : Type) where
  | begins
  | starts (kind : κ) (id : ι)
  | inside (kind : κ) (id : ι)
  | stops (kind : κ) (id : ι)
  | ends
  | other
deriving DecidableEq

@[ext] structure Blocks (κ ι : Type) where
  openId : κ → Option ι
  ended : Bool

namespace Blocks

variable {κ ι : Type} [DecidableEq κ] {blocks : Blocks κ ι} {marks : List (Mark κ ι)}

def closed : Blocks κ ι := ⟨fun _ => none, false⟩

def Allows (blocks : Blocks κ ι) : Mark κ ι → Prop
  | .begins => ∀ kind, blocks.openId kind = none
  | .starts kind _ => blocks.ended = false ∧ blocks.openId kind = none
  | .inside kind id | .stops kind id => blocks.ended = false ∧ blocks.openId kind = some id
  | .ends => blocks.ended = false ∧ ∀ kind, blocks.openId kind = none
  | .other => blocks.ended = false

def setOpen (blocks : Blocks κ ι) (kind : κ) (id : Option ι) : Blocks κ ι :=
  { blocks with openId := fun other => if other = kind then id else blocks.openId other }

def advance (blocks : Blocks κ ι) : Mark κ ι → Blocks κ ι
  | .begins => { blocks with ended := false }
  | .starts kind id => blocks.setOpen kind (some id)
  | .inside _ _ | .other => blocks
  | .stops kind _ => blocks.setOpen kind none
  | .ends => { blocks with ended := true }

def advanceAll (blocks : Blocks κ ι) (marks : List (Mark κ ι)) : Blocks κ ι :=
  marks.foldl advance blocks

def Bracketed (blocks : Blocks κ ι) (marks : List (Mark κ ι)) : Prop :=
  ∀ τ ∈ trace advance blocks marks, τ.pre.Allows τ.label

lemma bracketed_nil : blocks.Bracketed [] := by
  intro τ hτ
  cases hτ

lemma bracketed_cons {mark : Mark κ ι} :
    blocks.Bracketed (mark :: marks) ↔ blocks.Allows mark ∧ (blocks.advance mark).Bracketed marks :=
  List.forall_mem_cons

lemma bracketed_other (h : ∀ mark ∈ marks, mark = .other) (hended : blocks.ended = false) :
    blocks.Bracketed marks ∧ blocks.advanceAll marks = blocks := by
  induction marks with
  | nil => exact ⟨bracketed_nil, rfl⟩
  | cons mark marks ih =>
    rw [List.forall_mem_cons] at h
    obtain ⟨rfl, h⟩ := h
    exact ⟨(bracketed_cons).mpr ⟨hended, (ih h).1⟩, (ih h).2⟩

lemma advanceAll_append (blocks : Blocks κ ι) (marks marks' : List (Mark κ ι)) :
    blocks.advanceAll (marks ++ marks') = (blocks.advanceAll marks).advanceAll marks' :=
  List.foldl_append

lemma bracketed_append {marks' : List (Mark κ ι)} : blocks.Bracketed (marks ++ marks') ↔
    blocks.Bracketed marks ∧ (blocks.advanceAll marks).Bracketed marks' := by
  induction marks generalizing blocks with
  | nil => simp [advanceAll, bracketed_nil]
  | cons mark marks ih =>
    rw [List.cons_append, bracketed_cons, bracketed_cons, ih, and_assoc]
    rfl

@[simp] lemma openId_setOpen (kind other : κ) (id : Option ι) :
    (blocks.setOpen kind id).openId other = if other = kind then id else blocks.openId other := rfl

end Blocks

structure Marked (σ κ ι : Type) where
  machine : σ
  blocks : Blocks κ ι

namespace Marked

variable {σ L κ ι : Type} [DecidableEq κ] (emit : σ → L → σ × List (Mark κ ι))

def step (state : Marked σ κ ι) (event : L) : Marked σ κ ι :=
  ⟨(emit state.machine event).1, state.blocks.advanceAll (emit state.machine event).2⟩

def output (machine : σ) : List L → List (Mark κ ι)
  | [] => []
  | event :: events => (emit machine event).2 ++ output (emit machine event).1 events

theorem bracketed_iff {I : Marked σ κ ι → Prop} {C : Marked σ κ ι → L → Prop}
    (hstep : ∀ state event, I state →
      (state.blocks.Bracketed (emit state.machine event).2 ↔ C state event) ∧
        (C state event → I (state.step emit event)))
    {state : Marked σ κ ι} (h : I state) (events : List L) :
    state.blocks.Bracketed (output emit state.machine events) ↔
      ∀ τ ∈ trace (step emit) state events, C τ.pre τ.label := by
  induction events generalizing state with
  | nil =>
    refine ⟨fun _ τ hτ => ?_, fun _ => Blocks.bracketed_nil⟩
    cases hτ
  | cons event events ih =>
    obtain ⟨hiff, hnext⟩ := hstep state event h
    rw [output, Blocks.bracketed_append, hiff, trace, List.forall_mem_cons]
    exact and_congr_right (fun hc => ih (hnext hc))

end Marked

end Awaken.Lib
