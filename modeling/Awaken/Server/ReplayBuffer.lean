import Awaken.Lib.Run

/-! The ring of recent frames that clients read again when they reconnect. Threads take its locks
one after the other, so a push is three steps. -/

namespace Awaken.Server.ReplayBuffer

open Awaken.Lib

abbrev Frame := Nat × String

structure EventReplayBuffer where
  frames : List Frame
  nextSeq : Nat
  capacity : Nat
  subscribers : List Nat

namespace EventReplayBuffer

def new (capacity : Nat) : EventReplayBuffer := ⟨[], 1, capacity, []⟩

def pushBack (self : EventReplayBuffer) (frame : Frame) : EventReplayBuffer :=
  let frames := self.frames ++ [frame]
  { self with frames := frames.drop (frames.length - self.capacity) }

def replayAfter (self : EventReplayBuffer) (lastSeenSeq : Nat) : List Frame :=
  self.frames.filter (fun frame => lastSeenSeq < frame.1)

end EventReplayBuffer

def sseFrame (json : String) : String := s!"data: {json}\n\n"

structure Stream where
  lastSeenSeq : Nat
  replayed : List Frame
  live : List Frame
  dropped : Bool

def Stream.receive (frame : Frame) (self : Stream) : Stream :=
  if self.dropped then self else { self with live := self.live ++ [frame] }

def Stream.received (self : Stream) : List Frame := self.replayed ++ self.live

structure World where
  buffer : EventReplayBuffer
  allocated : List Frame
  appended : List Frame
  streams : List Stream

namespace World

def new (capacity : Nat) : World := ⟨.new capacity, [], [], []⟩

def isAlive (self : World) (id : Nat) : Bool := (self.streams[id]?).all (fun s => !s.dropped)

def notify (self : World) (frame : Frame) : World :=
  { self with
    buffer := { self.buffer with subscribers := self.buffer.subscribers.filter self.isAlive }
    streams := self.buffer.subscribers.foldl
      (fun streams id => streams.modify id (Stream.receive frame)) self.streams }

def subscribeAfter (self : World) (lastSeenSeq : Nat) : World :=
  { self with
    buffer := { self.buffer with
      subscribers := self.buffer.subscribers ++ [self.streams.length] }
    streams := self.streams ++ [⟨lastSeenSeq, self.buffer.replayAfter lastSeenSeq, [], false⟩] }

end World

inductive BufferAction where
  | allocate (json : String)
  | append (frame : Frame)
  | send (frame : Frame)
  | subscribeAfter (lastSeenSeq : Nat)
  | drop (id : Nat)

/-- One thread takes the next number, the lock of the ring or the lock of the subscribers, or a
client goes. -/
def BufferStep (w : World) (action : BufferAction) (w' : World) : Prop :=
  match action with
  | .allocate json =>
    w' = { w with
      buffer := { w.buffer with nextSeq := w.buffer.nextSeq + 1 }
      allocated := w.allocated ++ [(w.buffer.nextSeq, sseFrame json)] }
  | .append frame =>
    frame ∈ w.allocated ∧ w' = { w with
      buffer := w.buffer.pushBack frame
      allocated := w.allocated.erase frame
      appended := w.appended ++ [frame] }
  | .send frame =>
    frame ∈ w.appended ∧ w' = { w.notify frame with appended := w.appended.erase frame }
  | .subscribeAfter lastSeenSeq => w' = w.subscribeAfter lastSeenSeq
  | .drop id => w' = { w with streams := w.streams.modify id (fun s => { s with dropped := true }) }

section Trace

variable (tr : List (Transition World BufferAction))

def pushes : List Frame :=
  tr.filterMap (fun τ =>
    match τ.label with
    | .allocate json => some (τ.pre.buffer.nextSeq, sseFrame json)
    | _ => none)

/-- The frames in the order in which the pushes take the lock of the ring. -/
def appends : List Frame :=
  tr.filterMap (fun τ =>
    match τ.label with
    | .append frame => some frame
    | _ => none)

/-- The frames in the order in which the pushes take the lock of the subscribers. -/
def sends : List Frame :=
  tr.filterMap (fun τ =>
    match τ.label with
    | .send frame => some frame
    | _ => none)

end Trace

end Awaken.Server.ReplayBuffer
