import Mathlib.Tactic.Lemma

namespace Awaken.Lib

structure Broadcast (α : Type) where
  capacity : Nat
  sent : List α

structure Broadcast.Receiver where
  next : Nat
deriving DecidableEq

inductive Broadcast.Received (α : Type) where
  | item (message : α)
  | lagged (skipped : Nat)
  | pending

namespace Broadcast

variable {α : Type}

def send (self : Broadcast α) (message : α) : Broadcast α :=
  { self with sent := self.sent ++ [message] }

def subscribe (self : Broadcast α) : Receiver := ⟨self.sent.length⟩

def unread (self : Broadcast α) (rx : Receiver) : List α := self.sent.drop rx.next

def recv (self : Broadcast α) (rx : Receiver) : Received α × Receiver :=
  if self.capacity < self.sent.length - rx.next then
    (.lagged (self.sent.length - rx.next - self.capacity), ⟨self.sent.length - self.capacity⟩)
  else
    match self.sent[rx.next]? with
    | some message => (.item message, ⟨rx.next + 1⟩)
    | none => (.pending, rx)

variable {self : Broadcast α} {rx rx' : Receiver} {message : α}

end Broadcast

end Awaken.Lib
