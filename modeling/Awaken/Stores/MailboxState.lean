import Awaken.Lib.Outcome
import Awaken.Contract.Mailbox

namespace Awaken.Stores.MailboxState

open Awaken.Lib Awaken.Contract.Mailbox Awaken.Contract.Storage

def reasonClaimedSupersededByEpoch := "claimed dispatch superseded by newer dispatch epoch"
def reasonClaimedSupersededBeforeAck := "claimed dispatch superseded before ack"
def reasonClaimedSupersededBeforeStart := "claimed dispatch superseded before runtime start"
def reasonClaimedSupersededBeforeResult := "claimed dispatch superseded before run result"
def reasonClaimedSupersededBeforeNack := "claimed dispatch superseded before nack"
def reasonClaimedSupersededBeforeDeadLetter := "claimed dispatch superseded before dead letter"
def reasonClaimedSupersededDuringLeaseRenewal := "claimed dispatch superseded during lease renewal"
def reasonClaimedLeaseExpiredAfterInterrupt := "claimed dispatch lease expired after interrupt"
def reasonQueuedSupersededByInterrupt := "queued dispatch superseded by interrupt"
def reasonQueuedSupersededByEpoch := "queued dispatch superseded by newer dispatch epoch"
def reasonLeaseExpiredMaxAttempts := "lease expired; max attempts reached"

def expecting (r : Except StorageError Unit × RunDispatch) :
    Outcome StorageError Unit × RunDispatch := (Outcome.expect r.1, r.2)

def markSuperseded (dispatch : RunDispatch) (now : Nat) (reason : Option String) :
    Outcome StorageError Unit × RunDispatch :=
  expecting (dispatch.markSuperseded now reason)

def markSupersededAtEpoch (dispatch : RunDispatch) (now epoch : Nat) (reason : Option String) :
    Outcome StorageError Unit × RunDispatch :=
  expecting (dispatch.markSupersededAtEpoch now epoch reason)

def markAcked (dispatch : RunDispatch) (now : Nat) : Outcome StorageError Unit × RunDispatch :=
  expecting (dispatch.markAcked now)

def markCancelled (dispatch : RunDispatch) (now : Nat) : Outcome StorageError Unit × RunDispatch :=
  expecting (dispatch.markCancelled now)

def markDeadLetter (dispatch : RunDispatch) (now : Nat) (error : String) :
    Outcome StorageError Unit × RunDispatch :=
  expecting (dispatch.markDeadLetter now error)

def markNackResult (dispatch : RunDispatch) (now retryAt : Nat) (error : String) :
    Outcome StorageError Unit × RunDispatch :=
  expecting (dispatch.markNackResult now retryAt error)

def markExpiredLease (dispatch : RunDispatch) (now : Nat) :
    Outcome StorageError Unit × RunDispatch :=
  expecting (dispatch.markExpiredLease now reasonLeaseExpiredMaxAttempts)

end Awaken.Stores.MailboxState
