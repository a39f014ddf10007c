import Switchboard.Hub.Basic
import Switchboard.Mailbox

namespace Switchboard

open Switchboard.Text

abbrev Errand := Nat × Request

/-- What a connection does with invocations. `sent`, `dropped` and `attempts` are counted without a limit, where
counters of 64 bits begin again at zero: runs of 2 ^ 64 sends are left out. -/
inductive Peer
  /-- Puts invocations into the mailbox of a number; `owner` is whether it came with the receiver. -/
  | channel (mailbox : Nat) (owner : Bool) (sent dropped : Nat)
  /-- Keeps what it takes, until it is closed. -/
  | recorder (received : List Invocation) (closed : Bool) (attempts : Nat)
  /-- Runs its errands at every attempt, and gives a fixed answer. -/
  | scripted (errands : List Errand) (answer : Answer) (attempts : Nat)

structure Peers where
  mailboxes : Table Nat Mailbox
  states : Table Connection Peer

namespace Peers

def empty : Peers :=
  ⟨Table.empty, Table.empty⟩

/-- The state of a connection. One that nothing else is known of keeps a record. -/
def peer (peers : Peers) (connection : Connection) : Peer :=
  (peers.states.get? connection).getD (.recorder [] false 0)

def set (peers : Peers) (connection : Connection) (peer : Peer) : Peers :=
  { peers with states := peers.states.insert connection peer }

/-- The mailbox of a number; one that was never created has lost its receiver. -/
def mailbox (peers : Peers) (number : Nat) : Mailbox :=
  (peers.mailboxes.get? number).getD ⟨0, [], .gone⟩

def setMailbox (peers : Peers) (number : Nat) (mailbox : Mailbox) : Peers :=
  { peers with mailboxes := peers.mailboxes.insert number mailbox }

def addChannel (peers : Peers) (connection : Connection) (capacity : Nat) :
    Except CapacityFault Peers := do
  let mailbox ← Mailbox.create capacity
  let number := peers.mailboxes.size
  .ok ((peers.setMailbox number mailbox).set connection (.channel number true 0 0))

/-- A connection that shares the mailbox of a number but not its receiver. -/
def addSharing (peers : Peers) (connection : Connection) (number : Nat) : Peers :=
  peers.set connection (.channel number false 0 0)

def addRecorder (peers : Peers) (connection : Connection) : Peers :=
  peers.set connection (.recorder [] false 0)

def addScripted (peers : Peers) (connection : Connection) (errands : List Errand)
    (answer : Answer) : Peers :=
  peers.set connection (.scripted errands answer 0)

/-- Whether a connection is known to be closed. A scripted one never is, whatever it answers. -/
def isClosed (peers : Peers) (connection : Connection) : Bool :=
  match peers.peer connection with
  | .channel number _ _ _ => (peers.mailbox number).isClosed
  | .recorder _ closed _ => closed
  | .scripted .. => false

/-- Hands an invocation to a connection: the connections afterwards, its errands and its answer. -/
def send (peers : Peers) (connection : Connection) (invocation : Invocation) :
    Peers × List Errand × Answer :=
  match peers.peer connection with
  | .channel number owner sent dropped =>
    let (answer, mailbox) := (peers.mailbox number).offer invocation
    let peer : Peer :=
      match answer with
      | .accepted => .channel number owner (sent + 1) dropped
      | .refused _ => .channel number owner sent (dropped + 1)
    ((peers.setMailbox number mailbox).set connection peer, [], answer)
  | .recorder received closed attempts =>
    if closed then
      (peers.set connection (.recorder received closed (attempts + 1)), [], .refused .closed)
    else
      (peers.set connection (.recorder (received ++ [invocation]) closed (attempts + 1)), [],
        .accepted)
  | .scripted errands answer attempts =>
    (peers.set connection (.scripted errands answer (attempts + 1)), errands, answer)

/-- The far end of a connection closes it. A channel is closed by its receiver, if it has one. -/
def close (peers : Peers) (connection : Connection) : Peers :=
  match peers.peer connection with
  | .channel number true _ _ => peers.setMailbox number (peers.mailbox number).close
  | .recorder received _ attempts => peers.set connection (.recorder received true attempts)
  | _ => peers

/-- The far end of a connection goes away: a channel loses its receiver with what is queued, and a
record is closed. -/
def dropReceiver (peers : Peers) (connection : Connection) : Peers :=
  match peers.peer connection with
  | .channel number true sent dropped =>
    (peers.setMailbox number (peers.mailbox number).drop).set connection
      (.channel number false sent dropped)
  | .recorder received _ attempts => peers.set connection (.recorder received true attempts)
  | _ => peers

/-- What the far end of a connection receives: up to a number of queued invocations, which are taken
out, or the whole record, which is kept; none where nothing can be received. -/
def receive (peers : Peers) (connection : Connection) (count : Option Nat) :
    Option (List Invocation) × Peers :=
  match peers.peer connection with
  | .channel number true _ _ =>
    let mailbox := peers.mailbox number
    let (taken, mailbox) := mailbox.take (count.getD mailbox.queued.length)
    (some taken, peers.setMailbox number mailbox)
  | .recorder received _ _ => (some received, peers)
  | _ => (none, peers)

def setAnswer (peers : Peers) (connection : Connection) (answer : Answer) : Peers :=
  match peers.peer connection with
  | .scripted errands _ attempts => peers.set connection (.scripted errands answer attempts)
  | _ => peers

/-- The connections as a single hub sees them: all errands are run there. -/
def network : Network Peers where
  send connection invocation _ peers :=
    let (peers, errands, answer) := peers.send connection invocation
    ⟨peers, errands.map Prod.snd, answer⟩
  isClosed connection peers := peers.isClosed connection

end Peers

end Switchboard
