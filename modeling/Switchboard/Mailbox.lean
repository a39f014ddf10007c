import Switchboard.Invocation

/-!
Bounded queues of invocations between those who send and the one who receives. A queue refuses what it
has no place for; once its receiver closes it, it refuses everything but gives out what it holds.
-/

namespace Switchboard

inductive CapacityFault
  | zero
  | tooLarge
deriving DecidableEq

/-- What becomes of a receiver: it may stop taking more, and it may go away with what is queued. -/
inductive Receiver
  | listening
  | closed
  | gone
deriving DecidableEq

structure Mailbox where
  capacity : Nat
  queued : List Invocation
  receiver : Receiver

namespace Mailbox

def maxCapacity : Nat := 2305843009213693951

def create (capacity : Nat) : Except CapacityFault Mailbox :=
  if capacity = 0 then .error .zero
  else if maxCapacity < capacity then .error .tooLarge
  else .ok ⟨capacity, [], .listening⟩

def isClosed (mailbox : Mailbox) : Bool :=
  mailbox.receiver != .listening

/-- Puts an invocation at the end of the queue, if it is open and has a place. -/
def offer (mailbox : Mailbox) (invocation : Invocation) : Answer × Mailbox :=
  if mailbox.isClosed then (.refused .closed, mailbox)
  else if mailbox.capacity ≤ mailbox.queued.length then (.refused .full, mailbox)
  else (.accepted, { mailbox with queued := mailbox.queued ++ [invocation] })

def take (mailbox : Mailbox) (count : Nat) : List Invocation × Mailbox :=
  (mailbox.queued.take count, { mailbox with queued := mailbox.queued.drop count })

def close (mailbox : Mailbox) : Mailbox :=
  if mailbox.receiver = .listening then { mailbox with receiver := .closed } else mailbox

def drop (mailbox : Mailbox) : Mailbox :=
  { mailbox with receiver := .gone, queued := [] }

theorem offer_closed {mailbox : Mailbox} (h : mailbox.isClosed = true) (invocation : Invocation) :
    mailbox.offer invocation = (.refused .closed, mailbox) := by
  simp [offer, h]

theorem offer_full {mailbox : Mailbox} (h : mailbox.isClosed = false)
    (hfull : mailbox.capacity ≤ mailbox.queued.length) (invocation : Invocation) :
    mailbox.offer invocation = (.refused .full, mailbox) := by
  simp [offer, h, hfull]

theorem offer_accepted {mailbox : Mailbox} (h : mailbox.isClosed = false)
    (hroom : mailbox.queued.length < mailbox.capacity) (invocation : Invocation) :
    mailbox.offer invocation =
      (.accepted, { mailbox with queued := mailbox.queued ++ [invocation] }) := by
  simp [offer, h, Nat.not_le.2 hroom]

theorem close_eq (mailbox : Mailbox) :
    mailbox.close = ⟨mailbox.capacity, mailbox.queued,
      if mailbox.receiver = .gone then .gone else .closed⟩ := by
  obtain ⟨capacity, queued, receiver⟩ := mailbox
  cases receiver with
  | listening => rfl
  | closed => rfl
  | gone => rfl

end Mailbox

def CapacityFault.message : CapacityFault → String
  | .zero => "mpsc bounded channel requires buffer > 0"
  | .tooLarge =>
    "a semaphore may not have more than MAX_PERMITS permits (" ++
      Text.Numeral.render Mailbox.maxCapacity ++ ")"

end Switchboard
