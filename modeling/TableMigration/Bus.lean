/-!
# Bus

The in-process message bus that carries drift reports from validators to repairers: a queue
of at most `capacity` messages, each a topic and a payload.

A sender offers a message. When the bus has room the message is queued at once. When it is
full the sender takes a ticket and waits in line; a receiver that takes messages off the bus
gives the room it frees to the waiting senders, first in line first, and only a sender that
was given room may then queue its message. A newcomer never passes a sender in line. Once
the receiver is gone the bus is closed: offers are refused and the senders still in line are
refused too, also those already given room that have not yet queued their message.
-/

namespace TableMigration

/-- One message: the topic it is published on and its bytes. -/
structure Message where
  topic : String
  payload : List UInt8
  deriving DecidableEq, Repr, Inhabited

/-- The bus: the queued messages, the senders in line and those given room, by ticket. -/
structure Bus where
  capacity : Nat
  queue : List Message := []
  waiting : List Nat := []
  granted : List Nat := []
  nextTicket : Nat := 0
  closed : Bool := false
  deriving Repr, Inhabited

/-- What became of an offered message. -/
inductive Offer where
  /-- The message is on the bus. -/
  | accepted
  /-- The bus is closed. -/
  | refused
  /-- The bus is full; the sender waits in line with this ticket. -/
  | queued (ticket : Nat)
  deriving DecidableEq, Repr

namespace Bus

/-- An empty open bus. -/
def empty (capacity : Nat) : Bus := { capacity := capacity }

/-- Whether a message may be queued now: queued messages and room already given leave a
place free. -/
def hasRoom (b : Bus) : Bool := b.queue.length + b.granted.length < b.capacity

/-- Offer a message. -/
def offer (b : Bus) (m : Message) : Offer × Bus :=
  if b.closed then (.refused, b)
  else if b.hasRoom then (.accepted, { b with queue := b.queue ++ [m] })
  else
    (.queued b.nextTicket,
      { b with waiting := b.waiting ++ [b.nextTicket], nextTicket := b.nextTicket + 1 })

/-- Whether the sender holding a ticket can go on without waiting for its deadline: it was
given room, or the bus closed. -/
def answered (b : Bus) (ticket : Nat) : Bool := b.granted.contains ticket || b.closed

/-- Finish a waiting send. Once the bus is closed every waiting sender fails, also one that
was given room before the close. Otherwise a sender given room queues its message and
succeeds, and one still in line leaves it and fails (the deadline came first). -/
def complete (b : Bus) (ticket : Nat) (m : Message) : Bool × Bus :=
  if b.closed then
    (false, { b with waiting := b.waiting.erase ticket, granted := b.granted.erase ticket })
  else if b.granted.contains ticket then
    (true, { b with granted := b.granted.erase ticket, queue := b.queue ++ [m] })
  else (false, { b with waiting := b.waiting.erase ticket })

/-- Give free room to the senders in line, first in line first. -/
def grantRoom (b : Bus) : Bus :=
  let free := b.capacity - (b.queue.length + b.granted.length)
  { b with waiting := b.waiting.drop free, granted := b.granted ++ b.waiting.take free }

/-- Take every queued message off the bus; the room freed goes to the senders in line. -/
def drain (b : Bus) : List Message × Bus := (b.queue, grantRoom { b with queue := [] })

/-- Drop the receiver: queued messages are lost and the bus is closed. -/
def close (b : Bus) : Bus := { b with queue := [], closed := true }

/-- An offer to an open bus with room is accepted and queued last. -/
theorem offer_of_hasRoom (b : Bus) (m : Message) (hopen : b.closed = false)
    (hroom : b.hasRoom = true) : b.offer m = (.accepted, { b with queue := b.queue ++ [m] }) := by
  simp [offer, hopen, hroom]

end Bus

end TableMigration
