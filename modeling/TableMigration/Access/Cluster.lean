import TableMigration.Access.Node
import TableMigration.Bus
import TableMigration.Record

/-!
# Access.Cluster

What every activity of the system shares at one instant: the clock (in milliseconds), the
two stores with the paths to them, and the bus.

A read through a path may be held back. `Lookup` is what a read gives when it is asked:
refused, answered at once, or to be answered at a later instant, when the store is read as
it is then.
-/

namespace TableMigration.Access

open TableMigration.Store

/-- The clock, the two stores and the bus. -/
structure Cluster where
  now : Nat := 0
  src : Node := { side := .src }
  dst : Node := { side := .dst }
  bus : Bus := Bus.empty 1
  deriving Inhabited

/-- The answer to a guarded read when it is asked. -/
inductive Lookup where
  /-- The path refused the read. -/
  | refused (f : Failure)
  /-- The rows, read at once. -/
  | rows (rs : List Row)
  /-- The store is read at this instant. -/
  | heldUntil (t : Nat)
  deriving Repr

namespace Cluster

/-- One side's store and path. -/
def node (c : Cluster) : Side → Node
  | .src => c.src
  | .dst => c.dst

/-- Replace one side's store and path. -/
def setNode (c : Cluster) : Side → Node → Cluster
  | .src, n => { c with src := n }
  | .dst, n => { c with dst := n }

/-- Run a step of one side's node. -/
def onNode (c : Cluster) (s : Side) (f : Node → α × Node) : α × Cluster :=
  let (a, n) := f (c.node s)
  (a, c.setNode s n)

/-- Answer a query from one side's store itself. -/
def read (c : Cluster) (s : Side) (q : Query) : List Row := (c.node s).read q

/-- Ask for a guarded read. -/
def lookup (c : Cluster) (s : Side) (q : Query) : Lookup × Cluster :=
  match c.onNode s (·.admitRead q) with
  | (.error f, c) => (.refused f, c)
  | (.ok 0, c) => (.rows (c.read s q), c)
  | (.ok d, c) => (.heldUntil (c.now + d), c)

/-- Ask for a guarded read that must answer within `limitMs`. A read that reaches a store
hands its work to the store and answers only once it is woken again, so the limit has to lie
strictly after the instant the rows are ready: under a zero limit such a read times out at
once, and a held-back read is settled by `settleHeld`. A refused read fails at once, within
any limit. -/
def lookupWithin (c : Cluster) (s : Side) (q : Query) (limitMs : Nat) : Lookup × Cluster :=
  match c.lookup s q with
  | (.rows rs, c) => if limitMs = 0 then (.refused (.timeout limitMs), c) else (.rows rs, c)
  | r => r

/-- A held-back read with its limit, once its instant or its limit has come: the rows when
they were ready strictly before the limit, else a timeout after `limitMs`. -/
def settleHeld (c : Cluster) (s : Side) (q : Query) (readyAt deadline limitMs : Nat) :
    Except Failure (List Row) :=
  if readyAt < deadline then .ok (c.read s q) else .error (.timeout limitMs)

/-- A guarded write. -/
def write (c : Cluster) (s : Side) (stmt : Statement) : Except Failure Nat × Cluster :=
  c.onNode s (·.guardedWrite stmt)

/-- A write to one side's store itself. -/
def writeDirect (c : Cluster) (s : Side) (stmt : Statement) : Nat × Cluster :=
  c.onNode s (·.write stmt)

/-- Offer a message on the bus. -/
def offer (c : Cluster) (m : Message) : Offer × Cluster :=
  let (o, b) := c.bus.offer m
  (o, { c with bus := b })

/-- Finish a send that waited for room, giving whether the message went out. -/
def complete (c : Cluster) (ticket : Nat) (m : Message) : Bool × Cluster :=
  let (ok, b) := c.bus.complete ticket m
  (ok, { c with bus := b })

theorem node_setNode (c : Cluster) (s : Side) (n : Node) : (c.setNode s n).node s = n := by
  cases s <;> rfl

end Cluster

/-! ## Rows of records -/

/-- The stored row of a record: its id, its utime and its JSON text. -/
def rowOf (r : Record) : Row := ⟨r.id, r.utime, r.encode.toUTF8.toList⟩

/-- The record in a stored row, or the reason it cannot be read. -/
def recordOf (row : Row) : Except Failure Record :=
  match Record.decode row.data with
  | .ok r => .ok r
  | .error e => .error (.deserialization e.message)

/-- The first row a read found, as a record; none when it found no row. -/
def firstRecord : List Row → Except Failure (Option Record)
  | [] => .ok none
  | r :: _ => (recordOf r).map some

/-- A message waiting for room on the bus, and the instant it gives up. -/
structure Waiting where
  message : Message
  ticket : Nat
  deadline : Nat
  deriving Repr

/-- Whether a waiting send can finish now: it was answered, or its deadline came. -/
def Waiting.ready (w : Waiting) (c : Cluster) : Bool :=
  c.bus.answered w.ticket || decide (w.deadline ≤ c.now)

/-- What became of a message published with a time limit. -/
inductive Sent where
  /-- It went out. -/
  | delivered
  /-- It did not go out: the bus is closed or the limit passed. -/
  | lost
  /-- It waits for room until its deadline. -/
  | waiting (w : Waiting)
  deriving Repr

/-- Publish a message that may wait `limitMs` for room. -/
def publish (c : Cluster) (m : Message) (limitMs : Nat) : Sent × Cluster :=
  match c.offer m with
  | (.accepted, c) => (.delivered, c)
  | (.refused, c) => (.lost, c)
  | (.queued t, c) => (.waiting ⟨m, t, c.now + limitMs⟩, c)

/-- Finish a waiting send: it went out if it was given room, even when its deadline came at
the same instant. -/
def Waiting.finish (w : Waiting) (c : Cluster) : Sent × Cluster :=
  match c.complete w.ticket w.message with
  | (true, c) => (.delivered, c)
  | (false, c) => (.lost, c)

end TableMigration.Access
