import TableMigration.Access.Cluster
import TableMigration.Drift

/-!
# Repair

Repairing a reported drift by overriding the copy with the authoritative row.

A fixer has a base side (authoritative) and a target side. For a drift of kind
`target_missing` or `neq` it reads the base row of the id through the base's guarded path:
if the row is gone it deletes the copy, otherwise it writes the base record (re-encoded)
over the copy. For `base_missing` it deletes the copy. Every write goes through the
target's guarded path.

A consumer listens on one topic and ignores messages on any other. It decodes each message
and picks the fixer by the drift's direction: a drift found from the source is repaired
with the source authoritative, one found from the destination with the destination
authoritative. Repairing a raw payload with a given fixer ignores the payload's direction.

A repair job handles its work items one after the other.
-/

namespace TableMigration

open TableMigration.Access TableMigration.Store

/-- How a drift was repaired. -/
inductive FixOutcome where
  /-- The authoritative record was written over the copy. -/
  | upserted
  /-- The copy was deleted. -/
  | deleted
  deriving DecidableEq, Repr

/-- `Upserted` or `Deleted`. -/
def FixOutcome.name : FixOutcome → String
  | .upserted => "Upserted"
  | .deleted => "Deleted"

/-- Why a repair failed. -/
inductive FixError where
  /-- A store call failed. -/
  | storage (f : Failure)
  /-- The event names no known kind of drift. -/
  | unknownType (kind : String)
  /-- The event could not be read. -/
  | decode (e : DriftError)

namespace FixError

/-- The wording of a repair failure. -/
def message : FixError → String
  | .storage f => "storage error: " ++ f.message
  | .unknownType kind => "unknown inconsistency type: " ++ kind
  | .decode e => "undecodable event: " ++ e.message

/-- An unreadable event: an unknown kind keeps its own cause, anything else is a decode
failure. -/
def ofDrift : DriftError → FixError
  | .unknownType kind => .unknownType kind
  | e => .decode e

end FixError

/-- One thing to repair. -/
inductive Work where
  /-- A bus message, handled by the consumer of a topic. -/
  | message (m : Message)
  /-- A raw event payload, repaired with this side authoritative. -/
  | payload (base : Side) (bytes : List UInt8)
  deriving Repr

/-- A repair job: the table, the consumer's topic, the work left, a base read held back
(with the drift, its base side, and the instant it is read) and the answers so far. -/
structure RepairJob where
  table : String
  topic : String
  queue : List Work
  held : Option (Drift × Side × Nat) := none
  answers : List (Except FixError (Option FixOutcome)) := []
  finished : Bool := false

namespace RepairJob

/-- Record an answer. -/
def answer (j : RepairJob) (a : Except FixError (Option FixOutcome)) : RepairJob :=
  { j with answers := j.answers ++ [a], held := none }

/-- Delete the copy on the target. -/
def remove (j : RepairJob) (c : Cluster) (target : Side) (id : Int64) : RepairJob × Cluster :=
  match c.write target (.delete j.table id) with
  | (.error f, c) => (j.answer (.error (.storage f)), c)
  | (.ok _, c) => (j.answer (.ok (some .deleted)), c)

/-- Finish a sync with the base's rows: delete the copy when the base row is gone, else write
the base record over it. -/
def override (j : RepairJob) (c : Cluster) (target : Side) (id : Int64) (rows : List Row) :
    RepairJob × Cluster :=
  match rows with
  | [] => j.remove c target id
  | row :: _ =>
    match recordOf row with
    | .error f => (j.answer (.error (.storage f)), c)
    | .ok r =>
      match c.write target (.upsert j.table (rowOf r)) with
      | (.error f, c) => (j.answer (.error (.storage f)), c)
      | (.ok _, c) => (j.answer (.ok (some .upserted)), c)

/-- Repair a drift with `base` authoritative. -/
def fix (j : RepairJob) (c : Cluster) (base : Side) (d : Drift) : RepairJob × Cluster :=
  match d.kind with
  | .baseMissing => j.remove c base.opposite d.id
  | .targetMissing | .neq =>
    match c.lookup base (.byId j.table d.id) with
    | (.refused f, c) => (j.answer (.error (.storage f)), c)
    | (.rows rs, c) => j.override c base.opposite d.id rs
    | (.heldUntil t, c) => ({ j with held := some (d, base, t) }, c)

/-- Handle one work item. -/
def handle (j : RepairJob) (c : Cluster) : Work → RepairJob × Cluster
  | .message m =>
    if m.topic != j.topic then (j.answer (.ok none), c)
    else
      match Drift.decode m.payload with
      | .error e => (j.answer (.error (FixError.ofDrift e)), c)
      | .ok d => j.fix c d.side d
  | .payload base bytes =>
    match Drift.decode bytes with
    | .error e => (j.answer (.error (FixError.ofDrift e)), c)
    | .ok d => j.fix c base d

/-- Whether the job's next action can run now. -/
def ready (c : Cluster) (j : RepairJob) : Bool :=
  if j.finished then false
  else
    match j.held with
    | none => true
    | some (_, _, t) => decide (t ≤ c.now)

/-- One action of the job. -/
def step (c : Cluster) (j : RepairJob) : RepairJob × Cluster :=
  match j.held with
  | some (d, base, _) => j.override c base.opposite d.id (c.read base (.byId j.table d.id))
  | none =>
    match j.queue with
    | [] => ({ j with finished := true }, c)
    | w :: rest => { j with queue := rest }.handle c w

/-- The actions an unfinished job has left at most: two for each queued item (take it, then
settle a held read), one for a held read and one to finish. -/
def pending (j : RepairJob) : Nat :=
  2 * j.queue.length + (if j.held.isSome then 1 else 0) + (if j.finished then 0 else 1)

/-- Step the job while it can run now, at most `fuel` actions. -/
def run : Nat → RepairJob → Cluster → RepairJob × Cluster
  | 0, j, c => (j, c)
  | fuel + 1, j, c =>
    if j.ready c then
      let (j, c) := j.step c
      run fuel j c
    else (j, c)

/-- The earliest instant the job's clock wakes it. -/
def wake (j : RepairJob) : Option Nat := j.held.map fun (_, _, t) => t

end RepairJob

end TableMigration
