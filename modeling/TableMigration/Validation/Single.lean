import TableMigration.Access.Cluster
import TableMigration.Validation.Basic

/-!
# Validation.Single

Judging single ids as they change, outside any scan. For each id the base row is fetched,
then the target row, each through its guarded path and bounded by the lookup limit; a row
that is absent is `none`, one that cannot be read is a deserialization failure. A failure
of the base fetch is the answer. A target row that cannot be read counts as a mismatch when
the base row exists; any other failure of the target fetch is the answer. Otherwise the pair
is judged with `classify`.

A check that publishes reports each drift on the bus, bounded by the notify limit; a report
that does not go out is only lost, the drift is still the answer.

A job judges its ids one after the other; a cancelled job takes no further id.
-/

namespace TableMigration.Validation

open TableMigration.Access TableMigration.Store

/-- What single-id checks work with. -/
structure Probe where
  table : String
  base : Side
  topic : String
  lookupTimeoutMs : Nat
  notifyTimeoutMs : Nat
  deriving Repr

/-- Where the judging of one id stands. -/
inductive Judging where
  /-- About to fetch the base row. -/
  | start (id : Int64)
  /-- Waiting for the base row: read at `readyAt` if that comes strictly before the limit at
  `deadline`, else given up at the limit. -/
  | base (id : Int64) (readyAt deadline : Nat)
  /-- Waiting for the target row, in the same way. -/
  | target (id : Int64) (base : Option Record) (readyAt deadline : Nat)
  /-- Waiting for room to report a drift. -/
  | sending (kind : DriftKind) (w : Waiting)

/-- A job: the ids still to judge, the one being judged and the answers so far. -/
structure CheckJob where
  probe : Probe
  /-- Whether drifts are published. -/
  publishes : Bool
  queue : List Int64
  current : Option Judging := none
  answers : List (Except Failure (Option DriftKind)) := []
  finished : Bool := false

/-- What a fetch gives when it is asked: an answer now or an instant to read at. -/
inductive Fetch where
  | answer (r : Except Failure (Option Record))
  | heldUntil (t : Nat)

/-- Ask for one side's row of an id. -/
def Probe.fetch (p : Probe) (c : Cluster) (s : Side) (id : Int64) : Fetch × Cluster :=
  match c.lookupWithin s (.byId p.table id) p.lookupTimeoutMs with
  | (.refused f, c) => (.answer (.error f), c)
  | (.rows rs, c) => (.answer (firstRecord rs), c)
  | (.heldUntil t, c) => (.heldUntil t, c)

/-- A held-back fetch when its instant or its limit comes, whichever is first. -/
def Probe.fetchLate (p : Probe) (c : Cluster) (s : Side) (id : Int64) (readyAt deadline : Nat) :
    Except Failure (Option Record) := do
  firstRecord (← c.settleHeld s (.byId p.table id) readyAt deadline p.lookupTimeoutMs)

/-- The drift judged from the base record and the target's fetch. -/
def judgeFetched (base : Option Record) (target : Except Failure (Option Record)) :
    Except Failure (Option DriftKind) :=
  match target with
  | .ok t => .ok (classify base t)
  | .error (.deserialization d) =>
    if base.isSome then .ok (some .neq) else .error (.deserialization d)
  | .error f => .error f

namespace CheckJob

/-- Record an answer and go on with the next id. -/
def answer (j : CheckJob) (a : Except Failure (Option DriftKind)) : CheckJob :=
  { j with answers := j.answers ++ [a], current := none }

/-- After the target's fetch: answer, or report the drift first. -/
def conclude (j : CheckJob) (c : Cluster) (id : Int64) (base : Option Record)
    (target : Except Failure (Option Record)) : CheckJob × Cluster :=
  match judgeFetched base target with
  | .ok (some k) =>
    if j.publishes then
      let m : Message := ⟨j.probe.topic, (Drift.mk id j.probe.base k).encode.toUTF8.toList⟩
      match publish c m j.probe.notifyTimeoutMs with
      | (.waiting w, c) => ({ j with current := some (.sending k w) }, c)
      | (_, c) => (j.answer (.ok (some k)), c)
    else (j.answer (.ok (some k)), c)
  | a => (j.answer a, c)

/-- After the base's fetch: fetch the target. -/
def afterBase (j : CheckJob) (c : Cluster) (id : Int64) (base : Except Failure (Option Record)) :
    CheckJob × Cluster :=
  match base with
  | .error f => (j.answer (.error f), c)
  | .ok b =>
    match j.probe.fetch c j.probe.base.opposite id with
    | (.answer t, c) => j.conclude c id b t
    | (.heldUntil t, c) =>
      ({ j with current := some (.target id b t (c.now + j.probe.lookupTimeoutMs)) }, c)

/-- Whether the job's next action can run now. -/
def ready (c : Cluster) (j : CheckJob) : Bool :=
  if j.finished then false
  else
    match j.current with
    | none => true
    | some (.start _) => true
    | some (.base _ readyAt deadline) => decide (readyAt ≤ c.now) || decide (deadline ≤ c.now)
    | some (.target _ _ readyAt deadline) =>
      decide (readyAt ≤ c.now) || decide (deadline ≤ c.now)
    | some (.sending _ w) => w.ready c

/-- One action of the job. -/
def step (cancelled : Bool) (c : Cluster) (j : CheckJob) : CheckJob × Cluster :=
  match j.current with
  | none =>
    match j.queue with
    | [] => ({ j with finished := true }, c)
    | id :: rest =>
      if cancelled then ({ j with finished := true }, c)
      else ({ j with queue := rest, current := some (.start id) }, c)
  | some (.start id) =>
    match j.probe.fetch c j.probe.base id with
    | (.answer b, c) => j.afterBase c id b
    | (.heldUntil t, c) =>
      ({ j with current := some (.base id t (c.now + j.probe.lookupTimeoutMs)) }, c)
  | some (.base id readyAt deadline) =>
    j.afterBase c id (j.probe.fetchLate c j.probe.base id readyAt deadline)
  | some (.target id b readyAt deadline) =>
    j.conclude c id b (j.probe.fetchLate c j.probe.base.opposite id readyAt deadline)
  | some (.sending k w) =>
    let (_, c) := w.finish c
    (j.answer (.ok (some k)), c)

/-- The actions an unfinished job has left at most: five for each queued id (take it, fetch
the base, settle a held base read, settle a held target read, settle a report), what is left
of the id in hand, and one to finish. -/
def pending (j : CheckJob) : Nat :=
  let inHand : Nat :=
    match j.current with
    | none => 0
    | some (.start _) => 4
    | some (.base ..) => 3
    | some (.target ..) => 2
    | some (.sending ..) => 1
  5 * j.queue.length + inHand + (if j.finished then 0 else 1)

/-- Step the job while it can run now, at most `fuel` actions. -/
def run (cancelled : Bool) : Nat → CheckJob → Cluster → CheckJob × Cluster
  | 0, j, c => (j, c)
  | fuel + 1, j, c =>
    if j.ready c then
      let (j, c) := j.step cancelled c
      run cancelled fuel j c
    else (j, c)

/-- The earliest instant the job's clock wakes it. -/
def wake (j : CheckJob) : Option Nat :=
  match j.current with
  | some (.base _ readyAt deadline) => some (min readyAt deadline)
  | some (.target _ _ readyAt deadline) => some (min readyAt deadline)
  | some (.sending _ w) => some w.deadline
  | _ => none

end CheckJob

end TableMigration.Validation
