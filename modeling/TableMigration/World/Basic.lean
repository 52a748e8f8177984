import TableMigration.Timeline
import TableMigration.CommandLine
import TableMigration.Access.Handle

/-!
# World.Basic

A running system: its settings, the timeline (clock, stores, bus, tasks), the pattern cell
the scheduler and its double-write pool follow, a second pool's own cell, the transactions
and prepared statements callers opened, the bus messages taken off the bus and not yet
repaired, and the scheduler's two slots for a full and an incremental run.

The scheduler starts a run with the authoritative side of the current pattern as its base,
after stopping (cancelling and awaiting) the run in the same slot. Stopping a run gives its
report; an empty slot gives none. A run counts as running until its task is over.
-/

namespace TableMigration

open TableMigration.Access TableMigration.Validation TableMigration.Store

/-- A run held by the scheduler: its task and its base side. -/
structure Slot where
  task : Nat
  direction : Side
  deriving DecidableEq, Repr

/-- What the scheduler reports about itself. -/
structure Status where
  pattern : Pattern
  fullRunning : Bool
  incrementalRunning : Bool
  fullDirection : Option Side
  incrementalDirection : Option Side
  deriving DecidableEq, Repr

/-- A running system. -/
structure World where
  settings : ServerSettings
  /-- The watermark of an incremental run started without one: the current time in
  milliseconds since the epoch. -/
  wallClockMs : Int64
  tl : Timeline
  cell : Cell
  own : Cell := Cell.default
  handles : Array (Option Handle) := #[]
  prepared : Array (Side × Statement) := #[]
  pending : List Message := []
  full : Option Slot := none
  incremental : Option Slot := none

namespace World

/-- A system with empty stores, an empty bus of the configured depth and the pattern at
source only. -/
def create (settings : ServerSettings) (wallClockMs : Int64) : World where
  settings := settings
  wallClockMs := wallClockMs
  tl := { cluster := { bus := Bus.empty settings.busBuffer } }
  cell := Cell.init settings.policy

/-- The shared state at this instant. -/
def cluster (w : World) : Cluster := w.tl.cluster

/-- Replace the shared state. -/
def setCluster (w : World) (c : Cluster) : World := { w with tl := { w.tl with cluster := c } }

/-- The plan of a validation run from `base`. -/
def plan (w : World) (base : Side) (config : Config) : Plan :=
  ⟨w.settings.table, base, w.settings.topic, config⟩

/-- The settings of single-id checks from `base`. -/
def probe (w : World) (base : Side) : Probe :=
  ⟨w.settings.table, base, w.settings.topic, w.settings.validator.lookupTimeoutMs,
    w.settings.validator.notifyTimeoutMs⟩

/-- Wait until instant `t`. -/
def sleepUntil (w : World) (t : Nat) : World := { w with tl := w.tl.sleep t }

/-- Run a task as part of the caller, until it is over. -/
def perform (w : World) (t : Task) : Option Task × World :=
  let (id, tl) := w.tl.perform t true
  (tl.task? id, { w with tl := tl.remove id })

/-! ## Scheduler -/

/-- Whether a slot holds a run that is not over. -/
def running (w : World) : Option Slot → Bool
  | some s => !w.tl.finished s.task
  | none => false

/-- The scheduler's status. -/
def status (w : World) : Status :=
  ⟨w.cell.current, w.running w.full, w.running w.incremental, w.full.map (·.direction),
    w.incremental.map (·.direction)⟩

/-- Stop a run: cancel it, wait for it to end and take its report. The wait is bounded
(`waitBudget`); a run still going at the bound gives what its legs counted so far, marked
cancelled. -/
def stopRun (w : World) (s : Slot) : Option Report × World :=
  let tl := (w.tl.cancel s.task).await s.task
  let report :=
    match tl.task? s.task with
    | some (.scan r) =>
      some (r.report.getD
        { r.forwardProgress.report.merge r.backwardProgress.report with cancelled := true })
    | _ => none
  (report, { w with tl := tl.remove s.task })

/-- Start a run from the authoritative side with these settings. -/
def startRun (w : World) (config : Config) : Slot × World :=
  let direction := w.cell.current.authoritative
  let (id, tl) := w.tl.spawn (.scan (ScanRun.start (w.plan direction config))) false
  (⟨id, direction⟩, { w with tl := tl })

/-- Stop the full run, if any. -/
def stopFull (w : World) : Option Report × World :=
  match w.full with
  | none => (none, w)
  | some s =>
    let (r, w) := { w with full := none }.stopRun s
    (r, w)

/-- Stop the incremental run, if any. -/
def stopIncremental (w : World) : Option Report × World :=
  match w.incremental with
  | none => (none, w)
  | some s =>
    let (r, w) := { w with incremental := none }.stopRun s
    (r, w)

/-- Start a full run, stopping the previous one first. -/
def startFull (w : World) : Side × World :=
  let (_, w) := w.stopFull
  let (s, w) := w.startRun w.settings.validator.full
  (s.direction, { w with full := some s })

/-- Start an incremental run from a watermark, pausing at least one millisecond, stopping the
previous one first. -/
def startIncremental (w : World) (utime : Int64) (intervalMs : Nat) : Side × World :=
  let (_, w) := w.stopIncremental
  let (s, w) := w.startRun (w.settings.validator.incremental utime (max intervalMs 1))
  (s.direction, { w with incremental := some s })

/-- Stop both runs. -/
def shutdown (w : World) : World :=
  let (_, w) := w.stopFull
  (w.stopIncremental).2

/-- Wait in steps of one millisecond until no full run is running, at most `fuel` steps. -/
def awaitFullWithin : Nat → World → World
  | 0, w => w
  | fuel + 1, w =>
    if w.running w.full then awaitFullWithin fuel (w.sleepUntil (w.cluster.now + 1)) else w

/-- Wait until no full run is running. -/
def awaitFull (w : World) : World := awaitFullWithin waitBudget w

end World

end TableMigration
