import TableMigration.Access.Cluster
import TableMigration.Validation.Basic

/-!
# Validation.Scan

A validation run over one table, from the authoritative side (the base) to the other (the
target), as two legs that run side by side:

* base to target walks the base one row at a time (keyset cursor, watermark `since`), reads
  the target's row with the same id and judges the pair (`classify`); an unreadable target
  row counts as a mismatch, an unreadable base row as a failed lookup;
* target to base walks the target a batch at a time and looks the whole batch up on the
  base; every id the base lacks is reported missing there, in batch order.

Every store read is bounded by `lookupTimeoutMs` and every report by `notifyTimeoutMs`. A
failed cursor read counts toward `maxConsecutiveFailures`; at the limit a full run gives up
(`aborted`) and an incremental run resets the count and pauses. When a pass finds nothing
more a full run ends its leg and an incremental run pauses `intervalMs` and reads on from the
same cursor. A leg notices cancellation at the top of its loop and while pausing.

Each leg is a small state machine whose `step` performs one action; a leg is `ready` when
its next action can run at the current instant. A poll of the run steps one leg while it
is ready, then the other; the leg that goes first alternates from poll to poll.
-/

namespace TableMigration.Validation

open TableMigration.Access TableMigration.Store

/-- What a run works on: the table, the base side (the run's direction), the topic its
reports are published on, and its settings. -/
structure Plan where
  table : String
  base : Side
  topic : String
  config : Config
  deriving Repr

/-- The side a run compares against. -/
def Plan.target (p : Plan) : Side := p.base.opposite

/-- The message reporting one drift. -/
def Plan.message (p : Plan) (id : Int64) (kind : DriftKind) : Message :=
  ⟨p.topic, (Drift.mk id p.base kind).encode.toUTF8.toList⟩

/-- A bound on the polls that find a full pass over `nB` base rows and `nT` target rows ready.
A leg reads at its cursor at most once for every row and once more, each read preceded by at most
the failure limit of failed ones; after a read the base-to-target leg takes at most three
actions, and the target-to-base leg at most two for each row of its batch and two more. -/
def Plan.pollBound (p : Plan) (nB nT : Nat) : Nat :=
  let reads (n : Nat) := (n + 1) * (p.config.maxConsecutiveFailures + 1)
  3 * reads nB + (2 * p.config.batchSize + 2) * reads nT

/-- A leg's cursor, its run of failed cursor reads and its report. -/
structure Progress where
  after : Option Int64 := none
  failures : Nat := 0
  report : Report := {}
  deriving Repr, Inhabited

/-- Count a failed lookup. -/
def Progress.lookupFailed (p : Progress) : Progress :=
  { p with report := { p.report with lookupFailures := p.report.lookupFailures + 1 } }

/-- Count a report that did not go out. -/
def Progress.notifyFailed (p : Progress) : Progress :=
  { p with report := { p.report with notifyFailures := p.report.notifyFailures + 1 } }

/-- How a leg goes on after a pass or a failure. -/
inductive Resume where
  /-- Back to the top of the loop. -/
  | again
  /-- Pause until this instant, or until cancelled. -/
  | wait (wakeAt : Nat)
  /-- Leave the loop. -/
  | stop
  deriving DecidableEq, Repr

/-- After a pass found nothing more: a full run stops, an incremental run pauses. -/
def Config.idle (cfg : Config) (now : Nat) : Resume :=
  match cfg.intervalMs with
  | none => .stop
  | some ms => .wait (now + ms)

/-- After a failed cursor read (already counted as a failed lookup): retry below the limit;
at the limit a full run gives up and an incremental run starts counting again and pauses. -/
def Config.absorb (cfg : Config) (now : Nat) (p : Progress) : Resume × Progress :=
  let failures := p.failures + 1
  if failures < cfg.maxConsecutiveFailures then (.again, { p with failures := failures })
  else
    match cfg.intervalMs with
    | none => (.stop, { p with failures := failures, report := { p.report with aborted := true } })
    | some ms => (.wait (now + ms), { p with failures := 0 })

/-- Count a drift and publish its report. -/
def notify (plan : Plan) (c : Cluster) (p : Progress) (id : Int64) (kind : DriftKind) :
    Sent × Progress × Cluster :=
  let p := { p with report := p.report.record kind }
  let (s, c) := publish c (plan.message id kind) plan.config.notifyTimeoutMs
  match s with
  | .lost => (s, p.notifyFailed, c)
  | _ => (s, p, c)

/-- Count the end of a waiting report. -/
def settleReport (w : Waiting) (c : Cluster) (p : Progress) : Progress × Cluster :=
  match w.finish c with
  | (.delivered, c) => (p, c)
  | (_, c) => (p.notifyFailed, c)

/-! ## Base to target -/

/-- Where the base-to-target leg stands. -/
inductive Forward where
  /-- At the top of the loop. -/
  | head
  /-- Waiting for the target's row of a base record: read at `readyAt` if that comes strictly
  before the limit at `deadline`, else given up at the limit. -/
  | lookup (id : Int64) (base : Record) (readyAt deadline : Nat)
  /-- Waiting for room to report a drift. -/
  | sending (w : Waiting)
  /-- Pausing until an instant. -/
  | pausing (wakeAt : Nat)
  /-- Out of the loop. -/
  | done

/-- The state after a `Resume`. -/
def Forward.resume : Resume → Forward
  | .again => .head
  | .wait t => .pausing t
  | .stop => .done

/-- Go on after judging a row: report its drift, if it has one, and wait for room when the bus
has none. -/
def afterJudged (plan : Plan) (c : Cluster) (p : Progress) (id : Int64) :
    Option DriftKind → Forward × Progress × Cluster
  | none => (.head, p, c)
  | some k =>
    match notify plan c p id k with
    | (.waiting w, p, c) => (.sending w, p, c)
    | (_, p, c) => (.head, p, c)

/-- Judge a base record against the target's rows and report a drift. -/
def judge (plan : Plan) (c : Cluster) (p : Progress) (id : Int64) (base : Record)
    (target : List Row) : Forward × Progress × Cluster :=
  afterJudged plan c p id <|
    match target with
    | [] => classify (some base) none
    | row :: _ =>
      match recordOf row with
      | .ok t => classify (some base) (some t)
      | .error _ => some .neq

/-- Whether the leg's next action can run now. -/
def Forward.ready (cancelled : Bool) (c : Cluster) : Forward → Bool
  | .head => true
  | .lookup _ _ readyAt deadline => decide (readyAt ≤ c.now) || decide (deadline ≤ c.now)
  | .sending w => w.ready c
  | .pausing wakeAt => cancelled || decide (wakeAt ≤ c.now)
  | .done => false

/-- One action of the base-to-target leg. -/
def Forward.step (plan : Plan) (cancelled : Bool) (c : Cluster) :
    Forward × Progress → Forward × Progress × Cluster
  | (.head, p) =>
    if cancelled then (.done, p, c)
    else
      let q := Query.scan plan.table plan.config.sinceUtime p.after 1
      match c.lookupWithin plan.base q plan.config.lookupTimeoutMs with
      | (.refused _, c) =>
        let (r, p) := plan.config.absorb c.now p.lookupFailed
        (Forward.resume r, p, c)
      | (.heldUntil _, c) => (.head, p.lookupFailed, c)
      | (.rows [], c) => (Forward.resume (plan.config.idle c.now), p, c)
      | (.rows (row :: _), c) =>
        let p := { p with failures := 0, after := some row.id,
                          report := { p.report with baseScanned := p.report.baseScanned + 1 } }
        match recordOf row with
        | .error _ => (.head, p.lookupFailed, c)
        | .ok base =>
          match c.lookupWithin plan.target (.byId plan.table row.id)
              plan.config.lookupTimeoutMs with
          | (.refused _, c) => (.head, p.lookupFailed, c)
          | (.rows rs, c) => judge plan c p row.id base rs
          | (.heldUntil t, c) =>
            (.lookup row.id base t (c.now + plan.config.lookupTimeoutMs), p, c)
  | (.lookup id base readyAt deadline, p) =>
    match c.settleHeld plan.target (.byId plan.table id) readyAt deadline
        plan.config.lookupTimeoutMs with
    | .ok rs => judge plan c p id base rs
    | .error _ => (.head, p.lookupFailed, c)
  | (.sending w, p) =>
    let (p, c) := settleReport w c p
    (.head, p, c)
  | (.pausing _, p) => (if cancelled then .done else .head, p, c)
  | (.done, p) => (.done, p, c)

/-! ## Target to base -/

/-- Where the target-to-base leg stands. -/
inductive Backward where
  /-- At the top of the loop. -/
  | head
  /-- Reporting the ids the base lacks, then ending a batch of this many rows. -/
  | publish (missing : List Int64) (batch : Nat)
  /-- Waiting for room to report a missing id, with the rest still to report. -/
  | sending (w : Waiting) (missing : List Int64) (batch : Nat)
  /-- Pausing until an instant. -/
  | pausing (wakeAt : Nat)
  /-- Out of the loop. -/
  | done
  deriving Repr

/-- The state after a `Resume`. -/
def Backward.resume : Resume → Backward
  | .again => .head
  | .wait t => .pausing t
  | .stop => .done

/-- Whether the leg's next action can run now. -/
def Backward.ready (cancelled : Bool) (c : Cluster) : Backward → Bool
  | .head => true
  | .publish _ _ => true
  | .sending w _ _ => w.ready c
  | .pausing wakeAt => cancelled || decide (wakeAt ≤ c.now)
  | .done => false

/-- One action of the target-to-base leg. -/
def Backward.step (plan : Plan) (cancelled : Bool) (c : Cluster) :
    Backward × Progress → Backward × Progress × Cluster
  | (.head, p) =>
    if cancelled then (.done, p, c)
    else
      let q := Query.scan plan.table plan.config.sinceUtime p.after plan.config.batchSize
      match c.lookupWithin plan.target q plan.config.lookupTimeoutMs with
      | (.refused _, c) =>
        let (r, p) := plan.config.absorb c.now p.lookupFailed
        (Backward.resume r, p, c)
      | (.heldUntil _, c) => (.head, p.lookupFailed, c)
      | (.rows [], c) => (Backward.resume (plan.config.idle c.now), { p with failures := 0 }, c)
      | (.rows batch, c) =>
        let ids := batch.map (·.id)
        let p := { p with failures := 0, after := ids.getLast?,
                          report := { p.report with
                            targetScanned := p.report.targetScanned + batch.length } }
        match c.lookupWithin plan.base (.byIds plan.table ids) plan.config.lookupTimeoutMs with
        | (.rows found, c) =>
          let present := found.map (·.id)
          (.publish (ids.filter fun id => !present.contains id) batch.length, p, c)
        | (_, c) => (.publish [] batch.length, p.lookupFailed, c)
  | (.publish [] n, p) =>
    if n < plan.config.batchSize then (Backward.resume (plan.config.idle c.now), p, c)
    else (.head, p, c)
  | (.publish (id :: rest) n, p) =>
    match notify plan c p id .baseMissing with
    | (.waiting w, p, c) => (.sending w rest n, p, c)
    | (_, p, c) => (.publish rest n, p, c)
  | (.sending w rest n, p) =>
    let (p, c) := settleReport w c p
    (.publish rest n, p, c)
  | (.pausing _, p) => (if cancelled then .done else .head, p, c)
  | (.done, p) => (.done, p, c)

/-! ## The run -/

/-- Actions one leg may take in one poll before it yields. -/
def pollBudget : Nat := 1000000

/-- A run: both legs, how often it was polled, and its report once both legs are done. -/
structure ScanRun where
  plan : Plan
  forward : Forward := .head
  forwardProgress : Progress := {}
  backward : Backward := .head
  backwardProgress : Progress := {}
  polls : Nat := 0
  report : Option Report := none

namespace ScanRun

/-- A run that has not started. -/
def start (plan : Plan) : ScanRun := { plan := plan }

/-- Step the base-to-target leg while it is ready. -/
def runForward (plan : Plan) (cancelled : Bool) :
    Nat → Forward × Progress → Cluster → (Forward × Progress) × Cluster
  | 0, s, c => (s, c)
  | fuel + 1, s, c =>
    if s.1.ready cancelled c then
      let (f, p, c) := Forward.step plan cancelled c s
      runForward plan cancelled fuel (f, p) c
    else (s, c)

/-- Step the target-to-base leg while it is ready. -/
def runBackward (plan : Plan) (cancelled : Bool) :
    Nat → Backward × Progress → Cluster → (Backward × Progress) × Cluster
  | 0, s, c => (s, c)
  | fuel + 1, s, c =>
    if s.1.ready cancelled c then
      let (b, p, c) := Backward.step plan cancelled c s
      runBackward plan cancelled fuel (b, p) c
    else (s, c)

/-- Whether both legs are out of their loops. -/
def legsDone (r : ScanRun) : Bool :=
  match r.forward, r.backward with
  | .done, .done => true
  | _, _ => false

/-- Whether the run has something to do now. -/
def ready (cancelled : Bool) (c : Cluster) (r : ScanRun) : Bool :=
  r.report.isNone &&
    (r.polls == 0 || r.forward.ready cancelled c || r.backward.ready cancelled c)

/-- Poll the run once: each leg runs until it waits, the first leg alternating between
polls. When both legs are done the report is their sum, marked cancelled if the run was. -/
def poll (cancelled : Bool) (c : Cluster) (r : ScanRun) : ScanRun × Cluster :=
  let fwd (r : ScanRun) (c : Cluster) : ScanRun × Cluster :=
    let ((f, p), c) := runForward r.plan cancelled pollBudget (r.forward, r.forwardProgress) c
    ({ r with forward := f, forwardProgress := p }, c)
  let bwd (r : ScanRun) (c : Cluster) : ScanRun × Cluster :=
    let ((b, p), c) := runBackward r.plan cancelled pollBudget (r.backward, r.backwardProgress) c
    ({ r with backward := b, backwardProgress := p }, c)
  let (r, c) :=
    if r.polls % 2 == 0 then
      let (r, c) := fwd r c
      bwd r c
    else
      let (r, c) := bwd r c
      fwd r c
  let r := { r with polls := r.polls + 1 }
  if r.legsDone then
    ({ r with report := some { r.forwardProgress.report.merge r.backwardProgress.report with
                                cancelled := cancelled } }, c)
  else (r, c)

/-- The earliest instant a waiting leg's clock wakes it. -/
def wake (r : ScanRun) : Option Nat :=
  let f : Option Nat :=
    match r.forward with
    | .lookup _ _ readyAt deadline => some (min readyAt deadline)
    | .sending w => some w.deadline
    | .pausing t => some t
    | _ => none
  let b : Option Nat :=
    match r.backward with
    | .sending w _ _ => some w.deadline
    | .pausing t => some t
    | _ => none
  match f, b with
  | some x, some y => some (min x y)
  | some x, none => some x
  | none, y => y

end ScanRun

end TableMigration.Validation
