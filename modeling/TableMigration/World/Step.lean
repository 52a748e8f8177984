import TableMigration.World.Connection
import TableMigration.World.Http

/-!
# World.Step

What a caller can do to a running system, one step at a time, and what each step answers.

Steps reach the stores through connections, inject faults, drive the scheduler, run
validations, single-id checks and repairs directly, move messages off the bus, wait on the
clock, and call the control surface. A step that waits lets every started task run on the
clock meanwhile.

Messages taken off the bus are kept until repaired. They are answered, and repaired, in the
order of their drifts (id, kind name, direction), then of their bytes.
-/

namespace TableMigration

open TableMigration.Access TableMigration.Validation TableMigration.Store

/-- A validation run a caller starts directly, with settings overriding the system's. -/
structure DirectRun where
  base : Side
  batchSize : Option Nat := none
  maxConsecutiveFailures : Option Nat := none
  lookupTimeoutMs : Option Nat := none
  notifyTimeoutMs : Option Nat := none
  /-- Cancel the run before it starts. -/
  cancelFirst : Bool := false
  /-- Tail from a watermark (`since`) with a pause (`intervalMs`), cancelled after `runMs`;
  none for a full run. -/
  tail : Option (Int64 × Nat × Nat) := none
  deriving Repr

/-- One step. -/
inductive Step where
  | exec (link : Link) (stmt : Statement)
  | query (link : Link) (q : Query)
  | queryRow (link : Link) (q : Query)
  | begin (link : Link)
  | prepare (link : Link) (stmt : Statement)
  | txExec (tx : Option Nat) (stmt : Statement)
  | txQuery (tx : Option Nat) (q : Query)
  | txQueryRow (tx : Option Nat) (q : Query)
  | commit (tx : Option Nat)
  | rollback (tx : Option Nat)
  | preparedExec (n : Nat)
  | dump (side : Side) (table : String)
  | count (side : Side) (table : String)
  | get (side : Side) (table : String) (id : Int64)
  | scanAfter (side : Side) (table : String) (after : Option Int64)
  | fault (side : Side) (change : FaultChange)
  | counters (side : Side)
  | pattern
  | setPattern (name : String)
  | ownPattern
  | ownSetPattern (name : String)
  | status
  | full (wait : Bool)
  | fullStop
  | incrStart (utime : Int64) (intervalMs : Nat)
  | incrStop
  | shutdown
  | table
  | topic
  | sleep (ms : Nat)
  | validate (run : DirectRun) (describe : Bool)
  | drain
  | closeBus
  | fix (m : Message)
  | fixPayload (base : Side) (bytes : List UInt8)
  | fixPending
  | fixRun (extra : List Message)
  | check (base : Side) (id : Int64)
  | classifyId (base : Side) (id : Int64)
  | signals (base : Side) (ids : List Int64) (cancelFirst : Bool)
  | http (req : HttpRequest) (settle : Bool)

/-- What a step answers. -/
inductive Reply where
  | ok
  | affected (n : Nat)
  | rows (rs : List Row)
  | row (r : Row)
  | found (r : Option Row)
  | count (n : Nat)
  | opened (tx : Nat)
  | prepared (n : Nat)
  | previous (p : Pattern)
  | pattern (p : Pattern)
  | text (s : String)
  | counters (f : Faults)
  | status (s : Status)
  | started (d : Side)
  | finished (d : Side) (r : Report)
  | summary (r : Option Report)
  | report (r : Report) (described : Option (Side × Config))
  | drifts (ds : List Drift)
  | repairs (rs : List (Drift × Except FixError (Option FixOutcome)))
  | repaired (o : Option FixOutcome)
  | repairedIn (o : FixOutcome) (table : String)
  | consumed (n : Nat)
  | checked (d : Option Drift)
  | classified (k : Option DriftKind)
  | sent (n : Nat)
  | response (r : HttpResponse)

/-- Why a step failed. -/
inductive StepError where
  /-- A store, routing or validation call failed. -/
  | store (f : Failure)
  /-- A pattern could not be read or switched. -/
  | pattern (e : PatternError)
  /-- A repair failed. -/
  | repair (e : FixError)
  /-- The step names something that is not there. -/
  | misuse (text : String)

/-! ## Ordering drifts -/

/-- Whether drift `a` comes before drift `b`: by id, then kind name, then direction. -/
def Drift.before (a b : Drift) : Bool :=
  if a.id.toInt != b.id.toInt then a.id.toInt < b.id.toInt
  else if a.kind.name != b.kind.name then a.kind.name < b.kind.name
  else a.side.name < b.side.name

/-- Drifts in order. -/
def sortDrifts (ds : List Drift) : List Drift := ds.mergeSort fun a b => !Drift.before b a

/-- Whether byte list `a` comes before `b`. -/
def bytesBefore : List UInt8 → List UInt8 → Bool
  | [], [] => false
  | [], _ :: _ => true
  | _ :: _, [] => false
  | x :: xs, y :: ys => if x == y then bytesBefore xs ys else x < y

/-- Whether message `a` is repaired before `b`: by drift, then by bytes; a message that is
no drift comes last. -/
def Message.before (a b : Message) : Bool :=
  match Drift.decode a.payload, Drift.decode b.payload with
  | .ok x, .ok y =>
    if Drift.before x y then true
    else if Drift.before y x then false
    else bytesBefore a.payload b.payload
  | .ok _, .error _ => true
  | .error _, .ok _ => false
  | .error _, .error _ => bytesBefore a.payload b.payload

/-- Messages in repair order. -/
def sortMessages (ms : List Message) : List Message :=
  ms.mergeSort fun a b => !Message.before b a

/-- The drifts of messages, in order; messages that are no drift are left out. -/
def driftsOf (ms : List Message) : List Drift :=
  sortDrifts (ms.filterMap fun m => (Drift.decode m.payload).toOption)

namespace World

/-- Lift a failure. -/
def storeResult (r : Except Failure α) (f : α → Reply) : Except StepError Reply :=
  match r with
  | .ok a => .ok (f a)
  | .error e => .error (.store e)

/-- Lift a misuse. -/
def misuse (m : Misuse) : Except StepError Reply := .error (.misuse m.message)

/-- The settings of a direct run. -/
def directConfig (w : World) (d : DirectRun) : Config :=
  let c := w.settings.validator
  let c := match d.batchSize with | some n => c.withBatchSize n | none => c
  let c := match d.maxConsecutiveFailures with
    | some n => c.withMaxConsecutiveFailures n
    | none => c
  let c := match d.lookupTimeoutMs with | some n => c.withLookupTimeout n | none => c
  let c := match d.notifyTimeoutMs with | some n => c.withNotifyTimeout n | none => c
  match d.tail with
  | some (since, intervalMs, _) => c.incremental since intervalMs
  | none => c.full

/-- Run a validation directly and wait for its report. The wait has room for a full pass over
the tables as they are at the start, each poll of it followed by at most one move of the clock,
on top of the general budget. -/
def validateDirect (w : World) (d : DirectRun) : Report × Config × World :=
  let config := w.directConfig d
  let plan := w.plan d.base config
  let rows (s : Side) := ((w.cluster.node s).contents.table plan.table).length
  let fuel := waitBudget + 2 * plan.pollBound (rows d.base) (rows d.base.opposite) + 2
  let (id, tl) := w.tl.spawn (.scan (ScanRun.start plan)) true
  let tl := if d.cancelFirst then tl.cancel id else tl
  let (alarm, tl) :=
    match d.tail with
    | some (_, _, runMs) =>
      let (a, tl) := tl.spawn (.alarm (tl.cluster.now + runMs) id false) false
      (some a, tl)
    | none => (none, tl)
  let tl := tl.awaitWithin id fuel
  let report :=
    match tl.task? id with
    | some (.scan r) => r.report.getD {}
    | _ => {}
  let tl := tl.remove id
  let tl := match alarm with | some a => tl.remove a | none => tl
  (report, config, { w with tl := tl })

/-- Run single-id checks from `base` as part of the caller. -/
def checkIds (w : World) (base : Side) (ids : List Int64) (publishes : Bool) :
    List (Except Failure (Option DriftKind)) × World :=
  match w.perform (.check { probe := w.probe base, publishes := publishes, queue := ids }) with
  | (some (.check j), w) => (j.answers, w)
  | (_, w) => ([], w)

/-- Repair work items as part of the caller. -/
def repairAll (w : World) (work : List Work) : List (Except FixError (Option FixOutcome)) × World :=
  match w.perform (.repair { table := w.settings.table, topic := w.settings.topic, queue := work }) with
  | (some (.repair j), w) => (j.answers, w)
  | (_, w) => ([], w)

/-- The single answer of a one-item job. -/
def firstAnswer (answers : List (Except ε (Option α))) : Except ε (Option α) :=
  answers.headD (.ok none)

/-- Perform one step. -/
def step (w : World) : Step → Except StepError Reply × World
  | .exec link stmt =>
    let (r, w) := w.exec link stmt
    (storeResult r .affected, w)
  | .query link q =>
    let (r, w) := w.query link q
    (storeResult r .rows, w)
  | .queryRow link q =>
    let (r, w) := w.query link q
    (storeResult (firstRow r) .row, w)
  | .begin link =>
    let (r, w) := w.begin link
    (storeResult r .opened, w)
  | .prepare link stmt =>
    let (r, w) := w.prepare link stmt
    (storeResult r .prepared, w)
  | .txExec tx stmt =>
    match w.txExec (w.txNumber tx) stmt with
    | .error m => (misuse m, w)
    | .ok (r, w) => (storeResult r .affected, w)
  | .txQuery tx q =>
    match w.txQuery (w.txNumber tx) q with
    | .error m => (misuse m, w)
    | .ok rs => (.ok (.rows rs), w)
  | .txQueryRow tx q =>
    match w.txQuery (w.txNumber tx) q with
    | .error m => (misuse m, w)
    | .ok rs => (storeResult (firstRow (.ok rs)) .row, w)
  | .commit tx =>
    match w.commit (w.txNumber tx) with
    | .error m => (misuse m, w)
    | .ok (r, w) => (storeResult r fun () => .ok, w)
  | .rollback tx =>
    match w.rollback (w.txNumber tx) with
    | .error m => (misuse m, w)
    | .ok w => (.ok .ok, w)
  | .preparedExec n =>
    match w.preparedExec n with
    | .error m => (misuse m, w)
    | .ok (k, w) => (.ok (.affected k), w)
  | .dump s t => (.ok (.rows ((w.cluster.node s).contents.table t)), w)
  | .count s t => (.ok (.count ((w.cluster.node s).contents.count t)), w)
  | .get s t id => (.ok (.found ((w.cluster.node s).contents.get? t id)), w)
  | .scanAfter s t after =>
    (.ok (.rows (Table.after after ((w.cluster.node s).contents.table t))), w)
  | .fault s ch => (.ok .ok, w.fault s ch)
  | .counters s => (.ok (.counters (w.cluster.node s).faults), w)
  | .pattern => (.ok (.pattern w.cell.current), w)
  | .setPattern name =>
    match Pattern.parse name with
    | .error e => (.error (.pattern e), w)
    | .ok p =>
      match w.cell.store p with
      | .error e => (.error (.pattern e), w)
      | .ok (prev, cell) => (.ok (.previous prev), { w with cell := cell })
  | .ownPattern => (.ok (.pattern w.own.current), w)
  | .ownSetPattern name =>
    match Pattern.parse name with
    | .error e => (.error (.pattern e), w)
    | .ok p =>
      match w.own.store p with
      | .error e => (.error (.pattern e), w)
      | .ok (prev, cell) => (.ok (.previous prev), { w with own := cell })
  | .status => (.ok (.status w.status), w)
  | .full wait =>
    let (d, w) := w.startFull
    if wait then
      let (r, w) := w.awaitFull.stopFull
      (.ok (.finished d (r.getD {})), w)
    else (.ok (.started d), w)
  | .fullStop =>
    let (r, w) := w.stopFull
    (.ok (.summary r), w)
  | .incrStart utime ms =>
    let (d, w) := w.startIncremental utime ms
    (.ok (.started d), w)
  | .incrStop =>
    let (r, w) := w.stopIncremental
    (.ok (.summary r), w)
  | .shutdown => (.ok .ok, w.shutdown)
  | .table => (.ok (.text w.settings.table), w)
  | .topic => (.ok (.text w.settings.topic), w)
  | .sleep ms => (.ok .ok, w.sleepUntil (w.cluster.now + ms))
  | .validate d describe =>
    let (r, config, w) := w.validateDirect d
    (.ok (.report r (if describe then some (d.base, config) else none)), w)
  | .drain =>
    if w.cluster.bus.closed then (.error (.misuse "bus receiver closed"), w)
    else
      let (ms, b) := w.cluster.bus.drain
      let w := w.setCluster { w.cluster with bus := b }
      (.ok (.drifts (driftsOf ms)), { w with pending := w.pending ++ ms })
  | .closeBus => (.ok .ok, w.setCluster { w.cluster with bus := w.cluster.bus.close })
  | .fix m =>
    let (answers, w) := w.repairAll [.message m]
    match firstAnswer answers with
    | .ok o => (.ok (.repaired o), w)
    | .error e => (.error (.repair e), w)
  | .fixPayload base bytes =>
    let (answers, w) := w.repairAll [.payload base bytes]
    match firstAnswer answers with
    | .ok (some o) => (.ok (.repairedIn o w.settings.table), w)
    | .ok none => (.ok (.repaired none), w)
    | .error e => (.error (.repair e), w)
  | .fixPending =>
    let ms := sortMessages w.pending
    let (answers, w) := { w with pending := [] }.repairAll (ms.map .message)
    let pairs := (ms.zip answers).filterMap fun (m, a) =>
      (Drift.decode m.payload).toOption.map fun d => (d, a)
    (.ok (.repairs pairs), w)
  | .fixRun extra =>
    let ms := sortMessages w.pending ++ extra
    let job : RepairJob :=
      { table := w.settings.table, topic := w.settings.topic, queue := ms.map .message }
    let (_, tl) := w.tl.perform (.repair job) false
    (.ok (.consumed ms.length), { w with tl := tl, pending := [] })
  | .check base id =>
    let (answers, w) := w.checkIds base [id] true
    match firstAnswer answers with
    | .ok k => (.ok (.checked (k.map fun k => ⟨id, base, k⟩)), w)
    | .error f => (.error (.store f), w)
  | .classifyId base id =>
    let (answers, w) := w.checkIds base [id] false
    match firstAnswer answers with
    | .ok k => (.ok (.classified k), w)
    | .error f => (.error (.store f), w)
  | .signals base ids cancelFirst =>
    let job : CheckJob := { probe := w.probe base, publishes := true, queue := ids }
    let (id, tl) := w.tl.spawn (.check job) false
    let tl := if cancelFirst then tl.cancel id else tl
    let tl := (tl.await id).remove id
    (.ok (.sent ids.length), { w with tl := tl })
  | .http req settle =>
    match req.problem? with
    | some problem => (.error (.misuse problem), w)
    | none =>
      let (r, w) := w.serve req
      (.ok (.response r), if settle then w.awaitFull else w)

/-- Perform steps in order, giving each step's answer. -/
def steps (w : World) : List Step → List (Except StepError Reply) × World
  | [] => ([], w)
  | s :: rest =>
    let (a, w) := w.step s
    let (as, w) := World.steps w rest
    (a :: as, w)

end World

end TableMigration
