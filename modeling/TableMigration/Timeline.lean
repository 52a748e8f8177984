import TableMigration.Validation.Scan
import TableMigration.Validation.Single
import TableMigration.Repair

/-!
# Timeline

The activities of the system on one virtual clock, run one at a time.

Every activity is a task: a validation run, a job of single-id checks, a repair job, or an
alarm that cancels another task at an instant. A task is `ready` when it can act at the
current instant; polling it lets it act until it waits again. Time only moves when no task
is ready: the clock then jumps to the earliest instant a waiting task's clock wakes it.

The caller of the timeline (the driver of the system) acts in between. When it waits for an
instant, tasks run up to it, and the caller goes first among everything due at that
instant. When it waits for a task, tasks run until that task is finished; a task the caller
runs as part of itself (`main`) is polled first whenever it is ready, and the caller goes on
the moment it finishes, while for any other task the caller goes on once nothing else is
ready at that instant.

Each task carries a cancellation flag, kept by the timeline.
-/

namespace TableMigration

open TableMigration.Access TableMigration.Validation

/-- An activity. -/
inductive Task where
  /-- A validation run. -/
  | scan (r : ScanRun)
  /-- Single-id checks. -/
  | check (j : CheckJob)
  /-- Repairs. -/
  | repair (j : RepairJob)
  /-- Cancels the task `victim` at `fireAt`; `rung` once it has. -/
  | alarm (fireAt : Nat) (victim : Nat) (rung : Bool)

namespace Task

/-- Whether the task can act now. -/
def ready (cancelled : Bool) (c : Cluster) : Task → Bool
  | .scan r => r.ready cancelled c
  | .check j => j.ready c
  | .repair j => j.ready c
  | .alarm t _ rung => !rung && decide (t ≤ c.now)

/-- Whether the task is over. -/
def finished : Task → Bool
  | .scan r => r.report.isSome
  | .check j => j.finished
  | .repair j => j.finished
  | .alarm _ _ rung => rung

/-- The earliest instant the task's clock wakes it. -/
def wake : Task → Option Nat
  | .scan r => r.wake
  | .check j => j.wake
  | .repair j => j.wake
  | .alarm t _ rung => if rung then none else some t

/-- Poll the task once, giving it, the cluster after it, and the task it cancels, if any. -/
def poll (cancelled : Bool) (c : Cluster) : Task → Task × Cluster × Option Nat
  | .scan r =>
    let (r, c) := r.poll cancelled c
    (.scan r, c, none)
  | .check j =>
    let (j, c) := CheckJob.run cancelled j.pending j c
    (.check j, c, none)
  | .repair j =>
    let (j, c) := RepairJob.run j.pending j c
    (.repair j, c, none)
  | .alarm t v _ => (.alarm t v true, c, some v)

end Task

/-- A task with its number, and whether the caller runs it as part of itself. -/
structure Entry where
  id : Nat
  task : Task
  main : Bool

/-- The cluster, the tasks in the order they were started, and the cancelled tasks. -/
structure Timeline where
  cluster : Cluster
  tasks : List Entry := []
  nextId : Nat := 0
  cancelled : List Nat := []

/-- Steps any waiting loop of the timeline takes at most. -/
def waitBudget : Nat := 100000000

namespace Timeline

/-- Whether a task was cancelled. -/
def isCancelled (tl : Timeline) (id : Nat) : Bool := tl.cancelled.contains id

/-- Cancel a task. -/
def cancel (tl : Timeline) (id : Nat) : Timeline :=
  if tl.isCancelled id then tl else { tl with cancelled := id :: tl.cancelled }

/-- Start a task, giving its number. -/
def spawn (tl : Timeline) (t : Task) (main : Bool) : Nat × Timeline :=
  (tl.nextId, { tl with tasks := tl.tasks ++ [⟨tl.nextId, t, main⟩], nextId := tl.nextId + 1 })

/-- A task by number. -/
def task? (tl : Timeline) (id : Nat) : Option Task := (tl.tasks.find? (·.id == id)).map (·.task)

/-- Whether a task is over (a task no longer held counts as over). -/
def finished (tl : Timeline) (id : Nat) : Bool := ((tl.task? id).map Task.finished).getD true

/-- Forget a task. -/
def remove (tl : Timeline) (id : Nat) : Timeline :=
  { tl with tasks := tl.tasks.filter (·.id != id) }

/-- Set the clock. -/
def setNow (tl : Timeline) (t : Nat) : Timeline := { tl with cluster := { tl.cluster with now := t } }

/-- Whether a task can act now. -/
def canAct (tl : Timeline) (e : Entry) : Bool := e.task.ready (tl.isCancelled e.id) tl.cluster

/-- The task to poll next: a main task first, then the first ready task in start order. -/
def pick (tl : Timeline) : Option Nat :=
  match tl.tasks.find? fun e => e.main && tl.canAct e with
  | some e => some e.id
  | none => (tl.tasks.find? tl.canAct).map (·.id)

/-- Poll one task. -/
def pollTask (tl : Timeline) (id : Nat) : Timeline :=
  match tl.tasks.find? (·.id == id) with
  | none => tl
  | some e =>
    let (t, c, victim) := e.task.poll (tl.isCancelled id) tl.cluster
    let tl := { tl with
      cluster := c
      tasks := tl.tasks.map fun x => if x.id == id then { x with task := t } else x }
    match victim with
    | some v => tl.cancel v
    | none => tl

/-- The earliest instant a waiting task's clock wakes it. -/
def nextWake (tl : Timeline) : Option Nat :=
  tl.tasks.foldl (fun acc e =>
    match e.task.wake, acc with
    | some w, some a => some (min w a)
    | some w, none => some w
    | none, a => a) none

/-- Run every task that can act now until none can, at most `fuel` polls. -/
def settle : Nat → Timeline → Timeline
  | 0, tl => tl
  | fuel + 1, tl =>
    match tl.pick with
    | none => tl
    | some id => settle fuel (tl.pollTask id)

/-- Let the caller wait until instant `t`: tasks due before it run; those due at it run
after the caller goes on. -/
def sleepUntil (t : Nat) : Nat → Timeline → Timeline
  | 0, tl => tl
  | fuel + 1, tl =>
    if t ≤ tl.cluster.now then tl
    else
      match tl.pick with
      | some id => sleepUntil t fuel (tl.pollTask id)
      | none =>
        match tl.nextWake with
        | some w => if w < t then sleepUntil t fuel (tl.setNow w) else tl.setNow t
        | none => tl.setNow t

/-- Wait for instant `t`. -/
def sleep (tl : Timeline) (t : Nat) : Timeline := sleepUntil t waitBudget tl

/-- Run tasks until task `id` is over: the moment it is over when it is a main task,
otherwise once nothing else can act at that instant. -/
def awaitLoop (id : Nat) (main : Bool) : Nat → Timeline → Timeline
  | 0, tl => tl
  | fuel + 1, tl =>
    match tl.pick with
    | some j =>
      let tl := tl.pollTask j
      if main && j == id && tl.finished id then tl else awaitLoop id main fuel tl
    | none =>
      if tl.finished id then tl
      else
        match tl.nextWake with
        | some w => awaitLoop id main fuel (tl.setNow (max w tl.cluster.now))
        | none => tl

/-- Wait for task `id`, taking at most `fuel` steps; nothing runs when it is already over. -/
def awaitWithin (tl : Timeline) (id : Nat) (fuel : Nat) : Timeline :=
  if tl.finished id then tl
  else
    let main := ((tl.tasks.find? (·.id == id)).map (·.main)).getD false
    awaitLoop id main fuel tl

/-- Wait for task `id`. -/
def await (tl : Timeline) (id : Nat) : Timeline := tl.awaitWithin id waitBudget

/-- Start a task and wait for it. -/
def perform (tl : Timeline) (t : Task) (main : Bool) : Nat × Timeline :=
  let (id, tl) := tl.spawn t main
  (id, tl.await id)

end Timeline

end TableMigration
