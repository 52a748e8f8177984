import TableMigration.Proofs.FullPass.Run
import TableMigration.World.Step

/-!
# Proofs.FullPass.Exact

A full validation run, started directly and awaited by its caller, is exact over stores that
do not change and paths that do not fail.

The run is the timeline's only task (`Timeline.solo`). Each round of the waiting loop either
polls the run, which brings it closer to its end, or moves the clock to a report's deadline,
after which the run can act again (`Timeline.awaitLoop_solo`). So twice the run's actions
left, plus one, bound the rounds it needs, and the direct run's wait has room for them over
tables of any size (`Plan.left_start_lt_pollBound`). Once both legs are done the run's report is `passReport`, and what the
bus was offered is exactly one report per drift (`World.validateDirect_full_exact`).
-/

namespace TableMigration

open TableMigration.Access TableMigration.Validation TableMigration.Store

namespace Timeline

/-- The timeline running one validation run as part of its caller, and nothing else. -/
def solo (tl : Timeline) (id : Nat) (r : ScanRun) (c : Cluster) : Timeline :=
  { tl with cluster := c, tasks := [⟨id, .scan r, true⟩] }

variable {tl : Timeline} {id : Nat} {r : ScanRun} {c : Cluster}

/-- The only task is picked exactly when it can act. -/
theorem pick_solo (hid : tl.isCancelled id = false) :
    (tl.solo id r c).pick = if r.ready false c then some id else none := by
  have hcan : (tl.solo id r c).canAct ⟨id, .scan r, true⟩ = r.ready false c := by
    simp only [canAct, solo, Task.ready]
    rw [show ({ tl with cluster := c, tasks := [⟨id, .scan r, true⟩] } : Timeline).isCancelled id =
      tl.isCancelled id from rfl, hid]
  simp only [pick, solo] at hcan ⊢
  by_cases hready : r.ready false c = true
  · simp [hcan, hready]
  · simp [hcan, hready]

/-- Polling the only task polls the run on the timeline's cluster. -/
theorem pollTask_solo (hid : tl.isCancelled id = false) :
    (tl.solo id r c).pollTask id = tl.solo id (r.poll false c).1 (r.poll false c).2 := by
  have hnot : decide (id ∈ tl.cancelled) = false := by
    simpa [isCancelled] using hid
  simp [pollTask, solo, Task.poll, isCancelled, hnot]

theorem finished_solo : (tl.solo id r c).finished id = r.report.isSome := by
  simp [finished, solo, task?, Task.finished]

theorem nextWake_solo : (tl.solo id r c).nextWake = r.wake := by
  simp only [nextWake, solo, List.foldl_cons, List.foldl_nil, Task.wake]
  cases r.wake <;> rfl

/-- The only task is found by its number. -/
theorem task?_solo : (tl.solo id r c).task? id = some (.scan r) := by
  simp [task?, solo]

/-- Waiting for the only task, a main one, runs the waiting loop unless it is already over. -/
theorem awaitWithin_solo (fuel : Nat) :
    (tl.solo id r c).awaitWithin id fuel =
      if r.report.isSome then tl.solo id r c else awaitLoop id true fuel (tl.solo id r c) := by
  unfold awaitWithin
  rw [finished_solo]
  simp [solo]

theorem setNow_solo (t : Nat) : (tl.solo id r c).setNow t = tl.solo id r { c with now := t } := rfl

section Await

variable {plan : Plan} {B T : Table} {b0 : Bus}
variable (hid : tl.isCancelled id = false) (hissued : b0.TicketsIssued) (hB : B.Sorted)
  (hT : T.Sorted) (hfull : plan.config.mode = .full) (hlimit : 0 < plan.config.lookupTimeoutMs)
  (hbatch : 0 < plan.config.batchSize)
include hid hissued hB hT hfull hlimit hbatch

/-- Waiting for a full pass run as part of the caller ends with both legs done, once the wait
has budget for two rounds for each action left. -/
theorem awaitLoop_solo (fuel : Nat) :
    ∀ {i j back sent r c}, RunAt plan B T b0 i j back sent r c →
      2 * r.left B T i j + (if r.ready false c then 0 else 1) < fuel →
      ∃ i' j' back' sent' r' c', awaitLoop id true fuel (tl.solo id r c) = tl.solo id r' c' ∧
        RunAt plan B T b0 i' j' back' sent' r' c' ∧ r'.legsDone = true := by
  induction fuel with
  | zero => intro _ _ _ _ _ _ _ h; omega
  | succ fuel ih =>
    intro i j back sent r c hr hfuel
    simp only [awaitLoop, pick_solo hid]
    by_cases hready : r.ready false c = true
    · -- the run is polled; the wait ends the moment its report is set
      simp only [hready, if_true, pollTask_solo hid, finished_solo, Bool.true_and, beq_self_eq_true]
        at hfuel ⊢
      rcases hpoll : r.poll false c with ⟨r1, c1⟩
      obtain ⟨i1, j1, back1, sent1, hr1, -, hlt⟩ :=
        hr.poll hissued hB hT hfull hlimit hbatch hready hpoll
      by_cases hdone : r1.legsDone = true
      · have hsome : r1.report.isSome = true := by
          rw [hr1.report, if_pos hdone]
          rfl
        rw [if_pos hsome]
        exact ⟨i1, j1, back1, sent1, r1, c1, rfl, hr1, hdone⟩
      · have hnone : r1.report = none := by
          rw [hr1.report, if_neg hdone]
        rw [hnone, Option.isSome_none, if_neg Bool.false_ne_true]
        refine ih hr1 ?_
        dsimp only
        split <;> omega
    · -- the run waits: either it is over, or the clock moves to a report's deadline
      simp only [hready, Bool.false_eq_true, if_false, finished_solo, nextWake_solo] at hfuel ⊢
      by_cases hsome : r.report.isSome = true
      · rw [if_pos hsome]
        have hdone : r.legsDone = true := by
          have hrep := hr.report
          by_contra h
          rw [if_neg h] at hrep
          rw [hrep] at hsome
          exact absurd hsome (by simp)
        exact ⟨i, j, back, sent, r, c, rfl, hr, hdone⟩
      · have hnone : r.report = none := by simpa using hsome
        obtain ⟨w, hwake, hready'⟩ := hr.wake hnone (by simpa using hready)
        have hnow : (tl.solo id r c).cluster.now = c.now := rfl
        rw [if_neg hsome, hwake]
        dsimp only
        rw [setNow_solo, hnow]
        refine ih (hr.setNow _) ?_
        rw [if_pos hready']
        omega

end Await

end Timeline

/-- The rounds a full pass over clear paths needs fit in the wait of a direct run: a read
leaves the base-to-target leg two actions, and the target-to-base leg four, for each row. -/
theorem Validation.Plan.left_start_lt_pollBound (plan : Plan) (hbatch : 0 < plan.config.batchSize)
    (B T : Table) :
    2 * (ScanRun.start plan).left B T 0 0 + 1 < 2 * plan.pollBound B.length T.length + 2 := by
  have hB : B.length + 1 ≤ (B.length + 1) * (plan.config.maxConsecutiveFailures + 1) :=
    Nat.le_mul_of_pos_right _ (Nat.succ_pos _)
  have hT : T.length + 1 ≤ (T.length + 1) * (plan.config.maxConsecutiveFailures + 1) :=
    Nat.le_mul_of_pos_right _ (Nat.succ_pos _)
  have hbatchT : 4 * ((T.length + 1) * (plan.config.maxConsecutiveFailures + 1)) ≤
      (2 * plan.config.batchSize + 2) * ((T.length + 1) * (plan.config.maxConsecutiveFailures + 1)) :=
    Nat.mul_le_mul_right _ (by omega)
  simp only [ScanRun.left, ScanRun.start, Forward.left, Backward.left, Plan.pollBound,
    Nat.sub_zero]
  omega

namespace World

/-- A full validation run started directly reads what `Reads` gives it: sorted tables `B` and
`T` of the run's table through clear paths. It ends with both legs done, having offered exactly
one report per drift. -/
theorem validateDirect_full_pass (w : World) (d : DirectRun) {B T : Table} (hfull : d.tail = none)
    (hnocancel : d.cancelFirst = false) (hsolo : w.tl.tasks = [])
    (hfresh : w.tl.isCancelled w.tl.nextId = false)
    (hreads : Reads (w.plan d.base (w.directConfig d)) B T w.cluster) (hB : B.Sorted) (hT : T.Sorted)
    (hbatch : 0 < (w.directConfig d).batchSize) (hlimit : 0 < (w.directConfig d).lookupTimeoutMs)
    (hissued : w.cluster.bus.TicketsIssued) :
    let plan := w.plan d.base (w.directConfig d)
    ∃ sent : List Message,
      (w.validateDirect d).1 = passReport d.base B T (sent.length - w.cluster.bus.room) ∧
      (w.validateDirect d).2.2.cluster.bus.queue = w.cluster.bus.queue ++ sent.take w.cluster.bus.room ∧
      sent.Perm ((forwardDrifts d.base B T).map plan.post ++ (backwardDrifts d.base T B).map plan.post) ∧
      ((forwardDrifts d.base B T).map plan.post).Sublist sent ∧
      ((backwardDrifts d.base T B).map plan.post).Sublist sent := by
  intro plan
  have hmode : plan.config.mode = .full := by
    simp [plan, World.plan, directConfig, hfull, Config.full]
  -- the run is the only task, polled on the world's cluster
  set tl := ({ w.tl with nextId := w.tl.nextId + 1 } : Timeline) with htl
  have hid : tl.isCancelled w.tl.nextId = false := hfresh
  have hreads' : Reads plan B T w.cluster := hreads
  have hstart := RunAt.start hreads'
  -- the wait has room for every round the run needs
  have hfuel : 2 * (ScanRun.start plan).left B T 0 0 +
      (if (ScanRun.start plan).ready false w.cluster then 0 else 1) <
        waitBudget + 2 * plan.pollBound B.length T.length + 2 := by
    have hroom := plan.left_start_lt_pollBound hbatch B T
    split <;> omega
  obtain ⟨i, j, back, sent, r, c, hloop, hr, hdone⟩ :=
    Timeline.awaitLoop_solo hid hissued hB hT hmode hlimit hbatch
      (waitBudget + 2 * (w.plan d.base (w.directConfig d)).pollBound B.length T.length + 2) hstart hfuel
  have hBrows : ((w.cluster.node d.base).contents.table (w.plan d.base (w.directConfig d)).table) = B :=
    hreads.baseRows
  have hTrows :
      ((w.cluster.node d.base.opposite).contents.table (w.plan d.base (w.directConfig d)).table) = T :=
    hreads.targetRows
  have hspawn : w.tl.spawn (.scan (ScanRun.start (w.plan d.base (w.directConfig d)))) true =
      (w.tl.nextId, tl.solo w.tl.nextId (ScanRun.start plan) w.cluster) := by
    simp only [Timeline.spawn, hsolo, List.nil_append]
    rfl
  have hstartReport : (ScanRun.start plan).report.isSome = false := rfl
  simp only [validateDirect, hspawn, hnocancel, hfull, Bool.false_eq_true, if_false, hBrows, hTrows,
    Timeline.awaitWithin_solo, hstartReport, hloop, Timeline.task?_solo]
  -- the run ends with both legs done: every row read, every report offered
  obtain ⟨-, -, hi, -, hback⟩ := hr.done hdone
  have hreport : r.report = some (passReport plan.base B T (sent.length - w.cluster.bus.room)) := by
    rw [hr.report, if_pos hdone]
  have hperm := hr.perm
  have hfsub := hr.forwardSub
  rw [hi, List.take_length, hback] at hperm
  rw [hi, List.take_length] at hfsub
  exact ⟨sent, by rw [hreport]; rfl, hr.bus.queue, hperm, hfsub, hback ▸ hr.backwardSub⟩

/-- A full validation run started directly, over a store no other task touches and with clear
paths to both sides, reads every row of both tables and offers exactly one report per drift:
those of the base rows in base order, those of the target rows in target order, the two
interleaved. The bus takes the reports it has room for, in the order they were offered, and
the run's report counts every row, every drift by kind, every unreadable base row and every
report that did not go out. -/
theorem validateDirect_full_exact (w : World) (d : DirectRun) (hfull : d.tail = none)
    (hnocancel : d.cancelFirst = false) (hsolo : w.tl.tasks = [])
    (hfresh : w.tl.isCancelled w.tl.nextId = false) (hclear : ∀ s, (w.cluster.node s).Clear)
    (hordered : ∀ s, (w.cluster.node s).contents.Ordered)
    (hbatch : 0 < (w.directConfig d).batchSize) (hlimit : 0 < (w.directConfig d).lookupTimeoutMs)
    (hissued : w.cluster.bus.TicketsIssued) :
    let plan := w.plan d.base (w.directConfig d)
    let B := (w.cluster.node d.base).contents.table plan.table
    let T := (w.cluster.node d.base.opposite).contents.table plan.table
    ∃ sent : List Message,
      (w.validateDirect d).1 = passReport d.base B T (sent.length - w.cluster.bus.room) ∧
      (w.validateDirect d).2.2.cluster.bus.queue = w.cluster.bus.queue ++ sent.take w.cluster.bus.room ∧
      sent.Perm ((forwardDrifts d.base B T).map plan.post ++ (backwardDrifts d.base T B).map plan.post) ∧
      ((forwardDrifts d.base B T).map plan.post).Sublist sent ∧
      ((backwardDrifts d.base T B).map plan.post).Sublist sent ∧
      (forwardDrifts d.base B T).Pairwise (·.id < ·.id) ∧
      (backwardDrifts d.base T B).Pairwise (·.id < ·.id) := by
  intro plan B T
  have hB : B.Sorted := hordered _ _
  have hT : T.Sorted := hordered _ _
  have hreads : Reads plan B T w.cluster := ⟨hclear _, hclear _, rfl, rfl⟩
  obtain ⟨sent, hreport, hqueue, hperm, hfsub, hbsub⟩ :=
    validateDirect_full_pass w d hfull hnocancel hsolo hfresh hreads hB hT hbatch hlimit hissued
  exact ⟨sent, hreport, hqueue, hperm, hfsub, hbsub, forwardDrifts_sorted _ hB _,
    backwardDrifts_sorted _ hT _⟩

/-- The source holds records 1 and 2 and the destination a changed record 2 and a record 3,
with room for one message on the bus: the pass finds two drifts going forward and one going
back, and meets every condition of the exact full pass. -/
theorem validateDirect_full_exact_drifted :
    let src : Contents := Contents.empty.applyAll
      [.upsert "records" (rowOf (.new 1 5)), .upsert "records" (rowOf ⟨2, 5, [("a", .bool true)]⟩)]
    let dst : Contents := Contents.empty.applyAll
      [.upsert "records" (rowOf ⟨2, 7, [("a", .null)]⟩), .upsert "records" (rowOf (.new 3 5))]
    let w := (World.create { busBuffer := 1 } 0).setCluster
      { src := { side := .src, contents := src }, dst := { side := .dst, contents := dst },
        bus := Bus.empty 1 }
    let d : DirectRun := { base := .src }
    let plan := w.plan d.base (w.directConfig d)
    let B := (w.cluster.node d.base).contents.table plan.table
    let T := (w.cluster.node d.base.opposite).contents.table plan.table
    (forwardDrifts d.base B T).length = 2 ∧ (backwardDrifts d.base T B).length = 1 ∧
    ∃ sent : List Message,
      (w.validateDirect d).1 = passReport d.base B T (sent.length - w.cluster.bus.room) ∧
      (w.validateDirect d).2.2.cluster.bus.queue = w.cluster.bus.queue ++ sent.take w.cluster.bus.room ∧
      sent.Perm ((forwardDrifts d.base B T).map plan.post ++ (backwardDrifts d.base T B).map plan.post) ∧
      ((forwardDrifts d.base B T).map plan.post).Sublist sent ∧
      ((backwardDrifts d.base T B).map plan.post).Sublist sent ∧
      (forwardDrifts d.base B T).Pairwise (·.id < ·.id) ∧
      (backwardDrifts d.base T B).Pairwise (·.id < ·.id) := by
  intro src dst w d plan B T
  refine ⟨by decide +kernel, by decide +kernel, ?_⟩
  exact validateDirect_full_exact w d rfl rfl rfl rfl
    (fun s => by cases s <;> exact ⟨rfl, rfl, rfl, rfl⟩)
    (fun s => by cases s <;> exact Contents.ordered_applyAll Contents.ordered_empty _)
    (by decide) (by decide) (fun _ h => by simp [w, World.setCluster, World.cluster, Bus.empty] at h)

end World

end TableMigration
