import TableMigration.Proofs.FullPass.Spec

/-!
# Proofs.FullPass.Backward

The target-to-base leg of a full pass over tables that do not change, one action at a time.

The leg reads the target in batches, looks each batch's ids up on the base at once, and then
reports the ids the base lacks one by one. `BackwardAt` says where it stands after reading the
first `j` target rows: its cursor is the id of the last of them, it has offered the reports
`back`, and the ids of the current batch it has still to report complete them to the drifts
of the rows read. `BackwardAt.step` puts the actions of the `BackwardAt.step_*` family
together: every action keeps the leg standing somewhere and brings it closer to its end.
-/

namespace TableMigration.Validation

open TableMigration.Access TableMigration.Store

variable {plan : Plan} {B T : Table} {b0 : Bus} {sent back : List Message} {c : Cluster}
  {p : Progress}

/-! ## Reading the target in batches -/


/-- The rows a keyset scan of the target reads, by cursor position. -/
theorem target_scan_rows (h : Reads plan B T c) (hT : T.Sorted) (j k : Nat) :
    (c.node plan.target).read (.scan plan.table none (T.cursor j) k) = (T.drop j).take k := by
  simp [Node.read, Contents.select, h.targetRows, page_none, Table.after_cursor hT]

/-- The ids of a batch that a batch lookup on the base does not find are those of its rows
whose id the base lacks. -/
theorem missing_ids (h : Reads plan B T c) (batch : List Row) :
    (batch.map (·.id)).filter (fun id =>
        !(((c.node plan.base).read (.byIds plan.table (batch.map (·.id)))).map (·.id)).contains id) =
      (batch.filter fun r => (Table.find? r.id B).isNone).map (·.id) := by
  rw [List.filter_map]
  congr 1
  apply List.filter_congr
  intro r hr
  have hmem : r.id ∈ batch.map (·.id) := List.mem_map_of_mem hr
  -- the lookup finds an asked id exactly when the base holds it
  have hfound : (((c.node plan.base).read (.byIds plan.table (batch.map (·.id)))).map (·.id)).contains r.id
      = (Table.find? r.id B).isSome := by
    have hiff := Contents.mem_select_byIds (c.node plan.base).contents plan.table (batch.map (·.id)) r.id
    rw [Contents.get?, h.baseRows] at hiff
    rw [Bool.eq_iff_iff, List.contains_iff_mem]
    exact hiff.trans (and_iff_right hmem)
  simp only [Function.comp_apply, hfound]
  cases Table.find? r.id B <;> rfl

/-- The leg's progress once it has read a batch of rows: the cursor moves to the last of them,
the run of failed reads ends and the rows are counted scanned. -/
def Progress.tookBatch (p : Progress) (batch : List Row) : Progress :=
  { p with
    failures := 0
    after := (batch.map (·.id)).getLast?
    report := { p.report with targetScanned := p.report.targetScanned + batch.length } }

/-- At the end of the target the leg's scan finds nothing and a full pass ends the leg. -/
theorem Backward.step_head_end (h : Reads plan B T c) (hT : T.Sorted)
    (hfull : plan.config.mode = .full) (hlimit : 0 < plan.config.lookupTimeoutMs)
    (hafter : p.after = T.cursor T.length) :
    Backward.step plan false c (.head, p) = (.done, { p with failures := 0 }, c.counted plan.target) := by
  have hsince : plan.config.sinceUtime = none := by simp [Config.sinceUtime, hfull]
  have hidle : plan.config.idle = fun _ => Resume.stop := by
    funext now; simp [Config.idle, Config.intervalMs, hfull]
  have hrows : (c.node plan.target).read
      (.scan plan.table none (T.cursor T.length) plan.config.batchSize) = [] := by
    rw [target_scan_rows h hT, List.drop_length, List.take_nil]
  simp only [Backward.step, Bool.false_eq_true, if_false, hsince, hafter,
    Cluster.lookupWithin_clear c _ _ h.target hlimit, hrows, hidle, Backward.resume]

/-- With target rows left, the leg reads the next batch, counts it, and looks its ids up on
the base to find those the base lacks. -/
theorem Backward.step_head_batch (h : Reads plan B T c) (hT : T.Sorted)
    (hfull : plan.config.mode = .full) (hlimit : 0 < plan.config.lookupTimeoutMs)
    (hbatch : 0 < plan.config.batchSize) {j : Nat} (hj : j < T.length) (hafter : p.after = T.cursor j) :
    Backward.step plan false c (.head, p) =
      let batch := (T.drop j).take plan.config.batchSize
      (.publish ((batch.filter fun r => (Table.find? r.id B).isNone).map (·.id)) batch.length,
        p.tookBatch batch, (c.counted plan.target).counted plan.base) := by
  have hsince : plan.config.sinceUtime = none := by simp [Config.sinceUtime, hfull]
  obtain ⟨r, rs, hcons⟩ : ∃ r rs, (T.drop j).take plan.config.batchSize = r :: rs := by
    have hne : (T.drop j).take plan.config.batchSize ≠ [] := by
      simp [List.take_eq_nil_iff]; omega
    exact List.exists_cons_of_ne_nil hne
  have h1 : Reads plan B T (c.counted plan.target) := h.counted _
  simp only [Backward.step, Bool.false_eq_true, if_false, hsince, hafter,
    Cluster.lookupWithin_clear c _ _ h.target hlimit, target_scan_rows h hT, hcons,
    Cluster.lookupWithin_clear _ _ _ h1.base hlimit]
  rw [← hcons, missing_ids h1]
  rfl

/-- With no id of the batch left to report, the leg ends after a short batch and reads on
after a full one. -/
theorem Backward.step_publish_nil (hfull : plan.config.mode = .full) (n : Nat) :
    Backward.step plan false c (.publish [] n, p) =
      ((if n < plan.config.batchSize then .done else .head), p, c) := by
  by_cases hn : n < plan.config.batchSize <;>
    simp [Backward.step, hn, Config.idle, Config.intervalMs, hfull, Backward.resume]

/-- The leg's action on a waiting report: it finishes, lost, and the leg goes on with the
rest of the batch. -/
theorem Backward.step_sending {w : Waiting} {rest : List Int64} {n : Nat}
    (hbus : Bus.Posted b0 sent c.bus) (ht : w.ticket ∉ b0.granted) :
    Backward.step plan false c (.sending w rest n, p) = (.publish rest n, p.notifyFailed, (w.finish c).2) := by
  obtain ⟨hlost, -⟩ := finish_posted hbus ht
  simp only [Backward.step, settleReport]
  generalize w.finish c = out at hlost
  obtain ⟨snt, c'⟩ := out
  simp only at hlost
  subst hlost
  rfl

/-! ## Where the leg stands -/

/-- The ids of the current batch the leg has still to report. -/
def Backward.pending : Backward → List Int64
  | .publish ms _ => ms
  | .sending _ ms _ => ms
  | _ => []

/-- The reports the leg is waiting to send. -/
def Backward.sends : Backward → Nat
  | .sending .. => 1
  | _ => 0

/-- The states the target-to-base leg of a full pass over fixed tables goes through, after
reading `j` target rows in batches of `k`: at the top of its loop, reporting the ids of a batch
(a short batch being the table's last), waiting to send one with a ticket the bus never gave
room to, or out of its loop once every target row is read. -/
def Backward.Settled (T : Table) (b0 : Bus) (k j : Nat) : Backward → Prop
  | .head => True
  | .publish _ n => n < k → j = T.length
  | .sending w _ n => (n < k → j = T.length) ∧ w.ticket ∉ b0.granted
  | .done => j = T.length
  | _ => False

/-- Actions left to the leg after reading `j` target rows: at most four for each target row
still to read and two to end, and two for each id of the batch still to report. -/
def Backward.left (T : Table) (j : Nat) : Backward → Nat
  | .head => 4 * (T.length - j) + 2
  | .publish ms _ => 2 * ms.length + 4 * (T.length - j) + 3
  | .sending _ ms _ => 2 * ms.length + 4 * (T.length - j) + 4
  | _ => 0

/-- The target-to-base leg has read the first `j` target rows: its cursor is the last of them,
no read failed since, it has offered the reports `back`, and the ids it has still to report
are the rest of their drifts. -/
structure BackwardAt (plan : Plan) (B T : Table) (b0 : Bus) (j : Nat) (back : List Message)
    (s : Backward × Progress) : Prop where
  le : j ≤ T.length
  after : s.2.after = T.cursor j
  failures : s.2.failures = 0
  counts : s.2.report.counts = backwardCounts plan.base (T.take j) B s.1.pending.length
  posts : (backwardDrifts plan.base (T.take j) B).map plan.post =
    back ++ s.1.pending.map (plan.message · .baseMissing)
  state : s.1.Settled T b0 plan.config.batchSize j

/-- One action of the target-to-base leg: from `j` read rows and offers `back`, on cluster `c`
whose bus shows the offers `sent`, to `j'` read rows on cluster `c'`, offering `new` more. -/
structure BackwardStep (plan : Plan) (B T : Table) (b0 : Bus) (sent new : List Message)
    (j j' : Nat) (back : List Message) (s s' : Backward × Progress) (c c' : Cluster) : Prop where
  at' : BackwardAt plan B T b0 j' (back ++ new) s'
  reads : Reads plan B T c'
  bus : Bus.Posted b0 (sent ++ new) c'.bus
  now : c'.now = c.now
  lost : s'.2.report.notifyFailures + s'.1.sends + (sent.length - b0.room) =
    s.2.report.notifyFailures + s.1.sends + ((sent ++ new).length - b0.room)
  left : s'.1.left T j' < s.1.left T j

/-! ## One action at a time -/

/-- The rows before a batch followed by the batch are the rows up to its end. -/
theorem take_batch (T : Table) (j k : Nat) :
    T.take (j + ((T.drop j).take k).length) = T.take j ++ (T.drop j).take k := by
  rw [List.take_add, List.length_take]
  rcases le_total k (T.drop j).length with hk | hk
  · rw [Nat.min_eq_left hk]
  · rw [Nat.min_eq_right hk, List.take_of_length_le hk, List.take_length]

/-- Reporting one more missing id of the rows read takes one off those still waiting. -/
theorem backwardCounts_record (side : Side) (rows B : Table) {w : Nat}
    (hw : w + 1 ≤ (backwardDrifts side rows B).length) :
    (backwardCounts side rows B (w + 1)).record .baseMissing = backwardCounts side rows B w := by
  simp only [backwardCounts, Report.record, Report.mk.injEq, true_and, and_true]
  omega

/-- Reading a batch adds its rows to those scanned and leaves every id of it the base lacks
still to report. -/
theorem backwardCounts_batch (side : Side) (rows batch B : Table) :
    { backwardCounts side rows B 0 with
      targetScanned := (backwardCounts side rows B 0).targetScanned + batch.length } =
      backwardCounts side (rows ++ batch) B (backwardDrifts side batch B).length := by
  simp [backwardCounts]

/-- At the end of the target the leg ends, having reported every id the base lacks. -/
theorem BackwardAt.step_end (hb : BackwardAt plan B T b0 T.length back (.head, p))
    (h : Reads plan B T c) (hbus : Bus.Posted b0 sent c.bus) :
    BackwardStep plan B T b0 sent [] T.length T.length back (.head, p)
      (.done, { p with failures := 0 }) c (c.counted plan.target) :=
  ⟨⟨hb.le, hb.after, rfl, hb.counts, by simpa [Backward.pending] using hb.posts, rfl⟩, h.counted _,
    by simpa using hbus, by simp, by simp [Backward.sends], by simp [Backward.left]⟩

/-- A batch read moves the cursor to its last row and counts it, and the ids of its rows the
base lacks become the ids to report. -/
theorem BackwardAt.step_batch {j : Nat} (hb : BackwardAt plan B T b0 j back (.head, p))
    (h : Reads plan B T c) (hbus : Bus.Posted b0 sent c.bus) (hbatch : 0 < plan.config.batchSize)
    (hj : j < T.length) :
    let batch := (T.drop j).take plan.config.batchSize
    BackwardStep plan B T b0 sent [] j (j + batch.length) back (.head, p)
      (.publish ((batch.filter fun r => (Table.find? r.id B).isNone).map (·.id)) batch.length,
        p.tookBatch batch) c ((c.counted plan.target).counted plan.base) := by
  intro batch
  have htake : T.take (j + batch.length) = T.take j ++ batch := take_batch T j _
  have hlen : batch.length = min plan.config.batchSize (T.length - j) := by simp [batch]
  have hne : batch ≠ [] := by simp [batch, List.take_eq_nil_iff]; omega
  have hmissing : (backwardDrifts plan.base batch B).length =
      (batch.filter fun r => (Table.find? r.id B).isNone).length := by
    simp [backwardDrifts]
  have hsub : (batch.filter fun r => (Table.find? r.id B).isNone).length ≤ batch.length :=
    List.length_filter_le _ _
  refine ⟨⟨by omega, ?_, rfl, ?_, ?_, ?_⟩, (h.counted _).counted _, by simpa using hbus, by simp,
    by simp [Backward.sends, Progress.tookBatch], ?_⟩
  · -- the cursor moves to the batch's last row
    simp [Progress.tookBatch, Table.cursor, htake, List.getLast?_append, List.getLast?_map,
      List.getLast?_eq_some_getLast hne]
  · have hpend : (Backward.publish ((batch.filter fun r => (Table.find? r.id B).isNone).map (·.id))
        batch.length).pending.length = (backwardDrifts plan.base batch B).length := by
      simp [Backward.pending, hmissing]
    have hc : p.report.counts = backwardCounts plan.base (T.take j) B 0 := hb.counts
    rw [hpend, htake, ← backwardCounts_batch, ← hc]
    rfl
  · rw [htake, backwardDrifts_append, List.map_append, hb.posts]
    simp [Backward.pending, backwardDrifts, Plan.message_eq_post]
  · intro hn
    omega
  · simp only [Backward.left, List.length_map]
    omega

/-- With the batch's ids all reported, the leg ends after a short batch and reads on after a
full one. -/
theorem BackwardAt.step_drained {j n : Nat} (hb : BackwardAt plan B T b0 j back (.publish [] n, p))
    (h : Reads plan B T c) (hbus : Bus.Posted b0 sent c.bus) :
    BackwardStep plan B T b0 sent [] j j back (.publish [] n, p)
      ((if n < plan.config.batchSize then .done else .head), p) c c := by
  refine ⟨⟨hb.le, hb.after, hb.failures, ?_, ?_, ?_⟩, h, by simpa using hbus, rfl,
    by split <;> simp [Backward.sends], ?_⟩
  · split <;> exact hb.counts
  · split <;> simpa [Backward.pending] using hb.posts
  · split
    · next hn => exact hb.state hn
    · trivial
  · split <;> simp [Backward.left]

/-- Reporting the next missing id of a batch: the leg goes on at once, or waits for room when
the bus has none. -/
theorem BackwardAt.step_reported {j n : Nat} {id : Int64} {rest : List Int64}
    (hb : BackwardAt plan B T b0 j back (.publish (id :: rest) n, p))
    (h : Reads plan B T c) (hbus : Bus.Posted b0 sent c.bus) (hissued : b0.TicketsIssued)
    {out : Backward × Progress × Cluster}
    (hout : (match notify plan c p id .baseMissing with
      | (.waiting w, p, c) => (Backward.sending w rest n, p, c)
      | (_, p, c) => (.publish rest n, p, c)) = out) :
    BackwardStep plan B T b0 sent [plan.message id .baseMissing] j j back
      (.publish (id :: rest) n, p) (out.1, out.2.1) c out.2.2 := by
  obtain ⟨b', p', c'⟩ := out
  rcases hn : notify plan c p id .baseMissing with ⟨snt, p2, c2⟩
  obtain ⟨hbus2, hnow2, hnodes2, hafter2, hfail2, hcounts2, hcases⟩ := notify_posted hbus hissued _ _ _ hn
  rw [hn] at hout
  have hposts : (backwardDrifts plan.base (T.take j) B).map plan.post =
      (back ++ [plan.message id .baseMissing]) ++ rest.map (plan.message · .baseMissing) := by
    rw [hb.posts]
    simp [Backward.pending]
  -- the drifts still to report are among those of the rows read
  have hwait : rest.length + 1 ≤ (backwardDrifts plan.base (T.take j) B).length := by
    have := congrArg List.length hposts
    simp only [List.length_map, List.length_append, List.length_singleton] at this
    omega
  have hcounts : p2.report.counts = backwardCounts plan.base (T.take j) B rest.length := by
    rw [hcounts2, Report.counts_record, hb.counts]
    exact backwardCounts_record _ _ _ hwait
  have hreads : Reads plan B T c2 := h.of_nodes fun s => ⟨by rw [hnodes2], fun hc => by rw [hnodes2]; exact hc⟩
  have hat : ∀ b', b'.pending = rest → b'.Settled T b0 plan.config.batchSize j →
      BackwardAt plan B T b0 j (back ++ [plan.message id .baseMissing]) (b', p2) := fun b' hp hs =>
    ⟨hb.le, hafter2.trans hb.after, hfail2.trans hb.failures, hp ▸ hcounts, hp ▸ hposts, hs⟩
  rcases hcases with ⟨rfl, hnf2, hlt⟩ | ⟨rfl, hnf2, hroom⟩ | ⟨w, rfl, hnf2, hge, ht⟩
  · simp only [Prod.mk.injEq] at hout
    obtain ⟨rfl, rfl, rfl⟩ := hout
    exact ⟨hat _ rfl hb.state, hreads, hbus2, hnow2, by simp [Backward.sends, hnf2]; omega,
      by simp [Backward.left]⟩
  · simp only [Prod.mk.injEq] at hout
    obtain ⟨rfl, rfl, rfl⟩ := hout
    exact ⟨hat _ rfl hb.state, hreads, hbus2, hnow2, by simp [Backward.sends, hnf2, hroom]; omega,
      by simp [Backward.left]⟩
  · simp only [Prod.mk.injEq] at hout
    obtain ⟨rfl, rfl, rfl⟩ := hout
    exact ⟨hat _ rfl ⟨hb.state, ht⟩, hreads, hbus2, hnow2, by simp [Backward.sends, hnf2]; omega,
      by simp [Backward.left]; omega⟩

/-- A report that waited for room ends lost at its deadline, is counted, and the leg goes on
with the rest of the batch. -/
theorem BackwardAt.step_sent {j n : Nat} {w : Waiting} {rest : List Int64}
    (hb : BackwardAt plan B T b0 j back (.sending w rest n, p))
    (h : Reads plan B T c) (hbus : Bus.Posted b0 sent c.bus) :
    BackwardStep plan B T b0 sent [] j j back (.sending w rest n, p) (.publish rest n, p.notifyFailed) c
      (w.finish c).2 := by
  obtain ⟨-, hbus', hnow, hnodes⟩ := finish_posted hbus hb.state.2
  refine ⟨⟨hb.le, hb.after, hb.failures, hb.counts, by simpa [Backward.pending] using hb.posts, hb.state.1⟩,
    h.of_nodes fun s => ⟨by rw [hnodes], fun hc => by rw [hnodes]; exact hc⟩,
    by simpa using hbus', hnow, ?_, by simp [Backward.left]⟩
  simp [Backward.sends, Progress.notifyFailed]

/-- Every action the target-to-base leg can take from where it stands in a full pass keeps
it standing somewhere, a batch further at most, and brings it closer to its end. -/
theorem BackwardAt.step {j : Nat} {s : Backward × Progress} (hb : BackwardAt plan B T b0 j back s)
    (h : Reads plan B T c) (hbus : Bus.Posted b0 sent c.bus) (hissued : b0.TicketsIssued)
    (hT : T.Sorted) (hfull : plan.config.mode = .full) (hlimit : 0 < plan.config.lookupTimeoutMs)
    (hbatch : 0 < plan.config.batchSize) (hready : s.1.ready false c = true) :
    ∃ j' new, BackwardStep plan B T b0 sent new j j' back s
      ((Backward.step plan false c s).1, (Backward.step plan false c s).2.1) c
      (Backward.step plan false c s).2.2 := by
  obtain ⟨b, p⟩ := s
  cases b with
  | head =>
    rcases Nat.lt_or_ge j T.length with hj | hj
    · rw [Backward.step_head_batch h hT hfull hlimit hbatch hj hb.after]
      exact ⟨_, _, hb.step_batch h hbus hbatch hj⟩
    · -- every target row is read: the scan finds nothing more
      have hend : j = T.length := le_antisymm hb.le hj
      subst hend
      rw [Backward.step_head_end h hT hfull hlimit hb.after]
      exact ⟨_, _, hb.step_end h hbus⟩
  | publish ms n =>
    cases ms with
    | nil =>
      rw [Backward.step_publish_nil hfull]
      exact ⟨_, _, hb.step_drained h hbus⟩
    | cons id rest => exact ⟨_, _, hb.step_reported h hbus hissued rfl⟩
  | sending w rest n =>
    rw [Backward.step_sending hbus hb.state.2]
    exact ⟨_, _, hb.step_sent h hbus⟩
  | done => simp [Backward.ready] at hready
  | pausing t => exact hb.state.elim

end TableMigration.Validation
