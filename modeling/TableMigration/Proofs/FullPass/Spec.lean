import TableMigration.Validation.Scan
import TableMigration.Proofs.QuietCluster

/-!
# Proofs.FullPass.Spec

What a full validation pass over tables that do not change must report, and the facts both of
its legs share.

What a full pass must report is stated on the tables alone:

* `baseRowDrift T row` is the drift of one base row against the target table `T`: none for a
  base row that cannot be read (the leg counts it as a failed lookup), `targetMissing` when
  the target has no row with its id, `neq` when the target's row cannot be read or does not
  match;
* `forwardDrifts` lists the drifts of the base rows in base order, `backwardDrifts` one
  `baseMissing` drift for each target row whose id the base lacks, in target order.

Both legs read through `Reads`: clear paths to both sides holding fixed rows. Every report a
leg offers ends one of three ways on the bus (`notify_posted`): it goes out while the bus has
room, is lost on a closed bus, or waits with a ticket the bus never gives room to.
-/

namespace TableMigration.Validation

open TableMigration.Access TableMigration.Store

/-! ## What a full pass must report -/

/-- The message reporting a drift on the run's topic. -/
def Plan.post (plan : Plan) (d : Drift) : Message := ⟨plan.topic, d.encode.toUTF8.toList⟩

theorem Plan.message_eq_post (plan : Plan) (id : Int64) (kind : DriftKind) :
    plan.message id kind = plan.post ⟨id, plan.base, kind⟩ := rfl

/-- A stored row whose data is not a record. -/
def unreadable (row : Row) : Bool := !(recordOf row).isOk

/-- The drift of one base row against the target's rows: nothing for a row that cannot be
read, `targetMissing` when the target lacks its id, `neq` when the target's row cannot be
read or does not match. -/
def baseRowDrift (T : Table) (row : Row) : Option DriftKind :=
  match recordOf row with
  | .error _ => none
  | .ok b =>
    match Table.find? row.id T with
    | none => some .targetMissing
    | some t =>
      match recordOf t with
      | .error _ => some .neq
      | .ok u => if b.matches u then none else some .neq

/-- The drifts of the base rows `rows` against the target's rows, in base order. -/
def forwardDrifts (side : Side) (rows T : Table) : List Drift :=
  rows.filterMap fun row => (baseRowDrift T row).map (Drift.mk row.id side)

/-- One `baseMissing` drift for each of the target rows `rows` whose id the base lacks, in
target order. -/
def backwardDrifts (side : Side) (rows B : Table) : List Drift :=
  (rows.filter fun row => (Table.find? row.id B).isNone).map fun row => ⟨row.id, side, .baseMissing⟩

@[simp] theorem forwardDrifts_append (side : Side) (rows rows' T : Table) :
    forwardDrifts side (rows ++ rows') T = forwardDrifts side rows T ++ forwardDrifts side rows' T := by
  simp [forwardDrifts]

@[simp] theorem backwardDrifts_append (side : Side) (rows rows' B : Table) :
    backwardDrifts side (rows ++ rows') B = backwardDrifts side rows B ++ backwardDrifts side rows' B := by
  simp [backwardDrifts]

/-- The drifts of a sorted base come in increasing id order. -/
theorem forwardDrifts_sorted (side : Side) {rows : Table} (h : rows.Sorted) (T : Table) :
    (forwardDrifts side rows T).Pairwise (·.id < ·.id) := by
  unfold forwardDrifts
  rw [List.pairwise_filterMap]
  refine h.imp fun {a a'} hlt d hd d' hd' => ?_
  obtain ⟨k, -, rfl⟩ := Option.mem_map.mp hd
  obtain ⟨k', -, rfl⟩ := Option.mem_map.mp hd'
  exact hlt

/-- The missing ids of a sorted target come in increasing order. -/
theorem backwardDrifts_sorted (side : Side) {rows : Table} (h : rows.Sorted) (B : Table) :
    (backwardDrifts side rows B).Pairwise (·.id < ·.id) := by
  unfold backwardDrifts
  rw [List.pairwise_map]
  exact h.filter _

/-- The counts of a report apart from the reports that did not go out. -/
def Report.counts (r : Report) : Report := { r with notifyFailures := 0 }

/-- What the base-to-target leg counts once it has judged the base rows `rows`. -/
def forwardCounts (side : Side) (rows T : Table) : Report where
  baseScanned := rows.length
  targetMissing := (forwardDrifts side rows T).countP (·.kind == .targetMissing)
  neq := (forwardDrifts side rows T).countP (·.kind == .neq)
  lookupFailures := rows.countP unreadable

/-- What the target-to-base leg counts once it has read the target rows `rows` and reported
all their drifts but the last `waiting`. -/
def backwardCounts (side : Side) (rows B : Table) (waiting : Nat) : Report where
  targetScanned := rows.length
  baseMissing := (backwardDrifts side rows B).length - waiting

/-! ## Reading fixed tables through clear paths -/

variable {plan : Plan} {B T : Table} {c : Cluster} {p : Progress}

/-- What a full pass reads: clear paths to both sides, holding the base rows `B` and the target
rows `T` of the run's table. -/
structure Reads (plan : Plan) (B T : Table) (c : Cluster) : Prop where
  base : (c.node plan.base).Clear
  target : (c.node plan.target).Clear
  baseRows : (c.node plan.base).contents.table plan.table = B
  targetRows : (c.node plan.target).contents.table plan.table = T

/-- Reading leaves what a pass reads as it was. -/
theorem Reads.of_nodes {c' : Cluster} (h : Reads plan B T c)
    (hnodes : ∀ s, (c'.node s).contents = (c.node s).contents ∧ ((c.node s).Clear → (c'.node s).Clear)) :
    Reads plan B T c' :=
  ⟨(hnodes _).2 h.base, (hnodes _).2 h.target, (hnodes _).1 ▸ h.baseRows, (hnodes _).1 ▸ h.targetRows⟩

/-- Counting a read on one side leaves what a pass reads as it was. -/
theorem Reads.counted (h : Reads plan B T c) (s : Side) : Reads plan B T (c.counted s) := by
  refine h.of_nodes fun s' => ?_
  unfold Cluster.counted
  by_cases hs : s' = s
  · subst hs
    simp only [Cluster.node_setNode_self, Node.contents_counted, true_and]
    exact Node.Clear.counted
  · have hopp : s' = s.opposite := by cases s <;> cases s' <;> simp_all [Side.opposite]
    subst hopp
    simp


/-- The rows a scan reads from the base, by cursor position. -/
theorem scan_rows (h : Reads plan B T c) (hB : B.Sorted) (i k : Nat) :
    (c.node plan.base).read (.scan plan.table none (B.cursor i) k) = (B.drop i).take k := by
  simp [Node.read, Contents.select, h.baseRows, page_none, Table.after_cursor hB]

/-- The target's row with an id, read through the target's path. -/
theorem byId_rows (h : Reads plan B T c) (id : Int64) :
    (c.node plan.target).read (.byId plan.table id) = (Table.find? id T).toList := by
  simp [Node.read, Contents.select, Contents.get?, h.targetRows]

/-! ## Counting -/

/-- Taking one more row of a table. -/
theorem take_succ_eq {B : Table} {i : Nat} (hi : i < B.length) : B.take (i + 1) = B.take i ++ [B[i]] := by
  rw [List.take_add_one, List.getElem?_eq_getElem hi]; rfl

/-- Judging an unreadable base row counts it scanned and failed. -/
theorem forwardCounts_unreadable (side : Side) (rows T : Table) {row : Row} (h : unreadable row = true) :
    forwardCounts side (rows ++ [row]) T =
      { forwardCounts side rows T with
        baseScanned := rows.length + 1
        lookupFailures := rows.countP unreadable + 1 } := by
  have hd : baseRowDrift T row = none := by
    simp only [unreadable, Bool.not_eq_true'] at h
    unfold baseRowDrift
    split
    · rfl
    · next b hb => simp [hb, Except.isOk, Except.toBool] at h
  simp [forwardCounts, forwardDrifts, hd, List.countP_append, h]

/-- A base row never drifts as missing from the base. -/
theorem baseRowDrift_ne_baseMissing (T : Table) (row : Row) : baseRowDrift T row ≠ some .baseMissing := by
  unfold baseRowDrift
  split
  · simp
  · split
    · simp
    · split
      · simp
      · split <;> simp

/-- Judging a readable base row counts it scanned and counts its drift. -/
theorem forwardCounts_readable (side : Side) (rows T : Table) {row : Row} (h : unreadable row = false) :
    forwardCounts side (rows ++ [row]) T =
      match baseRowDrift T row with
      | none => { forwardCounts side rows T with baseScanned := rows.length + 1 }
      | some k => ({ forwardCounts side rows T with baseScanned := rows.length + 1 }).record k := by
  cases hd : baseRowDrift T row with
  | none => simp [forwardCounts, forwardDrifts, hd, List.countP_append, h]
  | some k =>
    cases k with
    | baseMissing => exact absurd hd (baseRowDrift_ne_baseMissing T row)
    | _ => simp [forwardCounts, forwardDrifts, hd, List.countP_append, h, Report.record]
@[simp] theorem Report.notifyFailures_record (r : Report) (k : DriftKind) :
    (r.record k).notifyFailures = r.notifyFailures := by
  cases k <;> rfl

@[simp] theorem Report.counts_record (r : Report) (k : DriftKind) :
    (r.record k).counts = r.counts.record k := by
  cases k <;> rfl

/-- Which of the three ends a report met, with what the bus and the report show afterwards:
it went out while there was room, was lost on a closed bus, or waits with a ticket never
given room. -/
theorem notify_posted {b0 : Bus} {sent : List Message}
    (hp : Bus.Posted b0 sent c.bus) (hissued : b0.TicketsIssued) (p : Progress) (id : Int64)
    (k : DriftKind) {s : Sent} {p' : Progress} {c' : Cluster}
    (h : notify plan c p id k = (s, p', c')) :
    Bus.Posted b0 (sent ++ [plan.message id k]) c'.bus ∧ c'.now = c.now ∧
      (∀ side, c'.node side = c.node side) ∧ p'.after = p.after ∧ p'.failures = p.failures ∧
      p'.report.counts = (p.report.record k).counts ∧
      (s = .delivered ∧ p'.report.notifyFailures = p.report.notifyFailures ∧ sent.length < b0.room ∨
       s = .lost ∧ p'.report.notifyFailures = p.report.notifyFailures + 1 ∧ b0.room = 0 ∨
       ∃ w, s = .waiting w ∧ p'.report.notifyFailures = p.report.notifyFailures ∧
         b0.room ≤ sent.length ∧ w.ticket ∉ b0.granted) := by
  obtain ⟨hbus, hnow, hnodes, hcases⟩ := publish_posted hp hissued (plan.message id k)
    plan.config.notifyTimeoutMs
  generalize hpub : publish c (plan.message id k) plan.config.notifyTimeoutMs = out at hbus hnow hnodes hcases
  obtain ⟨s0, c0⟩ := out
  simp only at hbus hnow hnodes hcases
  have hrec : ({ p with report := p.report.record k } : Progress).report.counts =
      (p.report.record k).counts := rfl
  rcases hcases with ⟨rfl, hlt⟩ | ⟨rfl, hroom⟩ | ⟨w, rfl, hge, ht⟩
  · simp only [notify, hpub, Prod.mk.injEq] at h
    obtain ⟨rfl, rfl, rfl⟩ := h
    exact ⟨hbus, hnow, hnodes, rfl, rfl, hrec, .inl ⟨rfl, Report.notifyFailures_record _ _, hlt⟩⟩
  · simp only [notify, hpub, Prod.mk.injEq] at h
    obtain ⟨rfl, rfl, rfl⟩ := h
    exact ⟨hbus, hnow, hnodes, rfl, rfl, rfl,
      .inr (.inl ⟨rfl, congrArg (· + 1) (Report.notifyFailures_record _ _), hroom⟩)⟩
  · simp only [notify, hpub, Prod.mk.injEq] at h
    obtain ⟨rfl, rfl, rfl⟩ := h
    exact ⟨hbus, hnow, hnodes, rfl, rfl, hrec,
      .inr (.inr ⟨w, rfl, Report.notifyFailures_record _ _, hge, ht⟩)⟩

end TableMigration.Validation
