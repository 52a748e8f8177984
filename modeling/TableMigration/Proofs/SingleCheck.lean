import TableMigration.Proofs.Convergence

/-!
# Proofs.SingleCheck

How a single-id check judges an id, against what a full pass reports for it.

A full pass over fixed tables says one thing of each id (`passVerdict`): the drift of the id's
base row (`baseRowDrift`), the reading failure of that row when the pass counts it as a failed
lookup instead, or `baseMissing` when only the target has the id. On sorted tables these are
exactly the drifts a full pass reports (`passVerdict_eq_some_iff`) and the base rows it counts as
failed lookups (`passVerdict_isOk_iff`).

A single-id check fetches the base row and then the target row, and judges the pair
(`checkVerdict`). Through clear paths with a positive lookup limit it does so at once
(`CheckJob.run_single`, `World.checkIds_single`), and it agrees with the full pass at every id but
one kind: an id the base lacks whose target row does not read (`UnreadableOrphan`). The full
pass reports such an id missing from the base without reading the target row; the check reads
the row first and fails (`World.classify_matches_pass`, `World.classify_unreadable_orphan`).
-/

namespace TableMigration

open TableMigration.Access TableMigration.Store TableMigration.Validation

/-! ## What a full pass says of one id -/

/-- What a full pass over the base rows `B` and the target rows `T` says of one id: the drift of
the base row with the id, the row's reading failure when it does not read (the pass counts a
failed lookup and reports nothing), or `baseMissing` when only the target has the id. -/
def passVerdict (B T : Table) (id : Int64) : Except Failure (Option DriftKind) :=
  match Table.find? id B with
  | some b => (recordOf b).map fun _ => baseRowDrift T b
  | none => .ok ((Table.find? id T).map fun _ => .baseMissing)

/-- An id the base lacks whose target row does not read as a record. -/
def UnreadableOrphan (B T : Table) (id : Int64) : Prop :=
  Table.find? id B = none ∧ ∃ t, Table.find? id T = some t ∧ unreadable t = true

section Pass

variable {B T : Table} {id : Int64}

/-- A base row that does not read has no drift. -/
theorem baseRowDrift_of_error {row : Row} {f : Failure} (h : recordOf row = .error f) :
    baseRowDrift T row = none := by
  unfold baseRowDrift
  rw [h]

/-- On a sorted base, the base-to-target leg reports a drift at an id exactly for the base row
with that id. -/
theorem mem_forwardDrifts_iff (hB : B.Sorted) (side : Side) (k : DriftKind) :
    ⟨id, side, k⟩ ∈ forwardDrifts side B T ↔ ∃ b, Table.find? id B = some b ∧ baseRowDrift T b = some k := by
  constructor
  · intro h
    obtain ⟨row, hrow, hmap⟩ := List.mem_filterMap.mp h
    obtain ⟨k', hk', heq⟩ := Option.map_eq_some_iff.mp hmap
    obtain ⟨rfl, -, rfl⟩ := Drift.mk.inj heq
    exact ⟨row, Table.find?_of_mem hB hrow, hk'⟩
  · rintro ⟨b, hb, hk⟩
    obtain ⟨hmem, rfl⟩ := Table.find?_some hb
    exact List.mem_filterMap.mpr ⟨b, hmem, by simp [hk]⟩

/-- On a sorted target, the target-to-base leg reports an id exactly when the target has it and
the base does not, and only as missing from the base. -/
theorem mem_backwardDrifts_iff (hT : T.Sorted) (side : Side) (k : DriftKind) :
    ⟨id, side, k⟩ ∈ backwardDrifts side T B ↔
      k = .baseMissing ∧ Table.find? id B = none ∧ (Table.find? id T).isSome := by
  simp only [backwardDrifts, List.mem_map, List.mem_filter, Option.isNone_iff_eq_none]
  constructor
  · rintro ⟨t, ⟨ht, hnone⟩, heq⟩
    obtain ⟨rfl, -, rfl⟩ := Drift.mk.inj heq
    exact ⟨rfl, hnone, by simp [Table.find?_of_mem hT ht]⟩
  · rintro ⟨rfl, hnone, hsome⟩
    obtain ⟨t, ht⟩ := Option.isSome_iff_exists.mp hsome
    obtain ⟨hmem, rfl⟩ := Table.find?_some ht
    exact ⟨t, ⟨hmem, hnone⟩, rfl⟩

/-- On sorted tables, the pass's verdict names a drift exactly when a full pass reports that
drift for the id. -/
theorem passVerdict_eq_some_iff (hB : B.Sorted) (hT : T.Sorted) (side : Side) (k : DriftKind) :
    passVerdict B T id = .ok (some k) ↔ ⟨id, side, k⟩ ∈ forwardDrifts side B T ++ backwardDrifts side T B := by
  rw [List.mem_append, mem_forwardDrifts_iff hB, mem_backwardDrifts_iff hT]
  unfold passVerdict
  cases hb : Table.find? id B with
  | some b =>
    -- an id the base has is reported, if at all, for its base row
    cases hr : recordOf b with
    | error f => simp [Except.map, hr, baseRowDrift_of_error hr]
    | ok r => simp [Except.map, hr]
  | none =>
    -- an id the base lacks is reported, if at all, as missing from the base
    cases ht : Table.find? id T with
    | none => simp
    | some t => simp [eq_comm]

/-- On a sorted base, the pass's verdict is a failure exactly when the base row with the id does
not read: the row a full pass counts as a failed lookup. -/
theorem passVerdict_isOk_iff (hB : B.Sorted) :
    (passVerdict B T id).isOk = false ↔ ∃ row ∈ B, row.id = id ∧ unreadable row = true := by
  unfold passVerdict
  cases hb : Table.find? id B with
  | some b =>
    obtain ⟨hmem, rfl⟩ := Table.find?_some hb
    -- the base row with the id is `b`, the only one
    have honly : ∀ row ∈ B, row.id = b.id → row = b := fun row hrow hid => by
      have := Table.find?_of_mem hB hrow
      rw [hid, hb] at this
      exact (Option.some.inj this).symm
    constructor
    · intro h
      refine ⟨b, hmem, rfl, ?_⟩
      cases hr : recordOf b <;> simp_all [unreadable, Except.map, Except.isOk, Except.toBool]
    · rintro ⟨row, hrow, hid, hu⟩
      obtain rfl := honly row hrow hid
      cases hr : recordOf row <;> simp_all [unreadable, Except.map, Except.isOk, Except.toBool]
  | none =>
    simp only [Except.isOk, Except.toBool, Bool.true_eq_false, false_iff, not_exists, not_and]
    intro row hrow hid
    have := Table.find?_of_mem hB hrow
    rw [hid, hb] at this
    cases this

end Pass

/-! ## What a single-id check answers -/

/-- What a single-id check answers when both rows are read at once: the base row's record, or its
reading failure, then the target row judged against it. -/
def checkVerdict (B T : Table) (id : Int64) : Except Failure (Option DriftKind) :=
  (firstRecord (Table.find? id B).toList).bind fun b => judgeFetched b (firstRecord (Table.find? id T).toList)

section Check

variable {B T : Table} {id : Int64}

/-- A row that does not read fails to deserialize. -/
theorem recordOf_error {row : Row} {f : Failure} (h : recordOf row = .error f) :
    ∃ m, f = .deserialization m := by
  unfold recordOf at h
  split at h
  · cases h
  · cases h
    exact ⟨_, rfl⟩

/-- Away from an unreadable orphan, the check answers what the full pass says. -/
theorem checkVerdict_eq_passVerdict (h : ¬ UnreadableOrphan B T id) :
    checkVerdict B T id = passVerdict B T id := by
  unfold checkVerdict passVerdict
  cases hb : Table.find? id B with
  | some b =>
    obtain ⟨-, hid⟩ := Table.find?_some hb
    cases hr : recordOf b with
    | error f => simp [firstRecord, hr, Except.map, Except.bind]
    | ok r =>
      -- the base row reads: its drift judges the target's row with the same id
      simp only [Option.toList_some, firstRecord, hr, Except.map, Except.bind]
      unfold baseRowDrift
      rw [hr, hid]
      cases ht : Table.find? id T with
      | none => rfl
      | some t =>
        cases hu : recordOf t with
        | error e =>
          obtain ⟨m, rfl⟩ := recordOf_error hu
          simp [judgeFetched, hu]
        | ok u => simp [judgeFetched, classify, hu]
  | none =>
    cases ht : Table.find? id T with
    | none => rfl
    | some t =>
      cases hu : recordOf t with
      | error e => exact absurd ⟨hb, t, ht, by simp [unreadable, hu, Except.isOk, Except.toBool]⟩ h
      | ok u => simp [firstRecord, hu, Except.map, Except.bind, judgeFetched, classify]

/-- At an unreadable orphan the check fails, while the full pass reports the id missing from the
base. -/
theorem checkVerdict_orphan (h : UnreadableOrphan B T id) :
    (checkVerdict B T id).isOk = false ∧ passVerdict B T id = .ok (some .baseMissing) := by
  obtain ⟨hb, t, ht, hu⟩ := h
  obtain ⟨f, hf⟩ : ∃ f, recordOf t = .error f := by
    cases hr : recordOf t <;> simp_all [unreadable, Except.isOk, Except.toBool]
  obtain ⟨m, rfl⟩ := recordOf_error hf
  unfold checkVerdict passVerdict
  simp [hb, ht, firstRecord, hf, Except.map, Except.bind, judgeFetched, Except.isOk, Except.toBool]

end Check

/-! ## A check run through clear paths -/

namespace Validation

/-- A fetch through a clear path with a positive limit answers at once with the store's row. -/
theorem Probe.fetch_clear (p : Probe) (c : Cluster) (s : Side) (id : Int64) (h : (c.node s).Clear)
    (hlimit : 0 < p.lookupTimeoutMs) :
    p.fetch c s id = (.answer (firstRecord (Table.find? id ((c.node s).contents.table p.table)).toList), c.counted s) := by
  simp only [Probe.fetch, Cluster.lookupWithin_clear c s _ h hlimit]
  rfl

namespace CheckJob

/-- A job that publishes nothing records its verdict at once. -/
theorem conclude_quiet {j : CheckJob} (h : j.publishes = false) (c : Cluster) (id : Int64)
    (b : Option Record) (t : Except Failure (Option Record)) :
    j.conclude c id b t = (j.answer (judgeFetched b t), c) := by
  unfold conclude
  split
  · next k hk => simp only [h, Bool.false_eq_true, if_false, hk]
  · rfl

/-- After the base's row, a job that publishes nothing fetches the target's row through a clear
path at once and records its verdict. -/
theorem afterBase_quiet {j : CheckJob} (h : j.publishes = false) (c : Cluster) (id : Int64)
    (hclear : (c.node j.probe.base.opposite).Clear) (hlimit : 0 < j.probe.lookupTimeoutMs)
    (b : Except Failure (Option Record)) :
    (j.afterBase c id b).1 = j.answer (b.bind fun b =>
      judgeFetched b (firstRecord (Table.find? id ((c.node j.probe.base.opposite).contents.table j.probe.table)).toList)) := by
  cases b with
  | error f => rfl
  | ok b =>
    simp only [afterBase, Probe.fetch_clear _ _ _ _ hclear hlimit, conclude_quiet h]
    rfl

/-- A job that can run now takes one action and goes on with one action less. -/
theorem run_of_ready {j : CheckJob} {c : Cluster} (cancelled : Bool) (fuel : Nat) (h : ready c j = true) :
    run cancelled (fuel + 1) j c = run cancelled fuel (j.step cancelled c).1 (j.step cancelled c).2 := by
  rw [run, if_pos h]

/-- A finished job does nothing more. -/
theorem run_finished {j : CheckJob} (h : j.finished = true) (cancelled : Bool) (fuel : Nat) (c : Cluster) :
    run cancelled fuel j c = (j, c) := by
  cases fuel with
  | zero => rfl
  | succ fuel => simp [run, ready, h]

/-- A check of one id that publishes nothing, through clear paths with a positive lookup limit:
it takes the id, fetches both rows and judges them in one action, then finishes. -/
theorem run_single (p : Probe) (id : Int64) (c : Cluster) (hbase : (c.node p.base).Clear)
    (htarget : (c.node p.base.opposite).Clear) (hlimit : 0 < p.lookupTimeoutMs) :
    let j : CheckJob := { probe := p, publishes := false, queue := [id] }
    (run false j.pending j c).1.finished = true ∧
    (run false j.pending j c).1.answers =
      [checkVerdict ((c.node p.base).contents.table p.table) ((c.node p.base.opposite).contents.table p.table) id] := by
  intro j0
  set j1 : CheckJob := { probe := p, publishes := false, queue := [], current := some (.start id) } with hj1
  set v := checkVerdict ((c.node p.base).contents.table p.table) ((c.node p.base.opposite).contents.table p.table) id
  -- reading the base leaves the target's path as it was
  have htarget' : ((c.counted p.base).node p.base.opposite).Clear := by
    simpa [Cluster.counted] using htarget
  have hrows : ((c.counted p.base).node p.base.opposite).contents = (c.node p.base.opposite).contents := by
    simp [Cluster.counted]
  -- the first action takes the id, the second fetches both rows and judges them
  have hfirst : j0.step false c = (j1, c) := rfl
  have hjudge : (j1.step false c).1 = j1.answer v := by
    have hstep : j1.step false c = j1.afterBase (c.counted p.base) id
        (firstRecord (Table.find? id ((c.node p.base).contents.table p.table)).toList) := by
      simp only [step, hj1, Probe.fetch_clear p c _ _ hbase hlimit]
    rw [hstep, afterBase_quiet (j := j1) rfl _ _ htarget' hlimit, hrows]
    rfl
  rcases h2 : j1.step false c with ⟨j2, c2⟩
  rw [h2] at hjudge
  simp only at hjudge
  subst hjudge
  -- the third action finds the queue empty and ends the job
  have hlast : (j1.answer v).step false c2 = ({ j1.answer v with finished := true }, c2) := rfl
  obtain ⟨n, hn⟩ : ∃ n, j0.pending = n + 3 := ⟨3, rfl⟩
  have hrun : run false j0.pending j0 c = ({ j1.answer v with finished := true }, c2) := by
    rw [hn, run_of_ready _ _ (show ready c j0 = true from rfl), hfirst,
      run_of_ready _ _ (show ready c j1 = true from rfl), h2,
      run_of_ready _ _ (show ready c2 (j1.answer v) = true from rfl), hlast]
    exact run_finished rfl _ _ _
  rw [hrun]
  exact ⟨rfl, rfl⟩

end CheckJob

end Validation

/-! ## Checks run as part of the caller -/

namespace World

/-- A check of one id that publishes nothing, run as part of the caller on a timeline with no
other task, through clear paths with a positive lookup limit, answers the check's verdict on the
system's table. -/
theorem checkIds_single (w : World) (base : Side) (id : Int64)
    (hbase : (w.cluster.node base).Clear) (htarget : (w.cluster.node base.opposite).Clear)
    (hlimit : 0 < w.settings.validator.lookupTimeoutMs) (hsolo : w.tl.tasks = [])
    (hfresh : w.tl.isCancelled w.tl.nextId = false) :
    (w.checkIds base [id] false).1 = [checkVerdict ((w.cluster.node base).contents.table w.settings.table)
      ((w.cluster.node base.opposite).contents.table w.settings.table) id] := by
  obtain ⟨hdone, hanswers⟩ := CheckJob.run_single (w.probe base) id w.cluster hbase htarget hlimit
  have h := perform_solo w (.check { probe := w.probe base, publishes := false, queue := [id] }) hsolo rfl rfl
    (by simp only [Task.poll, hfresh]; exact hdone) rfl
  unfold checkIds
  rw [h]
  simp only [Task.poll, hfresh]
  exact hanswers

/-- A single-id check of `id` from `base`, run as part of the caller through clear paths with a
positive lookup limit, over the sorted base rows `B` and target rows `T`, answers what a full pass
over the same tables says of the id, except at an id the base lacks whose target row does not
read. What the full pass says (`passVerdict`) is the kind of the drift it reports for the id, or
nothing, or the failure of the id's base row, which it counts as a failed lookup. At such an
unreadable orphan the full pass reports the id missing from the base, while the check fails. -/
theorem classify_matches_pass (w : World) (base : Side) (id : Int64) {B T : Table}
    (hBrows : (w.cluster.node base).contents.table w.settings.table = B)
    (hTrows : (w.cluster.node base.opposite).contents.table w.settings.table = T)
    (hB : B.Sorted) (hT : T.Sorted)
    (hbase : (w.cluster.node base).Clear) (htarget : (w.cluster.node base.opposite).Clear)
    (hlimit : 0 < w.settings.validator.lookupTimeoutMs)
    (hsolo : w.tl.tasks = []) (hfresh : w.tl.isCancelled w.tl.nextId = false) :
    (∀ k, passVerdict B T id = .ok (some k) ↔
      ⟨id, base, k⟩ ∈ forwardDrifts base B T ++ backwardDrifts base T B) ∧
    ((passVerdict B T id).isOk = false ↔ ∃ row ∈ B, row.id = id ∧ unreadable row = true) ∧
    (¬ UnreadableOrphan B T id → firstAnswer (w.checkIds base [id] false).1 = passVerdict B T id) ∧
    (UnreadableOrphan B T id → (firstAnswer (w.checkIds base [id] false).1).isOk = false ∧
      passVerdict B T id = .ok (some .baseMissing)) := by
  have hcheck : firstAnswer (w.checkIds base [id] false).1 = checkVerdict B T id := by
    rw [checkIds_single w base id hbase htarget hlimit hsolo hfresh, hBrows, hTrows]
    rfl
  refine ⟨passVerdict_eq_some_iff hB hT base, passVerdict_isOk_iff hB, fun h => ?_, fun h => ?_⟩
  · rw [hcheck, checkVerdict_eq_passVerdict h]
  · rw [hcheck]
    exact checkVerdict_orphan h

/-- A base with records 1 and 2 and an unreadable row 4, against a copy with record 1, a changed
record 2 and a record 3: the checks of ids 1 to 4 answer what the full pass says of each, which
is nothing at 1, `neq` at 2, `baseMissing` at 3 (both reported by the pass) and the failure of
the base row at 4. -/
theorem classify_matches_pass_drifted :
    let src : Contents := Contents.empty.applyAll [.upsert "records" (rowOf (.new 1 5)),
      .upsert "records" (rowOf ⟨2, 5, [("a", .bool true)]⟩), .upsert "records" ⟨4, 5, [0]⟩]
    let dst : Contents := Contents.empty.applyAll [.upsert "records" (rowOf (.new 1 5)),
      .upsert "records" (rowOf ⟨2, 7, [("a", .null)]⟩), .upsert "records" (rowOf (.new 3 5))]
    let w := (World.create {} 0).setCluster
      { src := { side := .src, contents := src }, dst := { side := .dst, contents := dst } }
    let B := src.table "records"
    let T := dst.table "records"
    (∀ id ∈ [1, 2, 3, 4], firstAnswer (w.checkIds .src [id] false).1 = passVerdict B T id) ∧
      passVerdict B T 1 = .ok none ∧ passVerdict B T 2 = .ok (some .neq) ∧
      passVerdict B T 3 = .ok (some .baseMissing) ∧ (passVerdict B T 4).isOk = false ∧
      ⟨2, .src, .neq⟩ ∈ forwardDrifts .src B T ++ backwardDrifts .src T B ∧
      ⟨3, .src, .baseMissing⟩ ∈ forwardDrifts .src B T ++ backwardDrifts .src T B := by
  intro src dst w B T
  have hB : B.Sorted := Contents.ordered_applyAll Contents.ordered_empty _ _
  have hT : T.Sorted := Contents.ordered_applyAll Contents.ordered_empty _ _
  have h (id : Int64) := classify_matches_pass w .src id (B := B) (T := T) rfl rfl hB hT
    ⟨rfl, rfl, rfl, rfl⟩ ⟨rfl, rfl, rfl, rfl⟩ (by decide) rfl rfl
  -- no id checked is one the base lacks with an unreadable target row
  have hnot : ∀ id ∈ [1, 2, 3, 4], ¬ UnreadableOrphan B T id := by
    rintro id hid ⟨hnone, t, ht, hu⟩
    have hfound : (Table.find? id T).map unreadable = some true ∧ Table.find? id B = none :=
      ⟨by rw [ht, Option.map_some, hu], hnone⟩
    revert hfound
    simp only [List.mem_cons, List.not_mem_nil, or_false] at hid
    rcases hid with rfl | rfl | rfl | rfl <;> decide +kernel
  have hverdicts : passVerdict B T 1 = .ok none ∧ passVerdict B T 2 = .ok (some .neq) ∧
      passVerdict B T 3 = .ok (some .baseMissing) := by
    decide +kernel
  refine ⟨fun id hid => (h id).2.2.1 (hnot id hid), hverdicts.1, hverdicts.2.1, hverdicts.2.2,
    (h 4).2.1.mpr ⟨⟨4, 5, [0]⟩, by decide +kernel, rfl, by decide +kernel⟩,
    ((h 2).1 .neq).mp hverdicts.2.1, ((h 3).1 .baseMissing).mp hverdicts.2.2⟩

/-- A target row at id 3 that does not read, where the base has no row: a full pass reports id 3
missing from the base, while a single-id check of id 3 fails. -/
theorem classify_unreadable_orphan :
    let row : Row := ⟨3, 0, [120]⟩
    let w : World := (World.create {} 0).setCluster
      { dst := { side := .dst, contents := ⟨[("records", [row])]⟩ } }
    ⟨3, .src, .baseMissing⟩ ∈ backwardDrifts .src [row] [] ∧
      (firstAnswer (w.checkIds .src [3] false).1).isOk = false := by
  intro row w
  have horphan : UnreadableOrphan [] [row] 3 := ⟨rfl, row, by decide, by decide +kernel⟩
  have hcheck : (w.checkIds .src [3] false).1 = [checkVerdict [] [row] 3] :=
    checkIds_single w .src 3 ⟨rfl, rfl, rfl, rfl⟩ ⟨rfl, rfl, rfl, rfl⟩ (by decide) rfl rfl
  refine ⟨by decide, ?_⟩
  rw [hcheck]
  exact (checkVerdict_orphan horphan).1

end World

end TableMigration
