import Mathlib.Data.List.Perm.Basic
import TableMigration.Proofs.Json.Canonical
import TableMigration.Proofs.FullPass.Exact

/-!
# Proofs.Convergence

Validating and then repairing makes the copy converge on the base. A full pass from one side
reports a drift for each base row the copy lacks or holds differently and for each copy row the
base lacks (`Proofs.FullPass.Exact`). The fixer, run on each such report, writes the base's record
over the copy, or deletes the copy's row when the base has none (`syncStatement`).

The argument is pointwise. A repair of id `i` touches only the copy's row `i`, and sets it to
what the base has there (`find?_sync`), so after repairs of a list of ids, in any order, the copy
at each id is the base's row if the id was repaired and the old copy row otherwise
(`find?_syncAll`). A repaired base row reads back equal (`Record.decode_encode`); an id that was
not repaired did not drift. So a second pass finds no drift, and then the copy holds exactly the
base's ids (`ids_eq_of_no_drifts`).

The fixer runs as one job of the caller (`World.repairAll_solo`), each message a drift report
(`RepairJob.run_drifts`); `World.repairAll_converges` puts the pieces together.
-/

namespace TableMigration

open TableMigration.Access TableMigration.Store TableMigration.Validation TableMigration.Json

/-! ## Writes through clear paths -/

namespace Access

/-- The node after one more write went through its path and ran `stmt` on the store. -/
def Node.wrote (n : Node) (stmt : Statement) : Node :=
  { n with faults := { n.faults with execs := n.faults.execs + 1 }, contents := (n.contents.apply stmt).2 }

@[simp] theorem Node.contents_wrote (n : Node) (stmt : Statement) :
    (n.wrote stmt).contents = (n.contents.apply stmt).2 := rfl

theorem Node.Clear.wrote {n : Node} (h : n.Clear) (stmt : Statement) : (n.wrote stmt).Clear := h

theorem Node.failWrites_wrote (n : Node) (stmt : Statement) :
    (n.wrote stmt).faults.failWrites = n.faults.failWrites := rfl

/-- A clear path that takes writes runs every write on the store. -/
theorem Node.guardedWrite_clear {n : Node} (h : n.Clear) (hw : n.faults.failWrites = false)
    (stmt : Statement) : n.guardedWrite stmt = (.ok (n.contents.apply stmt).1, n.wrote stmt) := by
  simp [guardedWrite, admitWrite, h.1, hw, write, wrote]

namespace Cluster

theorem write_clear (c : Cluster) (s : Side) (h : (c.node s).Clear) (hw : (c.node s).faults.failWrites = false)
    (stmt : Statement) :
    c.write s stmt = (.ok ((c.node s).contents.apply stmt).1, c.setNode s ((c.node s).wrote stmt)) := by
  simp [write, onNode, Node.guardedWrite_clear h hw]

/-- A read through a clear path answers at once with the store's rows. -/
theorem lookup_clear (c : Cluster) (s : Side) (q : Query) (h : (c.node s).Clear) :
    c.lookup s q = (.rows ((c.node s).read q), c.counted s) := by
  simp [lookup, onNode, Node.admitRead_clear h, read, counted]

end Cluster

end Access

/-! ## One repair -/

/-- What a repair with `base` authoritative needs of its paths: both clear, and the copy's
path taking writes. Then no store call of a repair fails or waits. -/
structure RepairPaths (c : Cluster) (base : Side) : Prop where
  authoritative : (c.node base).Clear
  copy : (c.node base.opposite).Clear
  copyWrites : (c.node base.opposite).faults.failWrites = false

/-- The statement repairing id `i` runs on the copy when the base's rows are `B`: the base's
record written over the copy, or a delete when the base has no row with the id. -/
def syncStatement (table : String) (B : Table) (i : Int64) : Statement :=
  match (Table.find? i B).bind fun row => (recordOf row).toOption with
  | some r => .upsert table (rowOf r)
  | none => .delete table i

/-- `c'` is `c` after repairs ran `stmts` on the copy, in order: the base's rows, the clock and the
bus are as they were, and both paths as clear as before. -/
structure RepairedBy (base : Side) (c : Cluster) (stmts : List Statement) (c' : Cluster) : Prop where
  paths : RepairPaths c' base
  baseRows : (c'.node base).contents = (c.node base).contents
  targetRows : (c'.node base.opposite).contents = (c.node base.opposite).contents.applyAll stmts
  bus : c'.bus = c.bus
  now : c'.now = c.now

namespace RepairedBy

variable {base : Side} {c c1 c2 : Cluster} {s1 s2 : List Statement}

theorem refl (hp : RepairPaths c base) : RepairedBy base c [] c := ⟨hp, rfl, rfl, rfl, rfl⟩

/-- Repairs one after the other run their statements one after the other. -/
theorem trans (h1 : RepairedBy base c s1 c1) (h2 : RepairedBy base c1 s2 c2) :
    RepairedBy base c (s1 ++ s2) c2 :=
  ⟨h2.paths, h2.baseRows.trans h1.baseRows,
    by rw [h2.targetRows, h1.targetRows, Contents.applyAll, Contents.applyAll, Contents.applyAll,
      List.foldl_append],
    h2.bus.trans h1.bus, h2.now.trans h1.now⟩

end RepairedBy

namespace RepairPaths

variable {c : Cluster} {base : Side}

/-- A write on the copy through paths fit for repair. -/
theorem written (hp : RepairPaths c base) (stmt : Statement) :
    RepairedBy base c [stmt] (c.setNode base.opposite ((c.node base.opposite).wrote stmt)) := by
  refine ⟨⟨?_, ?_, ?_⟩, ?_, ?_, ?_, ?_⟩
  · simpa using hp.authoritative
  · simpa using hp.copy.wrote _
  · simpa [Node.failWrites_wrote] using hp.copyWrites
  · simp
  · simp [Contents.applyAll]
  · simp
  · simp

/-- A read of the base keeps the paths fit for repair. -/
theorem counted (hp : RepairPaths c base) : RepairPaths (c.counted base) base := by
  refine ⟨?_, ?_, ?_⟩
  · simpa [Cluster.counted] using hp.authoritative.counted
  · simpa [Cluster.counted] using hp.copy
  · simpa [Cluster.counted] using hp.copyWrites

end RepairPaths

/-- A repair after a read of the base is a repair from before the read. -/
theorem RepairedBy.of_counted {base : Side} {c c' : Cluster} {stmts : List Statement}
    (h : RepairedBy base (c.counted base) stmts c') : RepairedBy base c stmts c' :=
  ⟨h.paths, by simpa [Cluster.counted] using h.baseRows, by simpa [Cluster.counted] using h.targetRows,
    by simpa using h.bus, by simpa using h.now⟩

namespace RepairJob

variable {j : RepairJob} {c : Cluster} {base : Side}

/-- Deleting the copy through paths fit for repair. -/
theorem remove_repaired (hp : RepairPaths c base) (id : Int64) :
    (j.remove c base.opposite id).1 = j.answer (.ok (some .deleted)) ∧
      RepairedBy base c [.delete j.table id] (j.remove c base.opposite id).2 := by
  rw [remove, Cluster.write_clear c _ hp.copy hp.copyWrites]
  exact ⟨rfl, hp.written _⟩

/-- Overriding the copy with the base's row with the id, or deleting it when there is none; it
answers `deleted` or `upserted` accordingly. -/
theorem override_repaired (hp : RepairPaths c base) (id : Int64)
    (hrec : ∀ row, Table.find? id ((c.node base).contents.table j.table) = some row →
      ∃ r, recordOf row = .ok r) :
    (j.override c base.opposite id (Table.find? id ((c.node base).contents.table j.table)).toList).1 =
        j.answer (.ok (some (if Table.find? id ((c.node base).contents.table j.table) = none
          then .deleted else .upserted))) ∧
      RepairedBy base c [syncStatement j.table ((c.node base).contents.table j.table) id]
        (j.override c base.opposite id (Table.find? id ((c.node base).contents.table j.table)).toList).2 := by
  cases hfind : Table.find? id ((c.node base).contents.table j.table) with
  | none =>
    have hstmt : syncStatement j.table ((c.node base).contents.table j.table) id = .delete j.table id := by
      simp [syncStatement, hfind]
    rw [hstmt]
    exact remove_repaired hp id
  | some row =>
    obtain ⟨r, hr⟩ := hrec row hfind
    have hstmt : syncStatement j.table ((c.node base).contents.table j.table) id =
        .upsert j.table (rowOf r) := by
      simp [syncStatement, hfind, hr]
      rfl
    rw [hstmt]
    simp only [Option.toList_some, override, hr, Cluster.write_clear c _ hp.copy hp.copyWrites]
    exact ⟨rfl, hp.written _⟩

/-- A repair with `base` authoritative through paths fit for repair brings the copy's row in line
with the base: a drift of a row the base lacks deletes the copy, any other reads the base's row. -/
theorem fix_repaired (hp : RepairPaths c base) (d : Drift)
    (hkind : d.kind = .baseMissing → Table.find? d.id ((c.node base).contents.table j.table) = none)
    (hrec : ∀ row, Table.find? d.id ((c.node base).contents.table j.table) = some row →
      ∃ r, recordOf row = .ok r) :
    (j.fix c base d).1 = j.answer (.ok (some (if Table.find? d.id ((c.node base).contents.table j.table) = none
        then .deleted else .upserted))) ∧
      RepairedBy base c [syncStatement j.table ((c.node base).contents.table j.table) d.id]
        (j.fix c base d).2 := by
  have hcounted : ((c.counted base).node base).contents = (c.node base).contents := by
    simp [Cluster.counted]
  have hread : (c.node base).read (.byId j.table d.id) =
      (Table.find? d.id ((c.node base).contents.table j.table)).toList := rfl
  -- a row missing from the base is deleted without a read; otherwise the base is read first
  have hsync : (j.override (c.counted base) base.opposite d.id
        (Table.find? d.id ((c.node base).contents.table j.table)).toList).1 =
        j.answer (.ok (some (if Table.find? d.id ((c.node base).contents.table j.table) = none
          then .deleted else .upserted))) ∧
      RepairedBy base c [syncStatement j.table ((c.node base).contents.table j.table) d.id]
        (j.override (c.counted base) base.opposite d.id
          (Table.find? d.id ((c.node base).contents.table j.table)).toList).2 := by
    have h := override_repaired (j := j) hp.counted d.id (by rw [hcounted]; exact hrec)
    rw [hcounted] at h
    exact ⟨h.1, h.2.of_counted⟩
  cases hk : d.kind with
  | baseMissing =>
    have hstmt : syncStatement j.table ((c.node base).contents.table j.table) d.id = .delete j.table d.id := by
      simp [syncStatement, hkind hk]
    rw [hstmt, hkind hk, if_pos rfl]
    simp only [fix, hk]
    exact remove_repaired hp d.id
  | targetMissing =>
    simp only [fix, hk, Cluster.lookup_clear c base _ hp.authoritative, hread]
    exact hsync
  | neq =>
    simp only [fix, hk, Cluster.lookup_clear c base _ hp.authoritative, hread]
    exact hsync

/-- The message a run posts for a drift on a topic. -/
def driftMessage (topic : String) (d : Drift) : Work := .message ⟨topic, d.encode.toUTF8.toList⟩

/-- What a repair of drift `d` needs of the base's rows `B`: it was found with `base`
authoritative, a row the base lacks is reported missing from the base and no other way, and
the base's row with its id, if any, reads as a record. -/
structure Repairable (base : Side) (B : Table) (d : Drift) : Prop where
  side : d.side = base
  missing : d.kind = .baseMissing → Table.find? d.id B = none
  reads : ∀ row, Table.find? d.id B = some row → ∃ r, recordOf row = .ok r

/-- A finished job does nothing more. -/
theorem run_finished {j : RepairJob} (h : j.finished = true) (fuel : Nat) (c : Cluster) :
    run fuel j c = (j, c) := by
  cases fuel with
  | zero => rfl
  | succ fuel => simp [run, ready, h]

/-- A job whose work is the messages of drifts, through paths fit for repair, repairs each drift
in turn and then finishes: by induction on the drifts left. -/
theorem run_drifts (base : Side) (B : Table) :
    ∀ (ds : List Drift) (fuel : Nat) (j : RepairJob) (c : Cluster),
      j.queue = ds.map (driftMessage j.topic) → j.held = none → j.finished = false →
      RepairPaths c base → (c.node base).contents.table j.table = B → (∀ d ∈ ds, Repairable base B d) →
      ds.length < fuel →
      (run fuel j c).1.finished = true ∧
        RepairedBy base c (ds.map fun d => syncStatement j.table B d.id) (run fuel j c).2 := by
  intro ds
  induction ds with
  | nil =>
    intro fuel j c hq hheld hfin hp _ _ hlen
    obtain ⟨fuel, rfl⟩ : ∃ f, fuel = f + 1 := ⟨fuel - 1, by simp at hlen; omega⟩
    have hready : j.ready c = true := by simp [ready, hfin, hheld]
    have hstep : j.step c = ({ j with finished := true }, c) := by simp [step, hheld, hq]
    rw [run, if_pos hready, hstep]
    simp only
    rw [run_finished rfl]
    exact ⟨rfl, RepairedBy.refl hp⟩
  | cons d ds ih =>
    intro fuel j c hq hheld hfin hp hB hds hlen
    obtain ⟨fuel, rfl⟩ : ∃ f, fuel = f + 1 := ⟨fuel - 1, by simp at hlen; omega⟩
    obtain ⟨hside, hmissing, hreads⟩ := hds d List.mem_cons_self
    have hready : j.ready c = true := by simp [ready, hfin, hheld]
    -- the first message is decoded and repaired with its own side authoritative
    set j1 : RepairJob := { j with queue := ds.map (driftMessage j.topic) }
    obtain ⟨hfix, hrep⟩ := fix_repaired (j := j1) hp d (by rw [hB]; exact hmissing) (by rw [hB]; exact hreads)
    obtain ⟨a, hfix⟩ : ∃ a, (j1.fix c base d).1 = j1.answer a := ⟨_, hfix⟩
    have hstep : j.step c = j1.fix c base d := by
      simp only [step, hheld, hq, List.map_cons, driftMessage, handle, bne_self_eq_false,
        Bool.false_eq_true, if_false, Drift.decode_encode, hside]
      rfl
    -- the job goes on with the other drifts from the repaired cluster
    obtain ⟨hfin', hrest⟩ := ih fuel (j1.answer a) (j1.fix c base d).2 rfl rfl hfin hrep.paths
      (by rw [hrep.baseRows]; exact hB) (fun x hx => hds x (List.mem_cons_of_mem _ hx))
      (by simp only [List.length_cons] at hlen; omega)
    have hrun : run (fuel + 1) j c = run fuel (j1.answer a) (j1.fix c base d).2 := by
      rw [run, if_pos hready, hstep, ← hfix]
    rw [hrun]
    refine ⟨hfin', ?_⟩
    have hfirst := hrep
    rw [show j1.table = j.table from rfl, hB] at hfirst
    exact hfirst.trans hrest

end RepairJob

/-! ## The copy after repairs -/

/-- The row a repair of id `i` leaves on the copy when the base's rows are `B`: the base's record
there, re-encoded, or none. -/
def syncedRow (B : Table) (i : Int64) : Option Row :=
  ((Table.find? i B).bind fun row => (recordOf row).toOption).map rowOf

/-- Every row of `B` that reads as a record carries the record's id. -/
def RecordIds (B : Table) : Prop := ∀ row ∈ B, ∀ r, recordOf row = .ok r → r.id = row.id

section Sync

variable {B : Table} (hB : RecordIds B) (tbl : String)
include hB

/-- A repair of id `i` sets the copy's row `i` to the base's and leaves every other id as it was. -/
theorem find?_sync (K : Contents) (i j : Int64) :
    Table.find? j (((K.apply (syncStatement tbl B i)).2).table tbl) =
      if i = j then syncedRow B i else Table.find? j (K.table tbl) := by
  unfold syncStatement syncedRow
  cases h : (Table.find? i B).bind fun row => (recordOf row).toOption with
  | none =>
    simp only [Contents.table_apply_delete, if_true, Table.find?_erase, Option.map_none]
  | some r =>
    obtain ⟨row, hrow, hr⟩ := Option.bind_eq_some_iff.mp h
    have hrec : recordOf row = .ok r := by
      cases hrr : recordOf row <;> simp_all [Except.toOption]
    obtain ⟨hmem, hid⟩ := Table.find?_some hrow
    have hrid : (rowOf r).id = i := by rw [← hid, ← hB row hmem r hrec]; rfl
    simp only [Contents.table_apply_upsert, if_true, Table.find?_upsert, hrid, Option.map_some]

/-- Repairs of the ids `ids`, in any order, set the copy's rows at those ids to the base's and
leave every other id as it was: by induction on the ids. -/
theorem find?_syncAll (j : Int64) :
    ∀ (ids : List Int64) (K : Contents),
      Table.find? j ((K.applyAll (ids.map (syncStatement tbl B))).table tbl) =
        if j ∈ ids then syncedRow B j else Table.find? j (K.table tbl) := by
  intro ids
  induction ids with
  | nil => intro K; simp [Contents.applyAll]
  | cons i ids ih =>
    intro K
    have hstep : K.applyAll ((i :: ids).map (syncStatement tbl B)) =
        (K.apply (syncStatement tbl B i)).2.applyAll (ids.map (syncStatement tbl B)) := rfl
    rw [hstep, ih, find?_sync hB]
    by_cases hj : j ∈ ids
    · simp [hj]
    · by_cases hij : i = j
      · subst hij; simp
      · have : j ≠ i := fun h => hij h.symm
        simp [hj, hij, this]

end Sync

/-! ## Repairing what a full pass finds -/

section Drifts

variable {side : Side} {B T : Table}

/-- A base row with a drift has its id among the drifts of the base rows. -/
theorem id_mem_forwardDrifts {row : Row} (hrow : row ∈ B) {k : DriftKind} (hk : baseRowDrift T row = some k) :
    row.id ∈ (forwardDrifts side B T).map (·.id) :=
  List.mem_map.mpr ⟨⟨row.id, side, k⟩, List.mem_filterMap.mpr ⟨row, hrow, by simp [hk]⟩, rfl⟩

/-- A copy row whose id the base lacks has its id among the drifts of the copy's rows. -/
theorem id_mem_backwardDrifts {row : Row} (hrow : row ∈ T) (hnone : Table.find? row.id B = none) :
    row.id ∈ (backwardDrifts side T B).map (·.id) := by
  simp only [backwardDrifts, List.map_map, List.mem_map, List.mem_filter]
  exact ⟨row, ⟨hrow, by simp [hnone]⟩, rfl⟩

/-- Every drift a full pass reports can be repaired from the base, when the base's rows read. -/
theorem repairable_of_mem (hreads : ∀ row ∈ B, ∃ r, recordOf row = .ok r) {d : Drift}
    (hd : d ∈ forwardDrifts side B T ++ backwardDrifts side T B) : RepairJob.Repairable side B d := by
  have hfound : ∀ row, Table.find? d.id B = some row → ∃ r, recordOf row = .ok r :=
    fun row hrow => hreads row (Table.find?_some hrow).1
  rcases List.mem_append.mp hd with hd | hd
  · obtain ⟨row, -, hmap⟩ := List.mem_filterMap.mp hd
    obtain ⟨k, hk, rfl⟩ := Option.map_eq_some_iff.mp hmap
    refine ⟨rfl, fun hkind => ?_, hfound⟩
    exact absurd (hkind ▸ hk) (baseRowDrift_ne_baseMissing T row)
  · simp only [backwardDrifts, List.mem_map, List.mem_filter, Option.isNone_iff_eq_none] at hd
    obtain ⟨row, ⟨-, hnone⟩, rfl⟩ := hd
    exact ⟨rfl, fun _ => hnone, fun r h => by simp_all⟩

end Drifts

/-! ## The copy converges on the base -/

/-- A readable base row has no drift exactly when the copy holds, at its id, a record equal to it. -/
theorem baseRowDrift_eq_none {T : Table} {row : Row} {r : Record} (hr : recordOf row = .ok r) :
    baseRowDrift T row = none ↔
      ∃ t u, Table.find? row.id T = some t ∧ recordOf t = .ok u ∧ r.matches u = true := by
  unfold baseRowDrift
  rw [hr]
  cases ht : Table.find? row.id T with
  | none => simp
  | some t =>
    cases hu : recordOf t with
    | error e => simp [hu]
    | ok u => by_cases hm : r.matches u <;> simp [hu, hm]

/-- A base row's drift reads only the copy's row with its id. -/
theorem baseRowDrift_congr {T T' : Table} {row : Row} (h : Table.find? row.id T = Table.find? row.id T') :
    baseRowDrift T row = baseRowDrift T' row := by
  unfold baseRowDrift
  rw [h]

/-- A record written as a row reads back as an equal record. -/
theorem recordOf_rowOf {r : Record} (hn : r.Normal) (hback : r.DoublesReadBack) :
    ∃ r', recordOf (rowOf r) = .ok r' ∧ r.matches r' = true := by
  obtain ⟨r', hdec, hm, -⟩ := Record.decode_encode hn hback
  refine ⟨r', ?_, hm⟩
  unfold recordOf rowOf
  rw [hdec]

/-- Every base row reads as a record that carries the row's id and whose doubles read back. -/
def BaseReadable (B : Table) : Prop :=
  ∀ row ∈ B, ∃ r, recordOf row = .ok r ∧ r.id = row.id ∧ r.DoublesReadBack

section Converge

variable {side : Side} {B T : Table}

theorem BaseReadable.recordIds (h : BaseReadable B) : RecordIds B := by
  intro row hrow r hr
  obtain ⟨r', hr', hid, -⟩ := h row hrow
  rw [hr] at hr'
  cases hr'
  exact hid

theorem BaseReadable.reads (h : BaseReadable B) : ∀ row ∈ B, ∃ r, recordOf row = .ok r :=
  fun row hrow => (h row hrow).imp fun _ hr => hr.1

/-- The row a repair leaves at a base row's id is the base's record, re-encoded. -/
theorem syncedRow_of_mem (hB : B.Sorted) {row : Row} {r : Record} (hrow : row ∈ B)
    (hr : recordOf row = .ok r) : syncedRow B row.id = some (rowOf r) := by
  simp [syncedRow, Table.find?_of_mem hB hrow, hr, Except.toOption]

/-- When a full pass finds no drift, every base row has a copy row with its id holding an equal
record. -/
theorem rows_match_of_no_drifts (hreads : ∀ row ∈ B, ∃ r, recordOf row = .ok r)
    (hfwd : forwardDrifts side B T = []) :
    ∀ row ∈ B, ∃ t r u, Table.find? row.id T = some t ∧ recordOf row = .ok r ∧ recordOf t = .ok u ∧
      r.matches u = true := by
  intro row hrow
  obtain ⟨r, hr⟩ := hreads row hrow
  have hnone : baseRowDrift T row = none := by
    simpa using List.filterMap_eq_nil_iff.mp hfwd row hrow
  obtain ⟨t, u, ht, hu, hm⟩ := (baseRowDrift_eq_none hr).mp hnone
  exact ⟨t, r, u, ht, hr, hu, hm⟩

/-- When a full pass finds no drift, the copy holds exactly the base's ids. -/
theorem ids_eq_of_no_drifts (hB : B.Sorted) (hT : T.Sorted) (hreads : ∀ row ∈ B, ∃ r, recordOf row = .ok r)
    (hfwd : forwardDrifts side B T = []) (hbwd : backwardDrifts side T B = []) :
    T.map (·.id) = B.map (·.id) := by
  apply Table.ids_eq_of_find? hT hB
  intro id
  cases hb : Table.find? id B with
  | some row =>
    -- a base row matches a copy row with its id
    obtain ⟨hmem, rfl⟩ := Table.find?_some hb
    obtain ⟨t, -, -, ht, -⟩ := rows_match_of_no_drifts hreads hfwd row hmem
    simp [ht]
  | none =>
    -- a copy row the base lacks would be a drift
    cases ht : Table.find? id T with
    | none => rfl
    | some t =>
      obtain ⟨hmem, rfl⟩ := Table.find?_some ht
      have hdrift : t.id ∈ (backwardDrifts side T B).map (·.id) := id_mem_backwardDrifts hmem hb
      simp [hbwd] at hdrift

variable (tbl : String) {order : List Drift}

/-- Repairs of the ids of some drifts, in any order, set the copy's rows at those ids to the
base's and leave the rest. -/
theorem find?_repaired (hB : RecordIds B) (K : Contents) (j : Int64) :
    Table.find? j ((K.applyAll (order.map fun d => syncStatement tbl B d.id)).table tbl) =
      if j ∈ order.map (·.id) then syncedRow B j else Table.find? j (K.table tbl) := by
  have hmap : order.map (fun d => syncStatement tbl B d.id) = (order.map (·.id)).map (syncStatement tbl B) := by
    simp [Function.comp_def]
  rw [hmap, find?_syncAll hB]

variable (horder : order.Perm (forwardDrifts side B T ++ backwardDrifts side T B))
include horder

theorem mem_ids_of_drift {i : Int64}
    (h : i ∈ (forwardDrifts side B T).map (·.id) ∨ i ∈ (backwardDrifts side T B).map (·.id)) :
    i ∈ order.map (·.id) :=
  (horder.map (·.id)).mem_iff.mpr (by rw [List.map_append, List.mem_append]; exact h)

/-- Repairing every drift a full pass reports leaves no base row drifting. -/
theorem forwardDrifts_repaired (hB : B.Sorted) (hrows : BaseReadable B) (K : Contents) (hK : K.table tbl = T) :
    forwardDrifts side B ((K.applyAll (order.map fun d => syncStatement tbl B d.id)).table tbl) = [] := by
  apply List.filterMap_eq_nil_iff.mpr
  intro row hrow
  obtain ⟨r, hr, -, hback⟩ := hrows row hrow
  rw [Option.map_eq_none_iff]
  by_cases hj : row.id ∈ order.map (·.id)
  · -- a repaired id now holds the base's record, which reads back equal
    obtain ⟨r', hr', hm⟩ := recordOf_rowOf (recordOf_normal hr) hback
    refine (baseRowDrift_eq_none hr).mpr ⟨rowOf r, r', ?_, hr', hm⟩
    rw [find?_repaired tbl hrows.recordIds, if_pos hj, syncedRow_of_mem hB hrow hr]
  · -- an id left alone did not drift before
    have hsame : Table.find? row.id
        ((K.applyAll (order.map fun d => syncStatement tbl B d.id)).table tbl) = Table.find? row.id T := by
      rw [find?_repaired tbl hrows.recordIds, if_neg hj, hK]
    rw [baseRowDrift_congr hsame]
    cases hk : baseRowDrift T row with
    | none => rfl
    | some k => exact absurd (mem_ids_of_drift horder (.inl (id_mem_forwardDrifts hrow hk))) hj

/-- Repairing every drift a full pass reports leaves no copy row the base lacks. -/
theorem backwardDrifts_repaired (hT : T.Sorted) (hrows : BaseReadable B) (K : Contents) (hK : K.table tbl = T) :
    backwardDrifts side ((K.applyAll (order.map fun d => syncStatement tbl B d.id)).table tbl) B = [] := by
  have hsorted := Contents.sorted_table_applyAll (hK ▸ hT) (order.map fun d => syncStatement tbl B d.id)
  simp only [backwardDrifts, List.map_eq_nil_iff, List.filter_eq_nil_iff, Option.isNone_iff_eq_none]
  intro t ht hnone
  have hfind := Table.find?_of_mem hsorted ht
  rw [find?_repaired tbl hrows.recordIds] at hfind
  split_ifs at hfind with hj
  · -- a repaired id holds a row only when the base has one
    simp [syncedRow, hnone] at hfind
  · -- a row left alone that the base lacks was reported
    rw [hK] at hfind
    exact hj (mem_ids_of_drift horder (.inr (id_mem_backwardDrifts (Table.find?_some hfind).1 hnone)))

end Converge

/-! ## Repairs run as part of the caller -/

namespace World

/-- The job `repairAll` runs for some work. -/
def repairJob (w : World) (work : List Work) : RepairJob :=
  { table := w.settings.table, topic := w.settings.topic, queue := work }

/-- A task run as part of the caller on a timeline with no other task, when one poll finishes it
and cancels nothing: the caller gets the polled task back, and the timeline keeps the cluster the
poll left, no task, and the task's number used up. -/
theorem perform_solo (w : World) (t : Task) (hsolo : w.tl.tasks = [])
    (hready : t.ready (w.tl.isCancelled w.tl.nextId) w.tl.cluster = true) (hbusy : t.finished = false)
    (hdone : (t.poll (w.tl.isCancelled w.tl.nextId) w.tl.cluster).1.finished = true)
    (hquiet : (t.poll (w.tl.isCancelled w.tl.nextId) w.tl.cluster).2.2 = none) :
    w.perform t = (some (t.poll (w.tl.isCancelled w.tl.nextId) w.tl.cluster).1,
      { w with
        tl := { w.tl with
          cluster := (t.poll (w.tl.isCancelled w.tl.nextId) w.tl.cluster).2.1
          tasks := []
          nextId := w.tl.nextId + 1 } }) := by
  rcases hp : t.poll (w.tl.isCancelled w.tl.nextId) w.tl.cluster with ⟨t', c', v⟩
  rw [hp] at hdone hquiet
  cases hquiet
  simp only [perform, Timeline.perform, Timeline.spawn, hsolo, List.nil_append]
  set tl1 : Timeline :=
    { cluster := w.tl.cluster
      tasks := [⟨w.tl.nextId, t, true⟩]
      nextId := w.tl.nextId + 1
      cancelled := w.tl.cancelled } with htl1
  have hcancel : tl1.isCancelled w.tl.nextId = w.tl.isCancelled w.tl.nextId := rfl
  -- the task is the only one: it is picked, polled once, and is then over
  have hpick : tl1.pick = some w.tl.nextId := by
    simp [Timeline.pick, Timeline.canAct, tl1, hcancel, hready]
  have hpoll : tl1.pollTask w.tl.nextId = { tl1 with cluster := c', tasks := [⟨w.tl.nextId, t', true⟩] } := by
    simp [Timeline.pollTask, tl1, hcancel, hp]
  have hfinished : (tl1.pollTask w.tl.nextId).finished w.tl.nextId = true := by
    simp [hpoll, Timeline.finished, Timeline.task?, hdone]
  have hawait : tl1.await w.tl.nextId = tl1.pollTask w.tl.nextId := by
    have hnot : tl1.finished w.tl.nextId = false := by
      simp [Timeline.finished, Timeline.task?, tl1, hbusy]
    simp only [Timeline.await, Timeline.awaitWithin, hnot, Bool.false_eq_true, if_false]
    rw [show waitBudget = (waitBudget - 1) + 1 from rfl, Timeline.awaitLoop, hpick]
    simp [tl1, hfinished]
  rw [hawait, hpoll]
  simp [Timeline.task?, Timeline.remove, tl1]

/-- Repairs run as part of the caller on a timeline with no other task are one poll of the
job, when that poll finishes it: the job runs, the timeline keeps only its clock, and the job's
number is used up. -/
theorem repairAll_solo (w : World) (work : List Work) (hsolo : w.tl.tasks = [])
    (hrun : (RepairJob.run (w.repairJob work).pending (w.repairJob work) w.cluster).1.finished = true) :
    (w.repairAll work).2 =
      { w with
        tl := { w.tl with
          cluster := (RepairJob.run (w.repairJob work).pending (w.repairJob work) w.cluster).2
          tasks := []
          nextId := w.tl.nextId + 1 } } := by
  have h := perform_solo w (.repair (w.repairJob work)) hsolo rfl rfl hrun rfl
  unfold repairAll
  rw [show ({ table := w.settings.table, topic := w.settings.topic, queue := work } : RepairJob) =
    w.repairJob work from rfl, h]
  rfl

/-- Repairing, as part of the caller, every drift a full pass from `d.base` posts, in any order,
makes the copy converge on the base: the copy then holds exactly the base's ids, each with a
record equal to the base's, and a second full pass posts nothing. The base's rows read as records
that carry their ids, and the doubles in them read back; both paths are clear and the copy takes
writes. -/
theorem repairAll_converges (w : World) (d : DirectRun) {B T : Table} (sent : List Message)
    (hBrows : (w.cluster.node d.base).contents.table w.settings.table = B)
    (hTrows : (w.cluster.node d.base.opposite).contents.table w.settings.table = T)
    (hB : B.Sorted) (hT : T.Sorted) (hrows : BaseReadable B) (hpaths : RepairPaths w.cluster d.base)
    (hsolo : w.tl.tasks = []) :
    let plan := w.plan d.base (w.directConfig d)
    sent.Perm ((forwardDrifts d.base B T).map plan.post ++ (backwardDrifts d.base T B).map plan.post) →
    let w' := (w.repairAll (sent.map .message)).2
    let T' := (w'.cluster.node d.base.opposite).contents.table w.settings.table
    T'.map (·.id) = B.map (·.id) ∧
    (∀ row ∈ B, ∃ t r u, Table.find? row.id T' = some t ∧ recordOf row = .ok r ∧ recordOf t = .ok u ∧
      r.matches u = true) ∧
    (d.tail = none → d.cancelFirst = false → (∀ k, w.tl.nextId ≤ k → w.tl.isCancelled k = false) →
      0 < (w.directConfig d).batchSize → 0 < (w.directConfig d).lookupTimeoutMs →
      w.cluster.bus.TicketsIssued →
      (w'.validateDirect d).1 = passReport d.base B T' 0 ∧
      (w'.validateDirect d).2.2.cluster.bus.queue = w'.cluster.bus.queue) := by
  intro plan hsent w' T'
  -- the messages are those of the drifts, in some order
  obtain ⟨order, rfl, horder⟩ :=
    (congrFun (congrFun (List.eq_map_comp_perm plan.post) sent) _).mpr (by rwa [List.map_append])
  -- the job repairs each drift in turn and finishes within one poll
  have hlen : order.length < (w.repairJob ((order.map plan.post).map .message)).pending := by
    simp only [RepairJob.pending, repairJob, List.length_map, Option.isSome_none,
      Bool.false_eq_true, if_false]
    omega
  have hqueue : (w.repairJob ((order.map plan.post).map .message)).queue =
      order.map (RepairJob.driftMessage (w.repairJob ((order.map plan.post).map .message)).topic) := by
    simp only [repairJob, List.map_map]
    rfl
  obtain ⟨hfin, hrep⟩ := RepairJob.run_drifts d.base B order _ _ w.cluster hqueue rfl rfl hpaths
    hBrows (fun x hx => repairable_of_mem hrows.reads (horder.mem_iff.mp hx)) hlen
  -- the repaired world is the old one with the job's cluster
  set c' := (RepairJob.run (w.repairJob ((order.map plan.post).map .message)).pending
    (w.repairJob ((order.map plan.post).map .message)) w.cluster).2
  have hw' : w' = { w with tl := { w.tl with cluster := c', tasks := [], nextId := w.tl.nextId + 1 } } :=
    repairAll_solo w _ hsolo hfin
  have hT'rows : (c'.node d.base.opposite).contents.table w.settings.table = T' := by
    simp only [T', hw']
    rfl
  have hT' : T' = ((w.cluster.node d.base.opposite).contents.applyAll
      (order.map fun x => syncStatement w.settings.table B x.id)).table w.settings.table := by
    rw [← hT'rows, hrep.targetRows]
    rfl
  clear_value T' w'
  have hfwd : forwardDrifts d.base B T' = [] :=
    hT' ▸ forwardDrifts_repaired _ horder hB hrows _ hTrows
  have hbwd : backwardDrifts d.base T' B = [] :=
    hT' ▸ backwardDrifts_repaired _ horder hT hrows _ hTrows
  have hsorted : T'.Sorted := hT' ▸ Contents.sorted_table_applyAll (hTrows ▸ hT) _
  have hids := ids_eq_of_no_drifts hB hsorted hrows.reads hfwd hbwd
  refine ⟨hids, rows_match_of_no_drifts hrows.reads hfwd, ?_⟩
  intro hfull hnocancel hfresh hbatch hlimit hissued
  -- the second pass reads the base as it was and the repaired copy, and finds nothing to post
  have hreads : Reads (w'.plan d.base (w'.directConfig d)) B T' w'.cluster := by
    rw [hw']
    exact ⟨hrep.paths.authoritative, hrep.paths.copy, hrep.baseRows ▸ hBrows, hT'rows⟩
  have hsame : T'.length = B.length := by simpa using congrArg List.length hids
  obtain ⟨sent', hreport, hqueue', hperm, -⟩ := validateDirect_full_pass w' d hfull hnocancel
    (by rw [hw']) (by rw [hw']; exact hfresh _ (Nat.le_succ _)) hreads hB hsorted
    (by rw [hw']; exact hbatch) (by rw [hw']; exact hlimit) (by rw [hw']; exact hrep.bus ▸ hissued)
  rw [hfwd, hbwd, List.map_nil, List.append_nil, List.perm_nil] at hperm
  subst hperm
  exact ⟨by simpa using hreport, by simpa using hqueue'⟩

/-- The source holds records 1 and 2; the destination holds an unreadable row 2 and a record
3. Repairing the three drifts, handed over in reverse order, leaves the destination with ids 1
and 2, and a full pass over it then finds nothing. -/
theorem repairAll_converges_drifted :
    let src : Contents := Contents.empty.applyAll
      [.upsert "records" (rowOf (.new 1 5)), .upsert "records" (rowOf (.new 2 5))]
    let dst : Contents := Contents.empty.applyAll
      [.upsert "records" ⟨2, 7, [0]⟩, .upsert "records" (rowOf (.new 3 5))]
    let w := (World.create {} 0).setCluster
      { src := { side := .src, contents := src }, dst := { side := .dst, contents := dst } }
    let d : DirectRun := { base := .src }
    let plan := w.plan d.base (w.directConfig d)
    let B := src.table "records"
    let T := dst.table "records"
    let sent := ((forwardDrifts d.base B T).map plan.post ++
      (backwardDrifts d.base T B).map plan.post).reverse
    let w' := (w.repairAll (sent.map .message)).2
    let T' := (w'.cluster.node d.base.opposite).contents.table w.settings.table
    sent.length = 3 ∧ T'.map (·.id) = [1, 2] ∧
    (w'.validateDirect d).1 = passReport d.base B T' 0 ∧
    (w'.validateDirect d).2.2.cluster.bus.queue = w'.cluster.bus.queue := by
  intro src dst w d plan B T sent
  have hB : B = [rowOf (.new 1 5), rowOf (.new 2 5)] := by decide +kernel
  have hnew (i : Int64) : ∃ r, recordOf (rowOf (.new i 5)) = .ok r ∧ r.id = (rowOf (.new i 5)).id ∧
      r.DoublesReadBack :=
    ⟨_, Record.recordOf_rowOf_new i 5, rfl, fun _ h => nomatch h⟩
  have hreadable : BaseReadable B := by
    rw [hB]
    intro row hrow
    simp only [List.mem_cons, List.not_mem_nil, or_false] at hrow
    rcases hrow with rfl | rfl
    · exact hnew 1
    · exact hnew 2
  have h := repairAll_converges w d (B := B) (T := T) sent rfl rfl
    (Contents.ordered_applyAll Contents.ordered_empty _ _)
    (Contents.ordered_applyAll Contents.ordered_empty _ _) hreadable
    ⟨⟨rfl, rfl, rfl, rfl⟩, ⟨rfl, rfl, rfl, rfl⟩, rfl⟩ rfl (List.reverse_perm _)
  have hpass := h.2.2 rfl rfl (fun _ _ => rfl) (by decide) (by decide)
    (fun _ h => by simp [w, World.setCluster, World.cluster, Bus.empty] at h)
  exact ⟨by decide +kernel, h.1.trans (by rw [hB]; rfl), hpass.1, hpass.2⟩

end World

end TableMigration
