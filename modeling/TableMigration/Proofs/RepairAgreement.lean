import TableMigration.Proofs.Convergence

/-!
# Proofs.RepairAgreement

What one repair does to the copy at the id of its drift, whatever faults the two paths carry.

A repair of a `targetMissing` or `neq` drift reads the base's row with the id and, in the same
action, writes that row's record over the copy, or deletes the copy's row when the base has none.
A read held back for a slow id is made when the job is woken, and the copy is written then.
What an override runs is stated once (`override_effect`): the sync statement of the id on the
copy, the base left alone. Either way, when the repair answers `Ok`, the copy agrees with the
base at the id (`AgreeAt`): it has a row there exactly when the base has one, and the two rows
read as matching records; and the answer is `deleted` exactly when the base has no row with the
id (`RepairJob.fix_restores_agreement`).

The row written is rebuilt from the record the base row holds, so it lands at the record's own
id. A base row whose record names another id leaves the copy's row at the drift's id as it was,
though the repair answers `upserted` (`RepairJob.fix_misplaced_record`); the agreement needs the
base row to name its own id (`RecordNamesId`). A `baseMissing` drift deletes the copy without
reading the base at all.
-/

namespace TableMigration

open TableMigration.Access TableMigration.Store

/-- The copy agrees with the base at `id` of table `tbl`: it holds a row with the id exactly when
the base does, and then the two rows read as matching records. -/
def Access.Cluster.AgreeAt (c : Cluster) (tbl : String) (base : Side) (id : Int64) : Prop :=
  (Table.find? id ((c.node base).contents.table tbl) = none ↔
      Table.find? id ((c.node base.opposite).contents.table tbl) = none) ∧
    ∀ b t, Table.find? id ((c.node base).contents.table tbl) = some b →
      Table.find? id ((c.node base.opposite).contents.table tbl) = some t →
      ∃ r u, recordOf b = .ok r ∧ recordOf t = .ok u ∧ r.matches u = true

/-- The row of `B` with id `id`, when it reads as a record, holds a record that names `id` and
whose doubles read back. -/
def RecordNamesId (B : Table) (id : Int64) : Prop :=
  ∀ row, Table.find? id B = some row → ∀ r, recordOf row = .ok r → r.id = id ∧ r.DoublesReadBack

/-! ## Calls through any path -/

namespace Access.Cluster

/-- A write the path let through ran its statement on that side's store and left the other side
as it was. -/
theorem write_ok {c c' : Cluster} {s : Side} {stmt : Statement} {k : Nat}
    (h : c.write s stmt = (.ok k, c')) :
    (c'.node s).contents = ((c.node s).contents.apply stmt).2 ∧ c'.node s.opposite = c.node s.opposite := by
  have hfst : ((c.node s).guardedWrite stmt).1 = .ok k := by rw [← write_fst, h]
  have hsnd : c' = c.setNode s ((c.node s).guardedWrite stmt).2 := by rw [← write_snd, h]
  subst hsnd
  refine ⟨?_, node_setNode_opposite _ _ _⟩
  rw [node_setNode_self, Node.contents_guardedWrite, hfst]
  rfl

/-- A read answered at once gives the rows of the store, which the read does not change. -/
theorem lookup_rows {c c' : Cluster} {s : Side} {q : Query} {rs : List Row}
    (h : c.lookup s q = (.rows rs, c')) :
    rs = (c'.node s).read q ∧ ∀ s', (c'.node s').contents = (c.node s').contents := by
  have hsnd : c' = c.setNode s ((c.node s).admitRead q).2 := by rw [← lookup_snd, h]
  have hnodes : ∀ s', (c'.node s').contents = (c.node s').contents := by
    intro s'
    subst hsnd
    cases s <;> cases s' <;> simp [setNode, node, Node.contents_admitRead]
  refine ⟨?_, hnodes⟩
  -- the rows are read from the store after the path counted the read
  rcases hadm : (c.node s).admitRead q with ⟨_ | ⟨_ | d⟩, n⟩ <;>
    simp [lookup, onNode, hadm] at h
  obtain ⟨rfl, rfl⟩ := h
  rfl

end Access.Cluster

/-! ## One repair -/

namespace RepairJob

variable {j : RepairJob} {c : Cluster} {base : Side} {id : Int64} {o : FixOutcome}

theorem answer_inj {a a' : Except FixError (Option FixOutcome)} (h : j.answer a = j.answer a') :
    a = a' := by
  simpa [answer] using congrArg RepairJob.answers h

/-- A job holding a read back has recorded no answer. -/
theorem held_ne_answer (x : Drift × Side × Nat) (a : Except FixError (Option FixOutcome)) :
    { j with held := some x } ≠ j.answer a := fun h => by
  simpa [answer] using congrArg RepairJob.held h

/-- A delete of the copy's row that answers `Ok` answered `deleted`, ran the delete on the copy
and left the other side alone. -/
theorem remove_effect {target : Side}
    (hok : (j.remove c target id).1 = j.answer (.ok (some o))) :
    o = .deleted ∧ ((j.remove c target id).2.node target).contents =
        ((c.node target).contents.apply (.delete j.table id)).2 ∧
      ((j.remove c target id).2.node target.opposite).contents = (c.node target.opposite).contents := by
  unfold remove at hok ⊢
  rcases hw : c.write target (.delete j.table id) with ⟨_ | k, c'⟩ <;> rw [hw] at hok <;>
    simp only at hok ⊢
  · cases answer_inj hok
  · obtain ⟨hcontents, hother⟩ := Cluster.write_ok hw
    exact ⟨by simpa using (answer_inj hok).symm, hcontents, by rw [hother]⟩

/-- Overriding the copy with the base's row at `id` that answers `Ok` ran the sync statement of
`id` on the copy, left the base alone, and answered `deleted` exactly when the base lacks the row;
the base's row there, if any, read as a record. -/
theorem override_effect
    (hok : (j.override c base.opposite id ((c.node base).read (.byId j.table id))).1 =
      j.answer (.ok (some o))) :
    let c' := (j.override c base.opposite id ((c.node base).read (.byId j.table id))).2
    let B := (c.node base).contents.table j.table
    (c'.node base).contents = (c.node base).contents ∧
      (c'.node base.opposite).contents = ((c.node base.opposite).contents.apply (syncStatement j.table B id)).2 ∧
      o = (if Table.find? id B = none then .deleted else .upserted) ∧
      ∀ row, Table.find? id B = some row → ∃ r, recordOf row = .ok r := by
  intro c' B
  have hread : (c.node base).read (.byId j.table id) = (Table.find? id B).toList := rfl
  simp only [c'] at ⊢
  rw [hread] at hok ⊢
  cases hfind : Table.find? id B with
  | none =>
    -- no base row: the copy's row is deleted
    rw [hfind] at hok
    simp only [Option.toList_none, override] at hok ⊢
    obtain ⟨rfl, hcopy, hbase⟩ := remove_effect hok
    rw [Side.opposite_opposite] at hbase
    have hstmt : syncStatement j.table B id = .delete j.table id := by simp [syncStatement, hfind]
    exact ⟨hbase, by rw [hstmt, hcopy], by simp, fun _ h => by cases h⟩
  | some row =>
    rw [hfind] at hok
    simp only [Option.toList_some, override] at hok ⊢
    cases hr : recordOf row with
    | error f =>
      rw [hr] at hok
      cases answer_inj hok
    | ok r =>
      rw [hr] at hok
      simp only at hok ⊢
      rcases hw : c.write base.opposite (.upsert j.table (rowOf r)) with ⟨_ | k, c₁⟩ <;>
        rw [hw] at hok <;> simp only at hok ⊢
      · cases answer_inj hok
      · obtain ⟨hcontents, hother⟩ := Cluster.write_ok hw
        rw [Side.opposite_opposite] at hother
        have hstmt : syncStatement j.table B id = .upsert j.table (rowOf r) := by
          simp [syncStatement, hfind, hr, Except.toOption]
        refine ⟨by rw [hother], by rw [hstmt, hcontents], by simpa using (answer_inj hok).symm, ?_⟩
        rintro _ ⟨⟩
        exact ⟨r, hr⟩

/-- The sync statement of an id the base lacks leaves the copy no row with the id. -/
theorem find?_sync_none {B : Table} (tbl : String) (K : Contents) (h : Table.find? id B = none) :
    Table.find? id ((K.apply (syncStatement tbl B id)).2.table tbl) = none := by
  simp [syncStatement, h, Contents.table_apply_delete, Table.find?_erase]

/-- The sync statement of an id whose base row reads as a record naming that id leaves there the
record re-encoded. -/
theorem find?_sync_some {B : Table} (tbl : String) (K : Contents) {row : Row} {r : Record}
    (hrow : Table.find? id B = some row) (hr : recordOf row = .ok r) (hid : r.id = id) :
    Table.find? id ((K.apply (syncStatement tbl B id)).2.table tbl) = some (rowOf r) := by
  simp [syncStatement, hrow, hr, Except.toOption, Contents.table_apply_upsert, Table.find?_upsert,
    rowOf, hid]

/-- Overriding the copy with the base's row at `id`: when it answers `Ok`, the copy agrees with
the base at `id`, and the answer is `deleted` exactly when the base has no such row. -/
theorem override_agrees (hB : RecordNamesId ((c.node base).contents.table j.table) id)
    (hok : (j.override c base.opposite id ((c.node base).read (.byId j.table id))).1 =
      j.answer (.ok (some o))) :
    (j.override c base.opposite id ((c.node base).read (.byId j.table id))).2.AgreeAt j.table base id ∧
      (o = .deleted ↔ Table.find? id ((c.node base).contents.table j.table) = none) := by
  obtain ⟨hbase, hcopy, hout, hreads⟩ := override_effect hok
  cases hfind : Table.find? id ((c.node base).contents.table j.table) with
  | none =>
    -- no base row: the copy has none left either
    have hgone := find?_sync_none j.table (c.node base.opposite).contents hfind
    rw [← hcopy] at hgone
    refine ⟨⟨⟨fun _ => hgone, fun _ => by rw [hbase, hfind]⟩, fun b t hb _ => ?_⟩, by simp [hout, hfind]⟩
    rw [hbase, hfind] at hb
    cases hb
  | some row =>
    obtain ⟨r, hr⟩ := hreads row hfind
    obtain ⟨hid, hback⟩ := hB row hfind r hr
    -- the record written lands at its own id, which is the drift's
    have hwritten := find?_sync_some j.table (c.node base.opposite).contents hfind hr hid
    rw [← hcopy] at hwritten
    obtain ⟨u, hu, hm⟩ := recordOf_rowOf (recordOf_normal hr) hback
    refine ⟨⟨by simp [hbase, hfind, hwritten], fun b t hb ht => ?_⟩, by simp [hout, hfind]⟩
    rw [hbase, hfind] at hb
    rw [hwritten] at ht
    cases hb
    cases ht
    exact ⟨r, u, hr, hu, hm⟩

/-- A repair of a drift other than `baseMissing` that answers `Ok` at once has read the base and
overridden the copy in the same action. -/
theorem fix_agrees {d : Drift} (hkind : d.kind ≠ .baseMissing)
    (hB : RecordNamesId ((c.node base).contents.table j.table) d.id)
    (hok : (j.fix c base d).1 = j.answer (.ok (some o))) :
    (j.fix c base d).2.AgreeAt j.table base d.id ∧
      (o = .deleted ↔ Table.find? d.id ((c.node base).contents.table j.table) = none) := by
  unfold fix at hok ⊢
  cases hk : d.kind with
  | baseMissing => exact absurd hk hkind
  | targetMissing | neq =>
    rcases hl : c.lookup base (.byId j.table d.id) with ⟨f | rs | t, c₁⟩ <;> simp only [hk, hl] at hok ⊢
    · cases answer_inj hok
    · -- the rows were read in this action, from a base the read did not change
      obtain ⟨rfl, hnodes⟩ := Cluster.lookup_rows hl
      rw [← hnodes base] at hB ⊢
      exact override_agrees hB hok
    · exact absurd hok (held_ne_answer _ _)

/-- A delete records its answer. -/
theorem remove_held (target : Side) : (j.remove c target id).1.held = none := by
  unfold remove
  split <;> rfl

/-- An override records its answer. -/
theorem override_held (target : Side) (rows : List Row) : (j.override c target id rows).1.held = none := by
  unfold override
  split
  · exact remove_held _
  · split
    · rfl
    · split <;> rfl

/-- A repair that holds its read back keeps the drift and the base to read when woken. -/
theorem fix_held {d : Drift} (h : (j.fix c base d).1.held ≠ none) :
    ∃ t, (j.fix c base d).1 = { j with held := some (d, base, t) } := by
  unfold fix at h ⊢
  cases hk : d.kind with
  | baseMissing => exact absurd (remove_held _) (by simpa [hk] using h)
  | targetMissing | neq =>
    rcases hl : c.lookup base (.byId j.table d.id) with ⟨f | rs | t, c₁⟩ <;> simp only [hk, hl] at h ⊢
    · exact absurd rfl h
    · exact absurd (override_held _ _) h
    · exact ⟨t, rfl⟩

/-- A repair woken to make its held read reads the base as it is then and overrides the copy in
the same action. -/
theorem step_held {d : Drift} {t : Nat} (c₂ : Cluster) :
    ({ j with held := some (d, base, t) } : RepairJob).step c₂ =
      ({ j with held := some (d, base, t) } : RepairJob).override c₂ base.opposite d.id
        ((c₂.node base).read (.byId j.table d.id)) := rfl

/-- A repair of a `targetMissing` or `neq` drift, whatever faults the paths carry, brings the copy
in line with the base at the drift's id when it answers `Ok`: the copy then has a row there
exactly when the base has one, the two rows read as matching records, and the answer is
`deleted` exactly when the base has no row with the id. This holds of a repair answering at once,
and of one whose read was held back and is made later, when no one wrote the base in between.
The base's row at the id, if it reads, must hold a record naming that id whose doubles read back. -/
theorem fix_restores_agreement (j : RepairJob) (c : Cluster) (base : Side) (d : Drift)
    (hkind : d.kind ≠ .baseMissing) (hB : RecordNamesId ((c.node base).contents.table j.table) d.id) :
    (∀ o, (j.fix c base d).1 = j.answer (.ok (some o)) →
      (j.fix c base d).2.AgreeAt j.table base d.id ∧
        (o = .deleted ↔ Table.find? d.id ((c.node base).contents.table j.table) = none)) ∧
    (∀ c₂ o, (j.fix c base d).1.held ≠ none → (c₂.node base).contents = (c.node base).contents →
      ((j.fix c base d).1.step c₂).1 = j.answer (.ok (some o)) →
      ((j.fix c base d).1.step c₂).2.AgreeAt j.table base d.id ∧
        (o = .deleted ↔ Table.find? d.id ((c.node base).contents.table j.table) = none)) := by
  refine ⟨fun o hok => fix_agrees hkind hB hok, fun c₂ o hheld hsame hok => ?_⟩
  obtain ⟨t, ht⟩ := fix_held hheld
  rw [ht, step_held] at hok ⊢
  rw [← hsame] at hB ⊢
  exact override_agrees hB hok

/-- A base holding records 1 and 2 and a copy holding another record 1. A `neq` repair at 1 over
clear paths overwrites the copy's row and answers `upserted`. With the base's path holding back
reads of id 1, the repair waits; meanwhile the slow read is cleared and the copy's row deleted,
and the woken repair writes the base's record there: both leave the copy agreeing with the base. -/
theorem fix_restores_agreement_held :
    let j : RepairJob := { table := "t", topic := "", queue := [] }
    let base : Contents :=
      Contents.empty.applyAll [.upsert "t" (rowOf (.new 1 5)), .upsert "t" (rowOf (.new 2 5))]
    let copy : Contents := Contents.empty.applyAll [.upsert "t" (rowOf ⟨1, 7, [("a", .null)]⟩)]
    let pathTo (faults : Faults) (copy : Contents) : Cluster :=
      { src := { side := .src, contents := base, faults := faults },
        dst := { side := .dst, contents := copy } }
    let d : Drift := ⟨1, .src, .neq⟩
    let c := pathTo { slow := some (1, 50) } copy
    let c₂ := pathTo {} Contents.empty
    d.kind ≠ .baseMissing ∧ RecordNamesId (base.table "t") 1 ∧
      (j.fix (pathTo {} copy) .src d).1 = j.answer (.ok (some .upserted)) ∧
      (j.fix (pathTo {} copy) .src d).2.AgreeAt "t" .src 1 ∧
      (j.fix c .src d).1.held ≠ none ∧ (c₂.node .src).contents = (c.node .src).contents ∧
      ((j.fix c .src d).1.step c₂).1 = j.answer (.ok (some .upserted)) ∧
      ((j.fix c .src d).1.step c₂).2.AgreeAt "t" .src 1 := by
  intro j base copy pathTo d c c₂
  have hkind : d.kind ≠ .baseMissing := by decide
  -- the base's row at 1 is the record it was written from
  have hfind : Table.find? 1 (base.table "t") = some (rowOf (.new 1 5)) := by decide +kernel
  have hreads : ∀ row, Table.find? 1 (base.table "t") = some row → ∃ r, recordOf row = .ok r := by
    intro row hrow
    rw [hfind, Option.some.injEq] at hrow
    exact ⟨_, hrow ▸ Record.recordOf_rowOf_new 1 5⟩
  have hB : RecordNamesId (base.table "t") 1 := by
    intro row hrow r hr
    rw [hfind, Option.some.injEq] at hrow
    rw [← hrow, Record.recordOf_rowOf_new, Except.ok.injEq] at hr
    exact hr ▸ ⟨rfl, fun _ h => nomatch h⟩
  have hpaths (copy : Contents) : RepairPaths (pathTo {} copy) .src :=
    ⟨⟨rfl, rfl, rfl, rfl⟩, ⟨rfl, rfl, rfl, rfl⟩, rfl⟩
  have hpresent : ¬ Table.find? 1 (base.table "t") = none := by rw [hfind]; simp
  -- over clear paths the repair answers at once
  have hnow : (j.fix (pathTo {} copy) .src d).1 = j.answer (.ok (some .upserted)) :=
    (fix_repaired (j := j) (hpaths copy) d (fun h => absurd h hkind) hreads).1.trans
      (congrArg (fun o => j.answer (.ok (some o))) (if_neg hpresent))
  -- a held read is made by the woken job, over the paths as they are then
  have hheld : (j.fix c .src d).1.held ≠ none := by decide +kernel
  have hsame : (c₂.node .src).contents = (c.node .src).contents := rfl
  have hwoken : ((j.fix c .src d).1.step c₂).1 = j.answer (.ok (some .upserted)) := by
    obtain ⟨t, ht⟩ := fix_held hheld
    rw [ht, step_held]
    exact (override_repaired (j := { j with held := some (d, .src, t) }) (hpaths _) d.id hreads).1.trans
      (congrArg (fun o => j.answer (.ok (some o))) (if_neg hpresent))
  have h := fix_restores_agreement j (pathTo {} copy) .src d hkind hB
  have h₂ := fix_restores_agreement j c .src d hkind hB
  exact ⟨hkind, hB, hnow, (h.1 _ hnow).1, hheld, hsame, hwoken,
    (h₂.2 c₂ _ hheld hsame hwoken).1⟩

/-- A base row at id 1 holding a record that names id 2: repairing a `neq` drift at id 1 answers
`upserted`, yet the record lands at id 2 and the copy has no row at id 1 while the base has one. -/
theorem fix_misplaced_record :
    let row : Row := ⟨1, 5, (Record.new 2 5).encode.toUTF8.toList⟩
    let c : Cluster := { src := { side := .src, contents := ⟨[("t", [row])]⟩ } }
    let j : RepairJob := { table := "t", topic := "", queue := [] }
    (j.fix c .src ⟨1, .src, .neq⟩).1 = j.answer (.ok (some .upserted)) ∧
      ¬ (j.fix c .src ⟨1, .src, .neq⟩).2.AgreeAt "t" .src 1 := by
  intro row c j
  -- the row reads as a record matching the one written, so naming id 2
  have hn : (Record.new 2 5).Normal := ⟨List.Pairwise.nil, by simp [Record.new]⟩
  obtain ⟨r, hdec, hm, -⟩ := Record.decode_encode hn (by simp [Record.DoublesReadBack, Record.new])
  have hid : r.id = 2 := by
    simp only [Record.matches, Record.new, Bool.and_eq_true, beq_iff_eq] at hm
    exact hm.1.symm
  have hrec : recordOf row = .ok r := by
    unfold recordOf
    rw [hdec]
  have hbase : Table.find? 1 ((c.node .src).contents.table "t") = some row := by
    simp [c, Cluster.node, Contents.table, Table.find?, row]
  have hfix : j.fix c .src ⟨1, .src, .neq⟩ =
      (j.answer (.ok (some .upserted)),
        (c.counted .src).setNode .dst (((c.counted .src).node .dst).wrote (.upsert "t" (rowOf r)))) := by
    have hread : ((c.node .src).read (.byId j.table 1)) = [row] := by
      simp [Node.read, Contents.select, Contents.get?, hbase, j]
    simp only [fix, Cluster.lookup_clear c .src _ ⟨rfl, rfl, rfl, rfl⟩, hread, override, hrec]
    rw [Cluster.write_clear (c.counted .src) Side.src.opposite ⟨rfl, rfl, rfl, rfl⟩ rfl]
    rfl
  -- the copy gets the record at id 2 only
  have hcopy : Table.find? 1 (((j.fix c .src ⟨1, .src, .neq⟩).2.node .dst).contents.table "t") = none := by
    have hne : (rowOf r).id ≠ 1 := by simp [rowOf, hid]
    rw [hfix, Cluster.node_setNode_self, Node.contents_wrote, Contents.table_apply_upsert, if_pos rfl,
      Table.find?_upsert, if_neg hne]
    rfl
  have hstill : Table.find? 1 (((j.fix c .src ⟨1, .src, .neq⟩).2.node .src).contents.table "t") = some row := by
    rw [hfix]
    show Table.find? 1 (((c.counted .src).node .src).contents.table "t") = some row
    rw [Cluster.counted, Cluster.node_setNode_self, Node.contents_counted]
    exact hbase
  refine ⟨by rw [hfix], fun h => ?_⟩
  have := h.1.mpr hcopy
  rw [hstill] at this
  cases this

end RepairJob

end TableMigration
