import TableMigration.Proofs.RepairAgreement
import TableMigration.Proofs.StoreMap
import TableMigration.Proofs.Writes

/-!
# Proofs.RepairReplay

Repairs replayed against a base that no one writes. A repair that answers `Ok` runs one statement
on the copy, and which one depends only on the drift and on the base's rows (`repairStatement`):
the base's record written over the copy's row, or a delete. It reads the base through its guarded
path and writes only the copy, so the base stays as it was. Whatever faults the paths carry, a
repair that answers at once and one whose read was held back and made later run the same statement
(`Repaired.effect`), and a sequence of repairs runs their statements in order
(`RepairedAll.effect`).

When every base row that reads as a record names its own id (`RecordIds`), each such statement
writes the copy at its drift's id and nowhere else. So only the last drift naming an id decides
the copy there (`lastFor`), and ids no drift names keep their rows. The main statement is
`RepairedAll.last_per_id`: the copy after the repairs is the copy after repairing the last drift
of each id only (`lastPerId`), and two sequences with the same last drift per id leave the same
copy. Repeating a drift, or swapping drifts of different ids, changes no last drift; the outcomes
are fixed by the drifts and the base alone.
-/

namespace TableMigration

open TableMigration.Access TableMigration.Store

/-- Between two instants no one wrote either store. -/
def Access.Cluster.SameRows (c c' : Cluster) : Prop := ∀ s, (c'.node s).contents = (c.node s).contents

/-! ## What a repair runs on the copy -/

/-- The statement a repair of `d` that answers `Ok` runs on the copy of table `tbl`, when the base's
rows are `B`: a `baseMissing` drift deletes the copy's row, any other writes the base's record over
it, or deletes it when the base has no row with the id. -/
def repairStatement (tbl : String) (B : Table) (d : Drift) : Statement :=
  match d.kind with
  | .baseMissing => .delete tbl d.id
  | .targetMissing | .neq => syncStatement tbl B d.id

/-- The outcome of a repair of `d` that answers `Ok`, when the base's rows are `B`. -/
def repairOutcome (B : Table) (d : Drift) : FixOutcome :=
  match d.kind with
  | .baseMissing => .deleted
  | .targetMissing | .neq => if Table.find? d.id B = none then .deleted else .upserted

/-- The row a repair of `d` leaves on the copy at its id. -/
def repairedRow (B : Table) (d : Drift) : Option Row :=
  match d.kind with
  | .baseMissing => none
  | .targetMissing | .neq => syncedRow B d.id

/-- The last of the drifts naming `id`, if any does. -/
def lastFor (ds : List Drift) (id : Int64) : Option Drift := ds.reverse.find? (·.id == id)

/-- The drifts that no later drift names the id of, in their order: the last drift of each id. -/
def lastPerId : List Drift → List Drift
  | [] => []
  | d :: ds => if ds.any (·.id == d.id) then lastPerId ds else d :: lastPerId ds

theorem repairStatement_of_ne {tbl : String} {B : Table} {d : Drift} (hk : d.kind ≠ .baseMissing) :
    repairStatement tbl B d = syncStatement tbl B d.id := by
  unfold repairStatement
  cases h : d.kind <;> simp_all

theorem repairOutcome_of_ne {B : Table} {d : Drift} (hk : d.kind ≠ .baseMissing) :
    repairOutcome B d = if Table.find? d.id B = none then .deleted else .upserted := by
  unfold repairOutcome
  cases h : d.kind <;> simp_all

/-! ## The last drift of each id -/

@[simp] theorem lastFor_nil (id : Int64) : lastFor [] id = none := rfl

/-- A drift placed before the others is the last of its id only when none of them names it. -/
theorem lastFor_cons (d : Drift) (ds : List Drift) (id : Int64) :
    lastFor (d :: ds) id = (lastFor ds id).or (if d.id = id then some d else none) := by
  by_cases h : d.id = id <;> simp [lastFor, List.find?_append, h]

theorem lastFor_eq_none {ds : List Drift} {id : Int64} : lastFor ds id = none ↔ ∀ d ∈ ds, d.id ≠ id := by
  simp [lastFor]

/-- Keeping only the last drift of each id keeps the last drift of every id. -/
theorem lastFor_lastPerId (ds : List Drift) (id : Int64) : lastFor (lastPerId ds) id = lastFor ds id := by
  induction ds with
  | nil => rfl
  | cons d ds ih =>
    by_cases hlater : ds.any (·.id == d.id) = true
    · -- a later drift has `d`'s id, so `d` is the last of no id
      rw [lastPerId, if_pos hlater, ih, lastFor_cons]
      by_cases hd : d.id = id
      · obtain ⟨d', hd', hid⟩ := List.any_eq_true.mp hlater
        have hsome : lastFor ds id ≠ none := fun hnone =>
          lastFor_eq_none.mp hnone d' hd' (by rw [← hd]; simpa using hid)
        obtain ⟨x, hx⟩ := Option.ne_none_iff_exists'.mp hsome
        simp [hx]
      · simp [hd]
    · rw [lastPerId, if_neg hlater, lastFor_cons, ih, lastFor_cons]

/-! ## The statement's key -/

section Key

variable {B : Table} (hB : RecordIds B) (tbl : String)
include hB

/-- A repair writes the copy at its drift's id, in the fixer's table. -/
theorem key_repairStatement (d : Drift) : (repairStatement tbl B d).key = (tbl, d.id) := by
  unfold repairStatement syncStatement
  cases d.kind with
  | baseMissing => rfl
  | targetMissing | neq =>
    simp only
    split
    · rename_i r h
      obtain ⟨row, hrow, hr⟩ := Option.bind_eq_some_iff.mp h
      have hrec : recordOf row = .ok r := by
        cases hrr : recordOf row <;> simp_all [Except.toOption]
      obtain ⟨hmem, hid⟩ := Table.find?_some hrow
      simp [rowOf, hB row hmem r hrec, hid]
    · rfl

/-- The last write the repairs of `ds` make at a key is the row the last drift of its id leaves,
in the fixer's table, and no write elsewhere. -/
theorem lastWrite_repairs (ds : List Drift) (tbl' : String) (id : Int64) :
    lastWrite (tbl', id) (ds.map (repairStatement tbl B)) =
      if tbl' = tbl then (lastFor ds id).map (repairedRow B) else none := by
  have hwritten : ∀ d, (repairStatement tbl B d).written = repairedRow B d := by
    intro d
    unfold repairStatement repairedRow syncStatement syncedRow
    cases d.kind with
    | baseMissing => rfl
    | targetMissing | neq =>
      simp only
      split <;> rename_i h <;> simp [h]
  simp only [lastWrite, ← List.map_reverse, List.find?_map, Option.map_map, Function.comp_def,
    key_repairStatement hB, hwritten, lastFor]
  by_cases ht : tbl' = tbl
  · subst ht
    have hsame : ∀ x : Drift, ((tbl', x.id) == (tbl', id)) = (x.id == id) := fun x => by
      by_cases h : x.id = id <;> simp [h]
    simp [hsame]
  · have hne : ∀ d : Drift, ((tbl, d.id) == (tbl', id)) = false := fun d => by
      simp [Ne.symm ht]
    simp [hne, ht]

/-- Repairs of `ds` leave at each key of the copy the row the last drift of its id leaves, and the
copy's own row where no drift names the key. -/
theorem get?_repairs (K : Contents) (ds : List Drift) (tbl' : String) (id : Int64) :
    (K.applyAll (ds.map (repairStatement tbl B))).get? tbl' id =
      if tbl' = tbl then ((lastFor ds id).map (repairedRow B)).getD (K.get? tbl' id)
      else K.get? tbl' id := by
  rw [Contents.get?_applyAll, lastWrite_repairs hB]
  split <;> rfl

/-- Two sequences of repairs with the same last drift for every id leave the same copy. -/
theorem view_repairs_congr (K : Contents) {ds ds' : List Drift}
    (hlast : ∀ id, lastFor ds' id = lastFor ds id) :
    (K.applyAll (ds'.map (repairStatement tbl B))).view = (K.applyAll (ds.map (repairStatement tbl B))).view := by
  funext k
  simp only [Contents.view, get?_repairs hB, hlast]

end Key

/-! ## One repair -/

/-- One repair of `d` with `base` authoritative took the job and the cluster from `s` to `s'` and
answered `Ok` with outcome `o`: at once, or through a read of the base held back and made once the
job was woken in a cluster whose stores no one wrote meanwhile. -/
inductive Repaired (base : Side) (d : Drift) (o : FixOutcome) :
    RepairJob × Cluster → RepairJob × Cluster → Prop
  | atOnce {j : RepairJob} {c : Cluster} (hok : (j.fix c base d).1 = j.answer (.ok (some o))) :
      Repaired base d o (j, c) (j.fix c base d)
  | woken {j : RepairJob} {c c₂ : Cluster} (hheld : (j.fix c base d).1.held ≠ none)
      (hsame : (j.fix c base d).2.SameRows c₂)
      (hok : ((j.fix c base d).1.step c₂).1 = j.answer (.ok (some o))) :
      Repaired base d o (j, c) ((j.fix c base d).1.step c₂)

/-- Repairs of the drifts `ds` one after the other, each answering `Ok` with the outcome at the same
place of `os`, no one writing either store between two of them. -/
inductive RepairedAll (base : Side) :
    List Drift → List FixOutcome → RepairJob × Cluster → RepairJob × Cluster → Prop
  | nil {s : RepairJob × Cluster} : RepairedAll base [] [] s s
  | cons {d : Drift} {o : FixOutcome} {ds : List Drift} {os : List FixOutcome}
      {s s₁ s₂ : RepairJob × Cluster} {c₁ : Cluster} (h : Repaired base d o s s₁)
      (hsame : s₁.2.SameRows c₁) (hrest : RepairedAll base ds os (s₁.1, c₁) s₂) :
      RepairedAll base (d :: ds) (o :: os) s s₂

namespace RepairJob

variable {j : RepairJob} {c : Cluster} {o : FixOutcome}

/-- A guarded read changes no store. -/
theorem lookup_sameRows (c : Cluster) (s : Side) (q : Query) : c.SameRows (c.lookup s q).2 := by
  intro s'
  rw [Cluster.lookup_snd]
  by_cases hs : s' = s
  · subst hs
    rw [Cluster.node_setNode_self, Node.contents_admitRead]
  · have hs' : s' = s.opposite := by cases s <;> cases s' <;> simp_all [Side.opposite]
    subst hs'
    rw [Cluster.node_setNode_opposite]

/-- A repair that holds its read back has changed no store. -/
theorem fix_held_sameRows {base : Side} {d : Drift} (h : (j.fix c base d).1.held ≠ none) :
    c.SameRows (j.fix c base d).2 := by
  unfold fix at h ⊢
  cases hk : d.kind with
  | baseMissing => exact absurd (remove_held _) (by simpa [hk] using h)
  | targetMissing | neq =>
    have hsame := lookup_sameRows c base (.byId j.table d.id)
    rcases hl : c.lookup base (.byId j.table d.id) with ⟨f | rs | t, c₁⟩ <;> simp only [hk, hl] at h ⊢
    · exact absurd rfl h
    · exact absurd (override_held _ _) h
    · rw [hl] at hsame
      exact hsame

/-- Only a repair that reads the base holds its read back. -/
theorem fix_held_kind {base : Side} {d : Drift} (h : (j.fix c base d).1.held ≠ none) :
    d.kind ≠ .baseMissing := by
  intro hk
  unfold fix at h
  rw [hk] at h
  exact h (remove_held _)

/-- A repair of `d` that answers `Ok` at once ran `d`'s repair statement on the copy, left the base
alone and answered `d`'s outcome. -/
theorem fix_effect {base : Side} {d : Drift} (hok : (j.fix c base d).1 = j.answer (.ok (some o))) :
    let c' := (j.fix c base d).2
    let B := (c.node base).contents.table j.table
    (c'.node base).contents = (c.node base).contents ∧
      (c'.node base.opposite).contents = ((c.node base.opposite).contents.apply (repairStatement j.table B d)).2 ∧
      o = repairOutcome B d := by
  intro c' B
  simp only [c'] at ⊢
  unfold fix at hok ⊢
  unfold repairStatement repairOutcome
  cases hk : d.kind with
  | baseMissing =>
    simp only [hk] at hok ⊢
    obtain ⟨rfl, hcopy, hbase⟩ := remove_effect hok
    rw [Side.opposite_opposite] at hbase
    exact ⟨hbase, hcopy, rfl⟩
  | targetMissing | neq =>
    rcases hl : c.lookup base (.byId j.table d.id) with ⟨f | rs | t, c₁⟩ <;> simp only [hk, hl] at hok ⊢
    · cases answer_inj hok
    · -- the rows were read in this action, from stores the read did not change
      obtain ⟨rfl, hnodes⟩ := Cluster.lookup_rows hl
      obtain ⟨hbase, hcopy, hout, -⟩ := override_effect hok
      rw [hnodes base] at hbase hcopy hout
      rw [hnodes base.opposite] at hcopy
      exact ⟨hbase, hcopy, hout⟩
    · exact absurd hok (held_ne_answer _ _)

end RepairJob

/-- A repair that answered `Ok` ran its drift's repair statement on the copy, left the base alone and
answered its drift's outcome; the job keeps its table. -/
theorem Repaired.effect {base : Side} {d : Drift} {o : FixOutcome} {s s' : RepairJob × Cluster}
    (h : Repaired base d o s s') :
    let B := (s.2.node base).contents.table s.1.table
    s'.1.table = s.1.table ∧ (s'.2.node base).contents = (s.2.node base).contents ∧
      (s'.2.node base.opposite).contents =
        ((s.2.node base.opposite).contents.apply (repairStatement s.1.table B d)).2 ∧
      o = repairOutcome B d := by
  intro B
  cases h with
  | @atOnce j c hok =>
    obtain ⟨hbase, hcopy, hout⟩ := RepairJob.fix_effect hok
    exact ⟨by rw [hok]; rfl, hbase, hcopy, hout⟩
  | @woken j c c₂ hheld hsame hok =>
    -- the read is made when woken, from stores no one wrote since the repair began
    have hsame₀ : c.SameRows c₂ := fun s => (hsame s).trans (RepairJob.fix_held_sameRows hheld s)
    have hk := RepairJob.fix_held_kind hheld
    obtain ⟨t, ht⟩ := RepairJob.fix_held hheld
    rw [ht, RepairJob.step_held] at hok ⊢
    obtain ⟨hbase, hcopy, hout, -⟩ := RepairJob.override_effect hok
    rw [hsame₀ base] at hbase hcopy hout
    rw [hsame₀ base.opposite] at hcopy
    exact ⟨by rw [hok]; rfl, hbase, by rw [hcopy, repairStatement_of_ne hk],
      by rw [hout, repairOutcome_of_ne hk]⟩

/-! ## Repairs one after the other -/

/-- Repairs one after the other, all answering `Ok`, ran their drifts' repair statements on the copy
in order, left the base alone and answered their drifts' outcomes: by induction on the repairs, each
starting from the base the one before it left. -/
theorem RepairedAll.effect {base : Side} {ds : List Drift} {os : List FixOutcome}
    {s s' : RepairJob × Cluster} (h : RepairedAll base ds os s s') :
    let B := (s.2.node base).contents.table s.1.table
    s'.1.table = s.1.table ∧ (s'.2.node base).contents = (s.2.node base).contents ∧
      (s'.2.node base.opposite).contents =
        (s.2.node base.opposite).contents.applyAll (ds.map (repairStatement s.1.table B)) ∧
      os = ds.map (repairOutcome B) := by
  induction h with
  | nil => exact ⟨rfl, rfl, rfl, rfl⟩
  | @cons d o ds os s s₁ s₂ c₁ h hsame _ ih =>
    intro B
    obtain ⟨ht, hb, hc, ho⟩ := h.effect
    obtain ⟨ht', hb', hc', ho'⟩ := ih
    -- the next repair reads the same base rows in the same table
    have hB : (c₁.node base).contents.table s₁.1.table = (s.2.node base).contents.table s.1.table := by
      rw [hsame base, hb, ht]
    rw [hB, ht] at hc'
    rw [hB] at ho'
    refine ⟨ht'.trans ht, by rw [hb', hsame base, hb], ?_, by rw [ho, ho', List.map_cons]⟩
    rw [hc', hsame base.opposite, hc]
    rfl

/-! ## Repairs through paths fit for repair -/

/-- Over paths fit for repair, a repair of a drift the base can serve answers `Ok` at once with the
drift's outcome, and leaves the paths fit. -/
theorem Repaired.of_paths {base : Side} {j : RepairJob} {c : Cluster} {d : Drift}
    (hp : RepairPaths c base)
    (hmissing : d.kind = .baseMissing → Table.find? d.id ((c.node base).contents.table j.table) = none)
    (hreads : ∀ row, Table.find? d.id ((c.node base).contents.table j.table) = some row →
      ∃ r, recordOf row = .ok r) :
    Repaired base d (repairOutcome ((c.node base).contents.table j.table) d) (j, c) (j.fix c base d) ∧
      RepairPaths (j.fix c base d).2 base := by
  obtain ⟨hfix, hrep⟩ := RepairJob.fix_repaired hp d hmissing hreads
  refine ⟨.atOnce (hfix.trans ?_), hrep.paths⟩
  cases hk : d.kind with
  | baseMissing => simp [repairOutcome, hk, hmissing hk]
  | targetMissing | neq => simp [repairOutcome, hk]

/-- Over paths fit for repair, repairs of drifts the base can serve, one after the other, all answer
`Ok`: by induction on the drifts, each repair leaving the paths fit and the base as it was. -/
theorem RepairedAll.of_paths {base : Side} {B : Table} :
    ∀ (ds : List Drift) (j : RepairJob) (c : Cluster), RepairPaths c base →
      (c.node base).contents.table j.table = B →
      (∀ d ∈ ds, (d.kind = .baseMissing → Table.find? d.id B = none) ∧
        ∀ row, Table.find? d.id B = some row → ∃ r, recordOf row = .ok r) →
      ∃ s, RepairedAll base ds (ds.map (repairOutcome B)) (j, c) s
  | [], _, _, _, _, _ => ⟨_, .nil⟩
  | d :: ds, j, c, hp, hB, hds => by
    obtain ⟨hmissing, hreads⟩ := hds d List.mem_cons_self
    rw [← hB] at hmissing hreads hds ⊢
    obtain ⟨hR, hp'⟩ := Repaired.of_paths (j := j) hp hmissing hreads
    obtain ⟨ht, hb, -, -⟩ := hR.effect
    obtain ⟨s, hrest⟩ := RepairedAll.of_paths ds _ _ hp' (by rw [hb, ht])
      fun d' hd' => hds d' (List.mem_cons_of_mem _ hd')
    exact ⟨s, .cons hR (fun _ => rfl) hrest⟩

/-- Repairs replayed against a base that no one writes, whose rows that read as records name their
own ids: a sequence of repairs, each answering `Ok` at once or after a held-back read, whatever the
faults on the paths, leaves the base alone and answers for each drift an outcome fixed by the drift
and the base. The copy then holds what repairing only the last drift of each id leaves, every key no
drift names keeps its row, and any other such sequence from the same start with the same last drift
for every id leaves the same copy, so repeating a drift or swapping drifts of different ids changes
nothing. -/
theorem RepairedAll.last_drift_wins {base : Side} {ds : List Drift} {os : List FixOutcome}
    {j j' : RepairJob} {c c' : Cluster} (hrun : RepairedAll base ds os (j, c) (j', c'))
    (hB : RecordIds ((c.node base).contents.table j.table)) :
    let B := (c.node base).contents.table j.table
    let T := (c.node base.opposite).contents
    (c'.node base).contents = (c.node base).contents ∧ os = ds.map (repairOutcome B) ∧
      (c'.node base.opposite).contents.view =
        (T.applyAll ((lastPerId ds).map (repairStatement j.table B))).view ∧
      (∀ tbl id, (tbl ≠ j.table ∨ ∀ d ∈ ds, d.id ≠ id) →
        (c'.node base.opposite).contents.get? tbl id = T.get? tbl id) ∧
      ∀ ds₂ os₂ j₂ c₂, RepairedAll base ds₂ os₂ (j, c) (j₂, c₂) →
        (∀ id, lastFor ds₂ id = lastFor ds id) →
        (c₂.node base.opposite).contents.view = (c'.node base.opposite).contents.view := by
  intro B T
  obtain ⟨-, hbase, hcopy, hout⟩ := hrun.effect
  simp only at hbase hcopy hout
  refine ⟨hbase, hout, ?_, fun tbl id hnamed => ?_, fun ds₂ os₂ j₂ c₂ hrun₂ hlast => ?_⟩
  · rw [hcopy]
    exact view_repairs_congr hB j.table T fun id => (lastFor_lastPerId ds id).symm
  · rw [hcopy, get?_repairs hB]
    rcases hnamed with hne | hnone
    · rw [if_neg hne]
    · simp [lastFor_eq_none.mpr hnone, T]
  · obtain ⟨-, -, hcopy₂, -⟩ := hrun₂.effect
    simp only at hcopy₂
    rw [hcopy₂, hcopy]
    exact view_repairs_congr hB j.table T hlast

/-- A base holding records 1 and 2 and an unreadable row 4, and a copy holding another record 1,
records 3 and 5 and a row of another table. Repairing `neq` at 1, `baseMissing` at 3, `neq` at 1
again and `targetMissing` at 2 over clear paths answers `upserted`, `deleted`, `upserted`,
`upserted`; the copy ends with the base's records 1 and 2, no row 3, and its row 5 and the other
table as they were, the same copy as repairing only the last drift of each id. -/
theorem RepairedAll.last_drift_wins_repeated :
    let j : RepairJob := { table := "t", topic := "", queue := [] }
    let base : Contents := Contents.empty.applyAll
      [.upsert "t" (rowOf (.new 1 5)), .upsert "t" (rowOf (.new 2 5)), .upsert "t" ⟨4, 5, [0]⟩]
    let copy : Contents := Contents.empty.applyAll
      [.upsert "t" (rowOf ⟨1, 7, [("a", .null)]⟩), .upsert "t" (rowOf (.new 3 5)),
        .upsert "t" (rowOf (.new 5 5)), .upsert "u" (rowOf (.new 1 5))]
    let c : Cluster :=
      { src := { side := .src, contents := base }, dst := { side := .dst, contents := copy } }
    let ds : List Drift :=
      [⟨1, .src, .neq⟩, ⟨3, .src, .baseMissing⟩, ⟨1, .src, .neq⟩, ⟨2, .src, .targetMissing⟩]
    ∃ j' c', RepairedAll .src ds [.upserted, .deleted, .upserted, .upserted] (j, c) (j', c') ∧
      RecordIds (base.table "t") ∧ (c'.node .src).contents = base ∧
      lastPerId ds = [⟨3, .src, .baseMissing⟩, ⟨1, .src, .neq⟩, ⟨2, .src, .targetMissing⟩] ∧
      (c'.node .dst).contents.view ("t", 1) = base.view ("t", 1) ∧
      (c'.node .dst).contents.view ("t", 2) = base.view ("t", 2) ∧
      (c'.node .dst).contents.view ("t", 3) = none ∧
      (c'.node .dst).contents.get? "t" 5 = copy.get? "t" 5 ∧
      (c'.node .dst).contents.get? "u" 1 = copy.get? "u" 1 ∧
      ∃ j₂ c₂, RepairedAll .src (lastPerId ds) [.deleted, .upserted, .upserted] (j, c) (j₂, c₂) ∧
        (c₂.node .dst).contents.view = (c'.node .dst).contents.view := by
  intro j base copy c ds
  have hpaths : RepairPaths c .src := ⟨⟨rfl, rfl, rfl, rfl⟩, ⟨rfl, rfl, rfl, rfl⟩, rfl⟩
  -- every base row that reads is a record without columns, naming its own id
  have hB : RecordIds (base.table "t") := by
    have hrows : base.table "t" = [rowOf (.new 1 5), rowOf (.new 2 5), ⟨4, 5, [0]⟩] := by
      decide +kernel
    rw [hrows]
    intro row hrow r hr
    simp only [List.mem_cons, List.not_mem_nil, or_false] at hrow
    rcases hrow with rfl | rfl | rfl
    · rw [Record.recordOf_rowOf_new, Except.ok.injEq] at hr
      rw [← hr]; rfl
    · rw [Record.recordOf_rowOf_new, Except.ok.injEq] at hr
      rw [← hr]; rfl
    · have hbad : (recordOf ⟨4, 5, [0]⟩).isOk = false := by decide +kernel
      rw [hr] at hbad
      cases hbad
  -- each drift can be served by the base: a missing row is missing, a present one reads
  have hserved (ds : List Drift)
      (hmissing : ∀ d ∈ ds, d.kind = .baseMissing → Table.find? d.id (base.table "t") = none)
      (hreads : ∀ d ∈ ds,
        ((Table.find? d.id (base.table "t")).all fun row => (recordOf row).isOk) = true) :
      ∀ d ∈ ds, (d.kind = .baseMissing → Table.find? d.id (base.table "t") = none) ∧
        ∀ row, Table.find? d.id (base.table "t") = some row → ∃ r, recordOf row = .ok r := by
    intro d hd
    refine ⟨hmissing d hd, fun row hrow => ?_⟩
    have hok := hreads d hd
    rw [hrow, Option.all_some] at hok
    cases hr : recordOf row with
    | error e => rw [hr] at hok; cases hok
    | ok r => exact ⟨r, rfl⟩
  obtain ⟨⟨j', c'⟩, hrun⟩ := RepairedAll.of_paths (B := base.table "t") ds j c hpaths rfl
    (hserved ds (by decide +kernel) (by decide +kernel))
  obtain ⟨⟨j₂, c₂⟩, hrun₂⟩ :=
    RepairedAll.of_paths (B := base.table "t") (lastPerId ds) j c hpaths rfl
      (hserved (lastPerId ds) (by decide +kernel) (by decide +kernel))
  have hos :
      ds.map (repairOutcome (base.table "t")) = [.upserted, .deleted, .upserted, .upserted] := by
    decide +kernel
  have hos₂ :
      (lastPerId ds).map (repairOutcome (base.table "t")) = [.deleted, .upserted, .upserted] := by
    decide +kernel
  rw [hos] at hrun
  rw [hos₂] at hrun₂
  obtain ⟨hbase, -, hview, hkept, hsame⟩ := RepairedAll.last_drift_wins hrun hB
  have hat (k : String × Int64) : (c'.node .dst).contents.view k =
      (copy.applyAll ((lastPerId ds).map (repairStatement "t" (base.table "t")))).view k :=
    congrFun hview k
  refine ⟨j', c', hrun, hB, hbase, by decide +kernel, ?_, ?_, ?_,
    hkept "t" 5 (.inr (by decide)), hkept "u" 1 (.inl (by decide)),
    j₂, c₂, hrun₂, hsame _ _ j₂ c₂ hrun₂ (lastFor_lastPerId ds)⟩
  · rw [hat]; decide +kernel
  · rw [hat]; decide +kernel
  · rw [hat]; decide +kernel

end TableMigration
