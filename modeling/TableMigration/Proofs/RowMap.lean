import TableMigration.Proofs.Transactions

/-!
# Proofs.RowMap

The reference a store refines: a finite map from a table name and an id to the row's utime and
data (`RowMap`). A write sets or clears one key and reports one for an upsert and, for a delete,
whether the key held a row; a lookup reads one key. What each query must answer is said on the
map alone (`RowMap.Answers`: `ScanAnswer` for a scan, `ByIdsAnswer` for a batch lookup), and each
query admits one answer at most (`RowMap.Answers.unique`).

Store contents are seen through `Contents.view`. Every write moves the view as it moves the map
(`Contents.view_apply`), so a sequence of writes does too (`Contents.view_applyAll`); on ordered
contents every query answers what the map prescribes (`Contents.answers_select`), and no row of
another table can appear, since the map is read at the query's own table only.
-/

namespace TableMigration.Store

/-- The reference a store refines: for a table name and an id, the utime and data of the row
there. -/
abbrev RowMap := String × Int64 → Option (Int64 × List UInt8)

namespace RowMap

/-- Run a statement on the map: an upsert sets its row's key, a delete clears its key. An upsert
reports one; a delete reports one exactly when the key held a row. -/
def exec (m : RowMap) : Statement → Nat × RowMap
  | .upsert t row => (1, fun k => if k = (t, row.id) then some (row.utime, row.data) else m k)
  | .delete t id => (if (m (t, id)).isSome then 1 else 0, fun k => if k = (t, id) then none else m k)

/-- The row of table `t` with id `id`, rebuilt from the map. -/
def row? (m : RowMap) (t : String) (id : Int64) : Option Row := (m (t, id)).map fun v => ⟨id, v.1, v.2⟩

/-- The map holds row `r` in table `t`. -/
def Holds (m : RowMap) (t : String) (r : Row) : Prop := m (t, r.id) = some (r.utime, r.data)

/-- Run statements on the map in order. -/
def execAll (m : RowMap) (stmts : List Statement) : RowMap :=
  stmts.foldl (fun m stmt => (m.exec stmt).2) m

end RowMap

/-- What a scan of table `t` past `after`, at or above `since`, of at most `limit` rows must
answer on the map: rows the map holds in `t` that pass both bounds, in increasing id order, at
most `limit` of them, and such that a passing row left out comes after all of them, and only
once `limit` rows are answered. -/
structure ScanAnswer (m : RowMap) (t : String) (since after : Option Int64) (limit : Nat)
    (rows : List Row) : Prop where
  sorted : rows.Pairwise (·.id < ·.id)
  passes : ∀ r ∈ rows, m.Holds t r ∧ after.all (· < r.id) ∧ since.all (· ≤ r.utime)
  bounded : rows.length ≤ limit
  first : ∀ r, m.Holds t r → after.all (· < r.id) → since.all (· ≤ r.utime) → r ∉ rows →
    rows.length = limit ∧ ∀ x ∈ rows, x.id < r.id

/-- What a batch lookup of `ids` in table `t` must answer on the map: the rows the map holds at the
ids asked for, in increasing id order, so each once. -/
structure ByIdsAnswer (m : RowMap) (t : String) (ids : List Int64) (rows : List Row) : Prop where
  sorted : rows.Pairwise (·.id < ·.id)
  mem : ∀ r, r ∈ rows ↔ r.id ∈ ids ∧ m.Holds t r

/-! ## Answers the map admits -/

/-- Strictly increasing lists with the same rows are equal. -/
private theorem eq_of_sorted_mem_iff {xs ys : List Row} (hx : xs.Pairwise (·.id < ·.id))
    (hy : ys.Pairwise (·.id < ·.id)) (h : ∀ r, r ∈ xs ↔ r ∈ ys) : xs = ys :=
  haveI : Std.Irrefl fun a b : Row => a.id < b.id := ⟨fun _ => Int64.lt_irrefl⟩
  List.Pairwise.eq_of_mem_iff hx hy h

theorem ByIdsAnswer.unique {m : RowMap} {t : String} {ids : List Int64} {xs ys : List Row}
    (hx : ByIdsAnswer m t ids xs) (hy : ByIdsAnswer m t ids ys) : xs = ys :=
  eq_of_sorted_mem_iff hx.sorted hy.sorted fun r => by rw [hx.mem, hy.mem]

/-- Rows of one answer that another leaves out make the other full, and the one longer than it. -/
private theorem ScanAnswer.subset {m : RowMap} {t : String} {since after : Option Int64} {limit : Nat}
    {xs ys : List Row} (hx : ScanAnswer m t since after limit xs) (hy : ScanAnswer m t since after limit ys)
    {x : Row} (hxs : x ∈ xs) (hys : x ∉ ys) : ∀ y ∈ ys, y ∈ xs := by
  obtain ⟨hheld, hafter, hsince⟩ := hx.passes x hxs
  obtain ⟨-, hbefore⟩ := hy.first x hheld hafter hsince hys
  intro y hy'
  by_contra hyx
  -- `y` left out of `xs` would come after `x`, which comes after `y`
  obtain ⟨hheld', hafter', hsince'⟩ := hy.passes y hy'
  obtain ⟨-, hafterAll⟩ := hx.first y hheld' hafter' hsince' hyx
  exact Int64.lt_irrefl (Int64.lt_trans (hbefore y hy') (hafterAll x hxs))

theorem ScanAnswer.unique {m : RowMap} {t : String} {since after : Option Int64} {limit : Nat}
    {xs ys : List Row} (hx : ScanAnswer m t since after limit xs)
    (hy : ScanAnswer m t since after limit ys) : xs = ys := by
  have hnodup : ∀ {zs : List Row}, zs.Pairwise (·.id < ·.id) → zs.Nodup :=
    fun h => h.imp fun hlt heq => by subst heq; exact Int64.lt_irrefl hlt
  -- a row in one answer and not the other would make the first longer than `limit`
  have hin : ∀ {xs ys : List Row}, ScanAnswer m t since after limit xs →
      ScanAnswer m t since after limit ys → ∀ x ∈ xs, x ∈ ys := by
    intro xs ys hx hy x hxs
    by_contra hys
    have hsub : (x :: ys).Subperm xs :=
      List.subperm_of_subset (List.nodup_cons.mpr ⟨hys, hnodup hy.sorted⟩)
        (List.cons_subset.mpr ⟨hxs, hx.subset hy hxs hys⟩)
    have hlen := hsub.length_le
    have hfull := (hy.first x (hx.passes x hxs).1 (hx.passes x hxs).2.1 (hx.passes x hxs).2.2 hys).1
    simp only [List.length_cons] at hlen
    have := hx.bounded
    omega
  exact eq_of_sorted_mem_iff hx.sorted hy.sorted fun r => ⟨hin hx hy r, hin hy hx r⟩

/-- What a query must answer on the map. -/
def RowMap.Answers (m : RowMap) : Query → List Row → Prop
  | .scan t since after limit, rows => ScanAnswer m t since after limit rows
  | .byId t id, rows => rows = (m.row? t id).toList
  | .byIds t ids, rows => ByIdsAnswer m t ids rows

/-- A query admits one answer at most. -/
theorem RowMap.Answers.unique {m : RowMap} {q : Query} {xs ys : List Row} (hx : m.Answers q xs)
    (hy : m.Answers q ys) : xs = ys := by
  cases q with
  | scan t since after limit => exact ScanAnswer.unique hx hy
  | byId t id => exact hx.trans hy.symm
  | byIds t ids => exact ByIdsAnswer.unique hx hy

/-! ## The store seen as the map -/

namespace Contents

/-- The map a store holds: at each table and id, the utime and data of its row there. -/
def view (s : Contents) : RowMap := fun k => (s.get? k.1 k.2).map fun r => (r.utime, r.data)

/-- A row of the store is the row the map rebuilds at its id. -/
private theorem row_eq {r r' : Row} (hid : r'.id = r.id) (hu : r'.utime = r.utime) (hd : r'.data = r.data) :
    r' = r := by
  cases r
  cases r'
  simp_all

/-- The map holds a row in a table exactly when the store finds that row at its id. -/
theorem holds_view_iff (s : Contents) (t : String) (r : Row) :
    s.view.Holds t r ↔ s.get? t r.id = some r := by
  simp only [RowMap.Holds, view, Option.map_eq_some_iff, Prod.mk.injEq]
  constructor
  · rintro ⟨r', hr', hu, hd⟩
    have hid := (Table.find?_some hr').2
    rw [hr', row_eq hid hu hd]
  · intro h
    exact ⟨r, h, rfl, rfl⟩

/-- On an ordered store, the map holds exactly the rows of each table. -/
theorem holds_view_iff_mem {s : Contents} (hs : s.Ordered) (t : String) (r : Row) :
    s.view.Holds t r ↔ r ∈ s.table t := by
  rw [holds_view_iff, Table.mem_iff_find? (hs t)]
  rfl

/-- The map rebuilds the store's row at every table and id. -/
theorem row?_view (s : Contents) (t : String) (id : Int64) : s.view.row? t id = s.get? t id := by
  cases h : s.get? t id with
  | none => simp [RowMap.row?, view, h]
  | some r =>
    have hid := (Table.find?_some h).2
    simp only [RowMap.row?, view, h, Option.map_some]
    exact congrArg some (row_eq hid.symm rfl rfl)

/-- A write reports what the map's write reports. -/
theorem apply_fst_view (s : Contents) (stmt : Statement) : (s.apply stmt).1 = (s.view.exec stmt).1 := by
  rw [apply_fst]
  cases stmt with
  | upsert t row => rfl
  | delete t id => simp [RowMap.exec, view]

/-- A write moves the store as it moves the map. -/
theorem view_apply (s : Contents) (stmt : Statement) : (s.apply stmt).2.view = (s.view.exec stmt).2 := by
  funext k
  obtain ⟨t, id⟩ := k
  simp only [view, get?_apply]
  cases stmt with
  | upsert t' row =>
    by_cases hk : (t, id) = (t', row.id)
    · simp [hk, RowMap.exec]
    · simp [RowMap.exec, hk, Ne.symm hk, view]
  | delete t' id' =>
    by_cases hk : (t, id) = (t', id')
    · simp [hk, RowMap.exec]
    · simp [RowMap.exec, hk, Ne.symm hk, view]

/-- Writes one after the other move the store as they move the map: by induction on the writes,
from `view_apply`. -/
theorem view_applyAll (s : Contents) (stmts : List Statement) :
    (s.applyAll stmts).view = s.view.execAll stmts := by
  induction stmts generalizing s with
  | nil => rfl
  | cons stmt rest ih =>
    show ((s.apply stmt).2.applyAll rest).view = _
    rw [ih, view_apply]
    rfl

/-- On an ordered store a scan answers what the map prescribes. -/
theorem scan_answer {s : Contents} (hs : s.Ordered) (t : String) (since after : Option Int64) (limit : Nat) :
    ScanAnswer s.view t since after limit (s.select (.scan t since after limit)) := by
  set passing := ((s.table t).filter fun r => after.all (· < r.id)).filter fun r => since.all (· ≤ r.utime)
  have hsel : s.select (.scan t since after limit) = passing.take limit := rfl
  have hsorted : passing.Pairwise (·.id < ·.id) :=
    Table.Sorted.sublist ((List.filter_sublist).trans List.filter_sublist) (hs t)
  -- a passing row is a row of the table within both bounds
  have hmem : ∀ r, r ∈ passing ↔ s.view.Holds t r ∧ after.all (· < r.id) ∧ since.all (· ≤ r.utime) := by
    intro r
    simp only [passing, List.mem_filter, holds_view_iff_mem hs]
    tauto
  rw [hsel]
  refine ⟨hsorted.sublist (List.take_sublist _ _), fun r hr => (hmem r).mp (List.mem_of_mem_take hr),
    List.length_take_le _ _, fun r hheld hafter hsince hout => ?_⟩
  have hr : r ∈ passing := (hmem r).mpr ⟨hheld, hafter, hsince⟩
  -- the row left out lies past the first `limit` rows
  have hdrop : r ∈ passing.drop limit := by
    rw [← List.take_append_drop limit passing] at hr
    exact (List.mem_append.mp hr).resolve_left hout
  refine ⟨?_, fun x hx => ?_⟩
  · have hlen : limit < passing.length := by
      by_contra hle
      rw [List.drop_eq_nil_of_le (Nat.le_of_not_lt hle)] at hdrop
      cases hdrop
    simp [List.length_take, Nat.min_eq_left hlen.le]
  · rw [← List.take_append_drop limit passing] at hsorted
    exact (List.pairwise_append.mp hsorted).2.2 x hx r hdrop

/-- A lookup by id answers the map's row, or nothing. -/
theorem select_byId (s : Contents) (t : String) (id : Int64) :
    s.select (.byId t id) = (s.view.row? t id).toList := by
  rw [row?_view]
  rfl

/-- A batch lookup answers what the map prescribes. -/
theorem byIds_answer (s : Contents) (t : String) (ids : List Int64) :
    ByIdsAnswer s.view t ids (s.select (.byIds t ids)) := by
  refine ⟨sorted_select_byIds s t ids, fun r => ?_⟩
  rw [Table.mem_iff_find? (sorted_select_byIds s t ids), find?_select_byIds, holds_view_iff]
  by_cases h : r.id ∈ ids <;> simp [h]

/-- On ordered contents every query answers what the map prescribes. -/
theorem answers_select {s : Contents} (hs : s.Ordered) (q : Query) : s.view.Answers q (s.select q) := by
  cases q with
  | scan t since after limit => exact scan_answer hs t since after limit
  | byId t id => exact select_byId s t id
  | byIds t ids => exact byIds_answer s t ids

end Contents

end TableMigration.Store
