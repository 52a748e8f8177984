import TableMigration.Proofs.Tables

/-!
# Proofs.Writes

What statements leave in a store, key by key.

A statement writes one key, a table name and an id: an upsert leaves its row there and a
delete leaves nothing, while every other key keeps its row (`Contents.get?_apply`).
Statements applied in order therefore leave at each key what the last of them to write it
left, and the store's own row where none wrote it (`Contents.get?_applyAll`).

A sorted table is determined by the rows it finds id by id (`Table.ext_find?`), so two ways
of building a table agree as soon as they agree at every id.
-/

namespace TableMigration.Store

/-! ## The key a statement writes -/

namespace Statement

/-- The key a statement writes: its table and the id of its row. -/
def key : Statement → String × Int64
  | .upsert table row => (table, row.id)
  | .delete table id => (table, id)

/-- What a statement leaves at its key: the row of an upsert, nothing after a delete. -/
def written : Statement → Option Row
  | .upsert _ row => some row
  | .delete _ _ => none

@[simp] theorem key_upsert (table : String) (row : Row) : (upsert table row).key = (table, row.id) :=
  rfl

@[simp] theorem key_delete (table : String) (id : Int64) : (delete table id).key = (table, id) := rfl

@[simp] theorem written_upsert (table : String) (row : Row) : (upsert table row).written = some row :=
  rfl

@[simp] theorem written_delete (table : String) (id : Int64) : (delete table id).written = none := rfl

/-- A row a statement leaves carries the id of its key. -/
theorem id_of_written {stmt : Statement} {r : Row} (h : stmt.written = some r) : r.id = stmt.key.2 := by
  cases stmt with
  | upsert table row => cases h; rfl
  | delete table id => cases h

end Statement

/-- What the last of the statements to write a key left there, if any of them wrote it. -/
def lastWrite (k : String × Int64) (stmts : List Statement) : Option (Option Row) :=
  (stmts.reverse.find? (·.key == k)).map (·.written)

@[simp] theorem lastWrite_nil (k : String × Int64) : lastWrite k [] = none := rfl

/-- A statement written after the others decides its own key. -/
theorem lastWrite_concat (k : String × Int64) (stmts : List Statement) (stmt : Statement) :
    lastWrite k (stmts ++ [stmt]) = if stmt.key = k then some stmt.written else lastWrite k stmts := by
  by_cases h : stmt.key = k <;> simp [lastWrite, h]

/-- A statement written before the others decides its key only if none of them writes it. -/
theorem lastWrite_cons (k : String × Int64) (stmt : Statement) (stmts : List Statement) :
    lastWrite k (stmt :: stmts) =
      (lastWrite k stmts).or (if stmt.key = k then some stmt.written else none) := by
  simp only [lastWrite, List.reverse_cons, List.find?_append, Option.map_or, List.find?_singleton]
  by_cases h : stmt.key = k <;> simp [h]

/-- The last write of a key is that of the last statement writing it. -/
theorem lastWrite_filter (k : String × Int64) (stmts : List Statement) :
    lastWrite k stmts = ((stmts.filter (·.key == k)).getLast?).map (·.written) := by
  rw [lastWrite, List.getLast?_filter]

/-- A key no statement writes has no last write. -/
theorem lastWrite_eq_none {k : String × Int64} {stmts : List Statement}
    (h : k ∉ stmts.map Statement.key) : lastWrite k stmts = none := by
  simp only [lastWrite, Option.map_eq_none_iff, List.find?_eq_none, List.mem_reverse, beq_iff_eq]
  intro stmt hmem hkey
  exact h (List.mem_map.mpr ⟨stmt, hmem, hkey⟩)

/-! ## Tables determined by their rows -/

namespace Table

/-- A row of a sorted table is exactly a row found by its own id. -/
theorem mem_iff_find? {t : Table} (h : t.Sorted) {r : Row} : r ∈ t ↔ find? r.id t = some r :=
  ⟨find?_of_mem h, fun hf => (find?_some hf).1⟩

/-- Two sorted tables that find the same row at every id are equal. -/
theorem ext_find? {s t : Table} (hs : s.Sorted) (ht : t.Sorted) (h : ∀ id, find? id s = find? id t) :
    s = t :=
  haveI : Std.Irrefl fun a b : Row => a.id < b.id := ⟨fun _ => Int64.lt_irrefl⟩
  List.Pairwise.eq_of_mem_iff hs ht fun r => by rw [mem_iff_find? hs, mem_iff_find? ht, h]

/-- Past a cursor a table finds the rows it found after it, and nothing at or before it. -/
theorem find?_after (cursor : Option Int64) (t : Table) (id : Int64) :
    find? id (after cursor t) = if cursor.all (· < id) then find? id t else none := by
  induction t with
  | nil => simp [after, find?]
  | cons r rs ih =>
    simp only [after, find?] at ih ⊢
    by_cases hr : r.id = id
    · subst hr
      by_cases hc : cursor.all (· < r.id)
      · simp [hc]
      · -- a row with this id lies at or before the cursor as well, so the filter drops it
        simp only [hc, Bool.false_eq_true, if_false, List.filter_cons, List.find?_eq_none,
          List.mem_filter, beq_iff_eq]
        intro x hx heq
        have hlt := hx.2
        rw [heq] at hlt
        exact hc hlt
    · have hne : (r.id == id) = false := by simpa using hr
      by_cases hc : cursor.all (· < r.id) <;> simp [hc, hne, ih]

/-- A table past a cursor is sorted when the table is. -/
theorem Sorted.after {t : Table} (h : t.Sorted) (cursor : Option Int64) : (Table.after cursor t).Sorted :=
  List.Pairwise.filter _ h

end Table

/-- A page depends only on the rows past its own cursor. -/
theorem page_after (rows : List Row) (since after : Option Int64) (limit : Nat) :
    page (Table.after after rows) since after limit = page rows since after limit := by
  simp [page, Table.after, List.filter_filter]

/-! ## Statements key by key -/

namespace Contents

/-- What an upsert or a delete reports: one for an upsert, and for a delete whether the row
was there. -/
theorem apply_fst (s : Contents) (stmt : Statement) :
    (s.apply stmt).1 = match stmt with
      | .upsert .. => 1
      | .delete table id => if (s.get? table id).isSome then 1 else 0 := by
  cases stmt with
  | upsert table row => rfl
  | delete table id =>
    simp only [apply]
    cases s.get? table id <;> rfl

/-- A statement changes the row at its own key only. -/
theorem get?_apply (s : Contents) (stmt : Statement) (table : String) (id : Int64) :
    (s.apply stmt).2.get? table id =
      if stmt.key = (table, id) then stmt.written else s.get? table id := by
  cases stmt with
  | upsert t row =>
    simp only [get?, table_apply_upsert, Statement.key_upsert, Statement.written_upsert,
      Prod.mk.injEq]
    by_cases ht : table = t
    · subst ht
      simp [Table.find?_upsert]
    · simp [ht, Ne.symm ht]
  | delete t i =>
    simp only [get?, table_apply_delete, Statement.key_delete, Statement.written_delete,
      Prod.mk.injEq]
    by_cases ht : table = t
    · subst ht
      simp [Table.find?_erase]
    · simp [ht, Ne.symm ht]

/-- Statements applied in order leave at each key what the last of them to write it left,
and the store's row where none did. -/
theorem get?_applyAll (s : Contents) (stmts : List Statement) (table : String) (id : Int64) :
    (s.applyAll stmts).get? table id = (lastWrite (table, id) stmts).getD (s.get? table id) := by
  induction stmts generalizing s with
  | nil => rfl
  | cons stmt rest ih =>
    show ((s.apply stmt).2.applyAll rest).get? table id = _
    rw [ih, get?_apply, lastWrite_cons]
    cases lastWrite (table, id) rest <;> by_cases h : stmt.key = (table, id) <;> simp [h]

end Contents

end TableMigration.Store
