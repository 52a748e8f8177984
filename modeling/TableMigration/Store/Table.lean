/-!
# Store.Table

The contents of a store: for each table name, its rows in increasing id order, one row per id.
Tables never share rows, even when their names share bytes.

Statements write one row (`upsert`) or remove one (`delete`); queries read a page of a table
by keyset (`scan`: ids after a cursor, utime at least a watermark, at most `limit` rows), one
row by id, or the rows of a set of ids in id order.
-/

namespace TableMigration.Store

/-- A stored row. -/
structure Row where
  id : Int64
  utime : Int64
  data : List UInt8
  deriving DecidableEq, Repr, Inhabited

/-- A write of one row. -/
inductive Statement where
  /-- Insert the row or replace the row with its id. -/
  | upsert (table : String) (row : Row)
  /-- Remove the row with this id, if there is one. -/
  | delete (table : String) (id : Int64)
  deriving DecidableEq, Repr

/-- The table a statement writes. -/
def Statement.table : Statement → String
  | .upsert table _ => table
  | .delete table _ => table

/-- A read of one table. -/
inductive Query where
  /-- Rows with id after `after` and utime at least `since`, in id order, at most `limit`. -/
  | scan (table : String) (since after : Option Int64) (limit : Nat)
  /-- The row with this id. -/
  | byId (table : String) (id : Int64)
  /-- The rows with these ids, in id order, each once. -/
  | byIds (table : String) (ids : List Int64)
  deriving DecidableEq, Repr

/-- The table a query reads. -/
def Query.table : Query → String
  | .scan table _ _ _ => table
  | .byId table _ => table
  | .byIds table _ => table

/-- Keep the rows after the cursor and at or above the watermark, then the first `limit`. -/
def page (rows : List Row) (since after : Option Int64) (limit : Nat) : List Row :=
  ((rows.filter fun r => after.all (· < r.id)).filter fun r => since.all (· ≤ r.utime)).take limit

/-! ## Tables -/

/-- The rows of one table in increasing id order. -/
abbrev Table := List Row

namespace Table

/-- Insert a row at its place, replacing the row with the same id. -/
def upsert (row : Row) : Table → Table
  | [] => [row]
  | r :: rs =>
    if row.id < r.id then row :: r :: rs
    else if row.id = r.id then row :: rs
    else r :: upsert row rs

/-- Remove the row with this id. -/
def erase (id : Int64) (t : Table) : Table := t.filter (·.id != id)

/-- The row with this id. -/
def find? (id : Int64) (t : Table) : Option Row := List.find? (·.id == id) t

/-- The rows after a cursor. -/
def after (cursor : Option Int64) (t : Table) : Table := t.filter fun r => cursor.all (· < r.id)

/-- Rows keyed by their ids: inserted in turn into an empty table, so in id order, the last row
of an id kept. -/
def ofRows (rows : List Row) : Table := rows.foldl (fun acc r => upsert r acc) []

end Table

/-! ## Contents -/

/-- Every table's rows. Tables with no rows may be absent. -/
structure Contents where
  tables : List (String × Table) := []
  deriving Inhabited

namespace Contents

/-- The empty store. -/
def empty : Contents := {}

/-- A table's rows. -/
def table (s : Contents) (name : String) : Table := (s.tables.lookup name).getD []

/-- Replace a table's rows. -/
def setTable (s : Contents) (name : String) (t : Table) : Contents :=
  if s.tables.any (·.1 == name) then
    ⟨s.tables.map fun (n, old) => if n == name then (n, t) else (n, old)⟩
  else ⟨s.tables ++ [(name, t)]⟩

/-- The row of a table with this id. -/
def get? (s : Contents) (table : String) (id : Int64) : Option Row := Table.find? id (s.table table)

/-- Apply one statement, giving the number of rows it touched: an upsert touches one, a
delete one if the row was there. -/
def apply (s : Contents) : Statement → Nat × Contents
  | .upsert table row => (1, s.setTable table (Table.upsert row (s.table table)))
  | .delete table id =>
    match s.get? table id with
    | some _ => (1, s.setTable table (Table.erase id (s.table table)))
    | none => (0, s)

/-- Apply statements in order. -/
def applyAll (s : Contents) (stmts : List Statement) : Contents :=
  stmts.foldl (fun s stmt => (s.apply stmt).2) s

/-- Answer a query. `byIds` sorts and deduplicates the ids and skips absent ones. -/
def select (s : Contents) : Query → List Row
  | .scan table since after limit => page (s.table table) since after limit
  | .byId table id => (s.get? table id).toList
  | .byIds table ids =>
    ((ids.mergeSort (· ≤ ·)).eraseDups).filterMap fun id => s.get? table id

/-- The number of rows of a table. -/
def count (s : Contents) (table : String) : Nat := (s.table table).length

end Contents

end TableMigration.Store
