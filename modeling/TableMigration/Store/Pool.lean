import TableMigration.Store.Tree
import TableMigration.Store.Payload
import TableMigration.Store.Transaction
import TableMigration.Failure

/-!
# Store.Pool

The storage engine: the rows of every table in one ordered byte map (`Tree`). A row lives at its
key (`rowKey`: its table's prefix, then its id in order-preserving bytes), and its value is its
stored payload (`encodePayload`), the id living in the key.

A read of one row looks its key up and reads the payload back. A scan of a table after a cursor
reads the entries from just past the cursor's key, or from the key of the least id, up to the key
of the greatest id, in key order, and rebuilds each row from its key and value as it is read: a
key whose part after the table's prefix is not eight bytes fails as `invalidKey`, and a value that
is no payload as `deserialization`. A write sets or clears one key and a batch writes the keys of
its statements in order, all at once. The storage under the map can fail; then every access
fails with its detail and nothing is written.
-/

namespace TableMigration.Store

/-- A row's stored value: its utime and data. -/
def Row.stored (r : Row) : List UInt8 := encodePayload r.utime r.data

/-- The key and the written value of a statement. -/
def Statement.entry : Statement → List UInt8 × Option (List UInt8)
  | .upsert table row => (rowKey table row.id, some row.stored)
  | .delete table id => (rowKey table id, none)

/-- The storage engine: the byte map, and the failure of the storage under it, if it failed. -/
structure Pool where
  tree : Tree := {}
  fault : Option String := none

namespace Pool

/-- Reach the byte map. -/
def access (p : Pool) : Except Failure Tree :=
  match p.fault with
  | some detail => .error (.storage detail)
  | none => .ok p.tree

/-- Rejoin a stored value with its id. -/
def decodeRow (id : Int64) (bytes : List UInt8) : Except Failure Row :=
  match decodePayload bytes with
  | some (utime, data) => .ok ⟨id, utime, data⟩
  | none => .error (.deserialization "invalid archive")

/-- Read one row. -/
def get (p : Pool) (table : String) (id : Int64) : Except Failure (Option Row) := do
  let tree ← p.access
  match tree.get? (rowKey table id) with
  | some bytes => some <$> decodeRow id bytes
  | none => pure none

/-- Where a scan after a cursor starts. -/
def scanStart (table : String) : Option Int64 → Bound
  | some id => .excluded (rowKey table id)
  | none => .included (rowKey table Int64.minValue)

/-- The rows of a table after a cursor, in key order, each as it is read. -/
def scanAfter (p : Pool) (table : String) (after : Option Int64) : List (Except Failure Row) :=
  match p.access with
  | .error f => [.error f]
  | .ok tree =>
    (tree.range (scanStart table after) (rowKey table Int64.maxValue)).map fun e =>
      match decodeId (e.1.drop (tablePrefix table).length) with
      | some id => decodeRow id e.2
      | none => .error .invalidKey

/-- Every row of a table after a cursor; the first that cannot be read fails the call. -/
def rowsAfter (p : Pool) (table : String) (after : Option Int64) : Except Failure (List Row) :=
  (p.scanAfter table after).mapM id

/-- The number of rows of a table. -/
def count (p : Pool) (table : String) : Except Failure Nat :=
  List.length <$> p.rowsAfter table none

/-- Keep the rows at or above the watermark as a scan reads them, checking before each read
whether `limit` rows are kept already; a row that cannot be read fails the call. -/
def takeRows (since : Option Int64) : Nat → List (Except Failure Row) → Except Failure (List Row)
  | 0, _ => .ok []
  | _ + 1, [] => .ok []
  | _ + 1, .error f :: _ => .error f
  | n + 1, .ok row :: rest =>
    if since.all (· ≤ row.utime) then (row :: ·) <$> takeRows since n rest
    else takeRows since (n + 1) rest

/-- Answer a query from the stored rows. A batch lookup sorts the ids, drops repeats, and reads
them in turn. -/
def select (p : Pool) : Query → Except Failure (List Row)
  | .scan table since after limit => takeRows since limit (p.scanAfter table after)
  | .byId table id => Option.toList <$> p.get table id
  | .byIds table ids =>
    List.reduceOption <$> ((ids.mergeSort (· ≤ ·)).eraseDups).mapM (p.get table)

/-- Run one statement, giving the rows it touched: one for an upsert, and for a delete one if
its key held a value. -/
def apply (p : Pool) (stmt : Statement) : Except Failure (Nat × Pool) := do
  let tree ← p.access
  match stmt with
  | .upsert table row => pure (1, { p with tree := tree.insert (rowKey table row.id) row.stored })
  | .delete table id =>
    let (removed, tree) := tree.remove (rowKey table id)
    pure ((if removed.isSome then 1 else 0), { p with tree := tree })

/-- Run statements in order as one batch. -/
def applyAll (p : Pool) (stmts : List Statement) : Except Failure Pool := do
  let tree ← p.access
  pure { p with tree := tree.applyBatch (stmts.map Statement.entry) }

/-- How a transaction reads the engine. -/
def reader (p : Pool) : Reader (Except Failure) := ⟨p.get, p.rowsAfter⟩

/-- Commit a transaction's statements as one batch; one with no statements commits at once. A
batch that fails fails the commit, with the batch's wording. -/
def commit (p : Pool) (tx : Transaction) : Except Failure Pool :=
  if tx.ops.isEmpty then .ok p
  else
    match p.applyAll tx.ops with
    | .ok p => .ok p
    | .error f => .error (.transaction f.message)

end Pool

end TableMigration.Store
