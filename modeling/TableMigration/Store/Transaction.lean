import TableMigration.Store.Table

/-!
# Store.Transaction

A transaction buffers its statements and reads through them: a read sees the transaction's
own latest write of a row, and the store's current row otherwise. Commit applies every
buffered statement in order as one batch; rollback drops them.

A transaction reads the store through a `Reader`, in the store's own effects: reads of the
contents of a store cannot fail (`Reader.ofContents`), reads of the storage engine can. A read
that fails fails the call, and a write whose read fails buffers nothing.
-/

namespace TableMigration.Store

/-- How a transaction reads the store it runs on: one row by id, and the rows of a table after
a cursor in id order. -/
structure Reader (m : Type → Type) where
  get : String → Int64 → m (Option Row)
  rowsAfter : String → Option Int64 → m (List Row)

/-- Reading the contents of a store. -/
def Reader.ofContents (s : Contents) : Reader Id where
  get table id := pure (s.get? table id)
  rowsAfter table after := pure (Table.after after (s.table table))

/-- The buffered statements (in order) and the latest write of each touched row (`none` for a
delete). -/
structure Transaction where
  ops : List Statement := []
  cache : List ((String × Int64) × Option Row) := []
  deriving Inhabited

namespace Transaction

/-- The latest buffered write of a row, if any. -/
def cached? (tx : Transaction) (table : String) (id : Int64) : Option (Option Row) :=
  tx.cache.lookup (table, id)

/-- Record the latest write of a row. -/
def remember (tx : Transaction) (table : String) (id : Int64) (row : Option Row) :
    Transaction :=
  { tx with cache := ((table, id), row) :: tx.cache.filter (·.1 != (table, id)) }

variable {m : Type → Type} [Monad m]

/-- A row as the transaction sees it. -/
def readOne (tx : Transaction) (r : Reader m) (table : String) (id : Int64) : m (Option Row) :=
  match tx.cached? table id with
  | some row => pure row
  | none => r.get table id

/-- Buffer a statement, giving the rows it touches as the transaction sees them. A delete reads
its row first. -/
def exec (tx : Transaction) (r : Reader m) (stmt : Statement) : m (Nat × Transaction) :=
  let tx' := { tx with ops := tx.ops ++ [stmt] }
  match stmt with
  | .upsert table row => pure (1, tx'.remember table row.id (some row))
  | .delete table id => do
    let existed := (← tx.readOne r table id).isSome
    pure ((if existed then 1 else 0), tx'.remember table id none)

/-- The rows of a table as the transaction sees them: rows read from the store, overlaid with
every buffered write to the table. -/
def overlay (tx : Transaction) (table : String) (rows : Table) : Table :=
  tx.cache.foldr (fun ((t, id), row) acc =>
    if t == table then
      match row with
      | some r => Table.upsert r acc
      | none => Table.erase id acc
    else acc) rows

/-- Answer a query as the transaction sees the store. A batch lookup reads each id asked for in
turn; a scan reads every row of the table after the cursor, then overlays the buffered writes. -/
def query (tx : Transaction) (r : Reader m) : Query → m (List Row)
  | .byId table id => Option.toList <$> tx.readOne r table id
  | .byIds table ids => do
    let found ← ids.mapM (tx.readOne r table)
    pure (Table.ofRows found.reduceOption)
  | .scan table since after limit => do
    let rows ← r.rowsAfter table after
    pure (page (tx.overlay table (Table.ofRows rows)) since after limit)

/-- The contents of a store after commit. A transaction with no statements leaves them
unchanged. -/
def commit (tx : Transaction) (s : Contents) : Contents := s.applyAll tx.ops

end Transaction

end TableMigration.Store
