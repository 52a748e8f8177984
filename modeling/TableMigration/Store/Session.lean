import TableMigration.Store.Pool

/-!
# Store.Session

One storage engine together with the transactions and prepared statements opened on it, each
addressed by the number it was given: transactions and prepared statements are numbered
from zero in the order they were opened. A finished transaction keeps its number but can no
longer be used.

Every call gives its answer and the session after it. A call that names nothing usable is a
misuse. A write or a commit can fail in the engine: a failed write leaves the session as it
was, and a commit finishes its transaction whether or not it goes through.
-/

namespace TableMigration.Store

/-- A misuse of a number that names nothing usable. -/
inductive Misuse where
  /-- No transaction was opened under this number, or it is finished. -/
  | noTransaction (n : Nat)
  /-- No statement was prepared under this number. -/
  | noPrepared (n : Nat)
  deriving DecidableEq, Repr

/-- The wording of a misuse. -/
def Misuse.message : Misuse → String
  | .noTransaction n => "no open transaction " ++ toString n
  | .noPrepared n => "no prepared statement " ++ toString n

/-- An engine with its open transactions and prepared statements. -/
structure Session where
  pool : Pool := {}
  transactions : Array (Option Transaction) := #[]
  prepared : Array Statement := #[]

namespace Session

/-- A session over an existing engine. -/
def ofPool (p : Pool) : Session := { pool := p }

/-- Run a statement now. -/
def exec (s : Session) (stmt : Statement) : Except Failure Nat × Session :=
  match s.pool.apply stmt with
  | .ok (n, p) => (.ok n, { s with pool := p })
  | .error f => (.error f, s)

/-- Answer a query from the committed rows. -/
def query (s : Session) (q : Query) : Except Failure (List Row) := s.pool.select q

/-- The first row a query answers. -/
def queryRow (rows : List Row) : Except Failure Row :=
  match rows with
  | r :: _ => .ok r
  | [] => .error .noRows

/-- Open a transaction, giving its number. -/
def begin (s : Session) : Nat × Session :=
  (s.transactions.size, { s with transactions := s.transactions.push (some {}) })

/-- The number of the transaction opened last, if any. -/
def lastTransaction? (s : Session) : Option Nat :=
  if s.transactions.size = 0 then none else some (s.transactions.size - 1)

/-- The open transaction under a number. -/
def transaction (s : Session) (n : Nat) : Except Misuse Transaction :=
  match s.transactions[n]? with
  | some (some tx) => .ok tx
  | _ => .error (.noTransaction n)

/-- Buffer a statement in a transaction. -/
def txExec (s : Session) (n : Nat) (stmt : Statement) : Except Misuse (Except Failure Nat × Session) := do
  let tx ← s.transaction n
  match tx.exec s.pool.reader stmt with
  | .ok (count, tx) => pure (.ok count, { s with transactions := s.transactions.set! n (some tx) })
  | .error f => pure (.error f, s)

/-- Answer a query inside a transaction. -/
def txQuery (s : Session) (n : Nat) (q : Query) : Except Misuse (Except Failure (List Row)) := do
  let tx ← s.transaction n
  pure (tx.query s.pool.reader q)

/-- Commit a transaction; it is finished either way. -/
def commit (s : Session) (n : Nat) : Except Misuse (Except Failure Unit × Session) := do
  let tx ← s.transaction n
  let s := { s with transactions := s.transactions.set! n none }
  match s.pool.commit tx with
  | .ok p => pure (.ok (), { s with pool := p })
  | .error f => pure (.error f, s)

/-- Drop a transaction. -/
def rollback (s : Session) (n : Nat) : Except Misuse Session := do
  let _ ← s.transaction n
  pure { s with transactions := s.transactions.set! n none }

/-- Keep a statement to run later, giving its number. -/
def prepare (s : Session) (stmt : Statement) : Nat × Session :=
  (s.prepared.size, { s with prepared := s.prepared.push stmt })

/-- Run a prepared statement. -/
def preparedExec (s : Session) (n : Nat) : Except Misuse (Except Failure Nat × Session) :=
  match s.prepared[n]? with
  | some stmt => .ok (s.exec stmt)
  | none => .error (.noPrepared n)

end Session

end TableMigration.Store
