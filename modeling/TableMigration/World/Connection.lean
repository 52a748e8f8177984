import TableMigration.World.Basic
import TableMigration.Store.Session

/-!
# World.Connection

Connections a caller uses to reach the stores:

* a double-write pool follows a pattern cell (the scheduler's, or a cell of its own): the
  authoritative side is the primary, written first and the only one read; the shadow side,
  if any, is written after the primary succeeded and its failures are swallowed; a
  transaction begins on the primary, then on the shadow side, and runs without the shadow
  leg if that begin fails; statements cannot be prepared through it;
* a guarded connection goes through one side's faulty path;
* a direct connection reaches one side's store with no faults.

A read through a guarded path may be held back; the caller then waits for it on the clock.
Transactions and prepared statements are numbered from zero in the order they were opened;
a finished transaction keeps its number and can no longer be used.
-/

namespace TableMigration

open TableMigration.Access TableMigration.Store

/-- How a caller reaches the stores. -/
inductive Link where
  /-- The double-write pool that follows the scheduler's pattern. -/
  | pool
  /-- A double-write pool with its own pattern. -/
  | own
  /-- One side's store, with no faults. -/
  | direct (s : Side)
  /-- One side's faulty path. -/
  | guarded (s : Side)
  deriving DecidableEq, Repr

namespace World

/-- The pattern a double-write pool follows. -/
def routeOf (w : World) : Link → Option Pattern
  | .pool => some w.cell.current
  | .own => some w.own.current
  | _ => none

/-- Run a statement. -/
def exec (w : World) (link : Link) (stmt : Statement) : Except Failure Nat × World :=
  let c := w.cluster
  match link, w.routeOf link with
  | .direct s, _ =>
    let (k, c) := c.writeDirect s stmt
    (.ok k, w.setCluster c)
  | .guarded s, _ =>
    let (r, c) := c.write s stmt
    (r, w.setCluster c)
  | _, some p =>
    match c.write p.authoritative stmt with
    | (.error f, c) => (.error f, w.setCluster c)
    | (.ok k, c) =>
      match p.shadow with
      | none => (.ok k, w.setCluster c)
      | some s => (.ok k, w.setCluster (c.write s stmt).2)
  | _, none => (.ok 0, w)

/-- Read through one side's faulty path, waiting on the clock when the read is held back. -/
def guardedRead (w : World) (s : Side) (q : Query) : Except Failure (List Row) × World :=
  match w.cluster.lookup s q with
  | (.refused f, c) => (.error f, w.setCluster c)
  | (.rows rs, c) => (.ok rs, w.setCluster c)
  | (.heldUntil t, c) =>
    let w := (w.setCluster c).sleepUntil t
    (.ok (w.cluster.read s q), w)

/-- Answer a query. -/
def query (w : World) (link : Link) (q : Query) : Except Failure (List Row) × World :=
  match link, w.routeOf link with
  | .direct s, _ => (.ok (w.cluster.read s q), w)
  | .guarded s, _ => w.guardedRead s q
  | _, some p => w.guardedRead p.authoritative q
  | _, none => (.ok [], w)

/-- The first row of an answer. -/
def firstRow : Except Failure (List Row) → Except Failure Row
  | .ok (r :: _) => .ok r
  | .ok [] => .error .noRows
  | .error f => .error f

/-- Keep a new transaction, giving its number. -/
def keep (w : World) (h : Handle) : Nat × World :=
  (w.handles.size, { w with handles := w.handles.push (some h) })

/-- Begin a transaction on one side's faulty path. -/
def beginGuarded (c : Cluster) (s : Side) : Except Failure Leg × Cluster :=
  match c.onNode s (·.admitBegin) with
  | (.error f, c) => (.error f, c)
  | (.ok (), c) => (.ok { side := s, guarded := true }, c)

/-- Begin a transaction, giving its number. -/
def begin (w : World) (link : Link) : Except Failure Nat × World :=
  let c := w.cluster
  match link, w.routeOf link with
  | .direct s, _ =>
    let (n, w) := w.keep { primary := { side := s, guarded := false } }
    (.ok n, w)
  | .guarded s, _ =>
    match beginGuarded c s with
    | (.error f, c) => (.error f, w.setCluster c)
    | (.ok l, c) =>
      let (n, w) := (w.setCluster c).keep { primary := l }
      (.ok n, w)
  | _, some p =>
    match beginGuarded c p.authoritative with
    | (.error f, c) => (.error f, w.setCluster c)
    | (.ok l, c) =>
      let (second, c) :=
        match p.shadow with
        | none => (none, c)
        | some s =>
          match beginGuarded c s with
          | (.ok l2, c) => (some l2, c)
          | (.error _, c) => (none, c)
      let (n, w) := (w.setCluster c).keep { primary := l, secondary := second }
      (.ok n, w)
  | _, none => (.ok 0, w)

/-- Prepare a statement, giving its number. -/
def prepare (w : World) (link : Link) (stmt : Statement) : Except Failure Nat × World :=
  let keepIt (s : Side) : Except Failure Nat × World :=
    (.ok w.prepared.size, { w with prepared := w.prepared.push (s, stmt) })
  match link with
  | .direct s => keepIt s
  | .guarded s =>
    match (w.cluster.node s).admitPrepare with
    | .error f => (.error f, w)
    | .ok () => keepIt s
  | _ => (.error (.unsupportedInDoubleWrite "prepare"), w)

/-- Run a prepared statement on its store. -/
def preparedExec (w : World) (n : Nat) : Except Misuse (Nat × World) :=
  match w.prepared[n]? with
  | none => .error (.noPrepared n)
  | some (s, stmt) =>
    let (k, c) := w.cluster.writeDirect s stmt
    .ok (k, w.setCluster c)

/-- The transaction a step names: the one given, or the one opened last (zero when none). -/
def txNumber (w : World) (n : Option Nat) : Nat := n.getD (w.handles.size - 1)

/-- An open transaction by number. -/
def handle (w : World) (n : Nat) : Except Misuse Handle :=
  match w.handles[n]? with
  | some (some h) => .ok h
  | _ => .error (.noTransaction n)

/-- Write through a transaction. -/
def txExec (w : World) (n : Nat) (stmt : Statement) :
    Except Misuse (Except Failure Nat × World) := do
  let h ← w.handle n
  match h.exec w.cluster stmt with
  | .error f => pure (.error f, w)
  | .ok (k, h) => pure (.ok k, { w with handles := w.handles.set! n (some h) })

/-- Read through a transaction. -/
def txQuery (w : World) (n : Nat) (q : Query) : Except Misuse (List Row) := do
  let h ← w.handle n
  pure (h.query w.cluster q)

/-- Commit a transaction; it is finished either way. -/
def commit (w : World) (n : Nat) : Except Misuse (Except Failure Unit × World) := do
  let h ← w.handle n
  let w := { w with handles := w.handles.set! n none }
  match h.commit w.cluster with
  | .error f => pure (.error f, w)
  | .ok c => pure (.ok (), w.setCluster c)

/-- Drop a transaction. -/
def rollback (w : World) (n : Nat) : Except Misuse World := do
  let _ ← w.handle n
  pure { w with handles := w.handles.set! n none }

/-- Change one side's faults. -/
def fault (w : World) (s : Side) (ch : FaultChange) : World :=
  let n := w.cluster.node s
  w.setCluster (w.cluster.setNode s { n with faults := n.faults.change ch })

end World

end TableMigration
