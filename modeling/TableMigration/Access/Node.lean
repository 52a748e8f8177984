import TableMigration.Store.Table
import TableMigration.Failure
import TableMigration.Pattern

/-!
# Access.Node

One store together with the faults injected into the path to it, and the counters of what
went through that path.

A guarded call checks the path first. An offline path refuses everything and counts nothing.
Otherwise a write is counted and then refused if writes fail; a read is counted and then a
scan is refused while scans are set to fail (each refusal uses one up), a batch lookup is
refused while batch lookups fail, and a lookup of the slow id is held back for its delay
before the store is read; a begin is counted and then refused if begins fail. A guarded
transaction checks only failing writes (on each write) and failing commits.

The store itself is reached unguarded too; those calls neither fail nor count.
-/

namespace TableMigration.Access

open TableMigration.Store

/-- The faults on one access path, and its counters. -/
structure Faults where
  offline : Bool := false
  failWrites : Bool := false
  failBegin : Bool := false
  failCommit : Bool := false
  failByIds : Bool := false
  failNextScans : Nat := 0
  /-- A lookup of this id waits this many milliseconds. -/
  slow : Option (Int64 × Nat) := none
  execs : Nat := 0
  queries : Nat := 0
  begins : Nat := 0
  deriving Repr, Inhabited

/-- A change to the faults: each given setting replaces the current one. -/
structure FaultChange where
  offline : Option Bool := none
  failWrites : Option Bool := none
  failBegin : Option Bool := none
  failCommit : Option Bool := none
  failByIds : Option Bool := none
  failNextScans : Option Nat := none
  slow : Option (Int64 × Nat) := none
  clearSlow : Bool := false
  deriving Repr, Inhabited

/-- Apply a change: the flags given, then the slow lookup, then its removal. -/
def Faults.change (f : Faults) (c : FaultChange) : Faults :=
  let f := { f with
    offline := c.offline.getD f.offline
    failWrites := c.failWrites.getD f.failWrites
    failBegin := c.failBegin.getD f.failBegin
    failCommit := c.failCommit.getD f.failCommit
    failByIds := c.failByIds.getD f.failByIds
    failNextScans := c.failNextScans.getD f.failNextScans
    slow := c.slow.orElse fun _ => f.slow }
  if c.clearSlow then { f with slow := none } else f

/-- One store and the path to it. -/
structure Node where
  side : Side
  contents : Contents := {}
  faults : Faults := {}
  deriving Inhabited

namespace Node

/-- The failure of an offline path. -/
def offlineFailure (n : Node) : Failure := .unavailable n.side.label

/-- Run a statement on the store itself, giving the rows it touched. -/
def write (n : Node) (stmt : Statement) : Nat × Node :=
  let (k, c) := n.contents.apply stmt
  (k, { n with contents := c })

/-- Answer a query from the store itself. -/
def read (n : Node) (q : Query) : List Row := n.contents.select q

/-- Pass a write through the path: offline, then counted, then failing writes. -/
def admitWrite (n : Node) : Except Failure Unit × Node :=
  if n.faults.offline then (.error n.offlineFailure, n)
  else
    let n := { n with faults := { n.faults with execs := n.faults.execs + 1 } }
    if n.faults.failWrites then (.error (.unavailable (n.side.label ++ " rejected write")), n)
    else (.ok (), n)

/-- A guarded write. -/
def guardedWrite (n : Node) (stmt : Statement) : Except Failure Nat × Node :=
  match n.admitWrite with
  | (.error f, n) => (.error f, n)
  | (.ok (), n) =>
    let (k, n) := n.write stmt
    (.ok k, n)

/-- Pass a read through the path, giving how long it is held back (zero for not at all):
offline, then counted, then failing scans or batch lookups, then the slow id. -/
def admitRead (n : Node) (q : Query) : Except Failure Nat × Node :=
  if n.faults.offline then (.error n.offlineFailure, n)
  else
    let f := { n.faults with queries := n.faults.queries + 1 }
    let n := { n with faults := f }
    match q with
    | .scan .. =>
      if f.failNextScans > 0 then
        (.error (.unavailable (n.side.label ++ " scan failed")),
          { n with faults := { f with failNextScans := f.failNextScans - 1 } })
      else (.ok 0, n)
    | .byIds .. =>
      if f.failByIds then (.error (.unavailable (n.side.label ++ " batch lookup failed")), n)
      else (.ok 0, n)
    | .byId _ id =>
      match f.slow with
      | some (slowId, ms) => (.ok (if slowId == id then ms else 0), n)
      | none => (.ok 0, n)

/-- Pass a begin through the path: offline, then counted, then failing begins. -/
def admitBegin (n : Node) : Except Failure Unit × Node :=
  if n.faults.offline then (.error n.offlineFailure, n)
  else
    let n := { n with faults := { n.faults with begins := n.faults.begins + 1 } }
    if n.faults.failBegin then (.error (.transaction (n.side.label ++ " refused begin")), n)
    else (.ok (), n)

/-- Pass a prepare through the path: only an offline path refuses it. -/
def admitPrepare (n : Node) : Except Failure Unit :=
  if n.faults.offline then .error n.offlineFailure else .ok ()

/-- A guarded transaction's write check. -/
def txWriteCheck (n : Node) : Except Failure Unit :=
  if n.faults.failWrites then .error (.unavailable (n.side.label ++ " rejected write")) else .ok ()

/-- A guarded transaction's commit check. -/
def txCommitCheck (n : Node) : Except Failure Unit :=
  if n.faults.failCommit then .error (.transaction (n.side.label ++ " commit failed")) else .ok ()

/-- An offline path refuses a read and counts nothing. -/
theorem admitRead_offline (n : Node) (q : Query) (h : n.faults.offline = true) :
    n.admitRead q = (.error n.offlineFailure, n) := by
  simp [admitRead, h]

end Node

end TableMigration.Access
