import TableMigration.Access.Cluster
import TableMigration.Store.Transaction

/-!
# Access.Handle

An open transaction as a caller holds it. It has a primary leg, which answers reads and whose
failures are the transaction's, and possibly a second leg on the shadow side, which is
written after the primary and whose failures are swallowed. Each leg is a store transaction
on one side, reached through that side's guarded path or directly.

A write goes to the primary leg, then to the second. Commit commits the primary leg; if that
fails the second leg is dropped and the failure returned, otherwise the second leg is
committed and its failure ignored. Rollback drops both legs.
-/

namespace TableMigration.Access

open TableMigration.Store

/-- One leg of an open transaction. -/
structure Leg where
  side : Side
  /-- Whether the leg goes through the side's guarded path. -/
  guarded : Bool
  tx : Transaction := {}
  deriving Inhabited

/-- An open transaction: the primary leg and the leg on the shadow side, if any. -/
structure Handle where
  primary : Leg
  secondary : Option Leg := none
  deriving Inhabited

namespace Leg

/-- Buffer a write, giving the rows it touches as the transaction sees them. -/
def write (l : Leg) (c : Cluster) (stmt : Statement) : Except Failure (Nat × Leg) :=
  let n := c.node l.side
  match (if l.guarded then n.txWriteCheck else .ok ()) with
  | .error f => .error f
  | .ok () =>
    let (k, tx) := Id.run (l.tx.exec (Reader.ofContents n.contents) stmt)
    .ok (k, { l with tx := tx })

/-- Answer a query as the leg sees its store. -/
def query (l : Leg) (c : Cluster) (q : Query) : List Row :=
  Id.run (l.tx.query (Reader.ofContents (c.node l.side).contents) q)

/-- Commit the leg into its store. -/
def commit (l : Leg) (c : Cluster) : Except Failure Cluster :=
  let n := c.node l.side
  match (if l.guarded then n.txCommitCheck else .ok ()) with
  | .error f => .error f
  | .ok () => .ok (c.setNode l.side { n with contents := l.tx.commit n.contents })

end Leg

namespace Handle

/-- Write through the transaction: the primary leg's failure is the answer; the second leg is
written after it and its failure leaves that leg as it was. -/
def exec (h : Handle) (c : Cluster) (stmt : Statement) : Except Failure (Nat × Handle) :=
  match h.primary.write c stmt with
  | .error f => .error f
  | .ok (k, p) =>
    let s := h.secondary.map fun l =>
      match l.write c stmt with
      | .ok (_, l) => l
      | .error _ => l
    .ok (k, { primary := p, secondary := s })

/-- Read through the transaction: the primary leg answers. -/
def query (h : Handle) (c : Cluster) (q : Query) : List Row := h.primary.query c q

/-- Commit: the primary leg first; the second leg only after it succeeded. -/
def commit (h : Handle) (c : Cluster) : Except Failure Cluster :=
  match h.primary.commit c with
  | .error f => .error f
  | .ok c =>
    match h.secondary with
    | none => .ok c
    | some l =>
      match l.commit c with
      | .ok c => .ok c
      | .error _ => .ok c

end Handle

end TableMigration.Access
