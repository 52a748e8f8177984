import TableMigration.Drift
import TableMigration.Record

/-!
# Validation.Basic

What a validation run is configured with, what it reports, and how one id is judged.

A run reads base and target in keyset pages of `batchSize` rows; every single lookup has
`lookupTimeoutMs` and every published drift `notifyTimeoutMs`. After
`maxConsecutiveFailures` failed cursor reads in a row a full run gives up and an
incremental run backs off. A full run reads everything once; an incremental run reads rows
with utime at least `since` and keeps tailing, pausing `intervalMs` between passes.
-/

namespace TableMigration.Validation

/-- Full or incremental scanning. -/
inductive Mode where
  | full
  | incremental (since : Int64) (intervalMs : Nat)
  deriving DecidableEq, Repr, Inhabited

/-- Settings of a validation run. Batch size and failure budget are at least one. -/
structure Config where
  batchSize : Nat := 100
  lookupTimeoutMs : Nat := 1000
  notifyTimeoutMs : Nat := 1000
  maxConsecutiveFailures : Nat := 16
  mode : Mode := .full
  deriving DecidableEq, Repr, Inhabited

namespace Config

/-- Set the batch size, raised to one. -/
def withBatchSize (c : Config) (n : Nat) : Config := { c with batchSize := max n 1 }

/-- Set the lookup limit. -/
def withLookupTimeout (c : Config) (ms : Nat) : Config := { c with lookupTimeoutMs := ms }

/-- Set the publish limit. -/
def withNotifyTimeout (c : Config) (ms : Nat) : Config := { c with notifyTimeoutMs := ms }

/-- Set the failure budget, raised to one. -/
def withMaxConsecutiveFailures (c : Config) (n : Nat) : Config :=
  { c with maxConsecutiveFailures := max n 1 }

/-- Scan everything once. -/
def full (c : Config) : Config := { c with mode := .full }

/-- Tail rows from a watermark, pausing between passes. -/
def incremental (c : Config) (since : Int64) (intervalMs : Nat) : Config :=
  { c with mode := .incremental since intervalMs }

/-- The watermark of an incremental run. -/
def sinceUtime (c : Config) : Option Int64 :=
  match c.mode with
  | .full => none
  | .incremental since _ => some since

/-- The pause of an incremental run. -/
def intervalMs (c : Config) : Option Nat :=
  match c.mode with
  | .full => none
  | .incremental _ ms => some ms

end Config

/-- What a run saw and did. -/
structure Report where
  baseScanned : Nat := 0
  targetScanned : Nat := 0
  targetMissing : Nat := 0
  baseMissing : Nat := 0
  neq : Nat := 0
  lookupFailures : Nat := 0
  notifyFailures : Nat := 0
  aborted : Bool := false
  cancelled : Bool := false
  deriving DecidableEq, Repr, Inhabited

namespace Report

/-- Drifts found, of every kind. -/
def events (r : Report) : Nat := r.targetMissing + r.baseMissing + r.neq

/-- Count one drift of a kind. -/
def record (r : Report) : DriftKind → Report
  | .targetMissing => { r with targetMissing := r.targetMissing + 1 }
  | .baseMissing => { r with baseMissing := r.baseMissing + 1 }
  | .neq => { r with neq := r.neq + 1 }

/-- Add two reports: counts add, flags join. -/
def merge (a b : Report) : Report where
  baseScanned := a.baseScanned + b.baseScanned
  targetScanned := a.targetScanned + b.targetScanned
  targetMissing := a.targetMissing + b.targetMissing
  baseMissing := a.baseMissing + b.baseMissing
  neq := a.neq + b.neq
  lookupFailures := a.lookupFailures + b.lookupFailures
  notifyFailures := a.notifyFailures + b.notifyFailures
  aborted := a.aborted || b.aborted
  cancelled := a.cancelled || b.cancelled

theorem events_record (r : Report) (k : DriftKind) : (r.record k).events = r.events + 1 := by
  cases k <;> simp [record, events] <;> omega

end Report

/-- Judge one id from its base and target records: missing on one side, or present on both
and not matching. -/
def classify : Option Record → Option Record → Option DriftKind
  | some _, none => some .targetMissing
  | none, some _ => some .baseMissing
  | some b, some t => if b.matches t then none else some .neq
  | none, none => none

end TableMigration.Validation
