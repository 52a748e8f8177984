/-!
# Failure

Why a store, routing or validation call failed, and the wording of each cause. A timeout
carries its limit in milliseconds, written as a duration: `0ns`, `250ms`, `1s`, `1.5s`.
-/

namespace TableMigration

/-- A duration of whole milliseconds as text: nanoseconds for zero, milliseconds below a
second, otherwise seconds with the fraction's trailing zeros dropped. -/
def durationText (ms : Nat) : String :=
  if ms = 0 then "0ns"
  else if ms < 1000 then toString ms ++ "ms"
  else
    let whole := toString (ms / 1000)
    let frac := ms % 1000
    if frac = 0 then whole ++ "s"
    else
      let digits := (toString (1000 + frac)).toList.drop 1
      let trimmed := (digits.reverse.dropWhile (· == '0')).reverse
      whole ++ "." ++ String.ofList trimmed ++ "s"

/-- Why a call failed. -/
inductive Failure where
  /-- The storage engine itself failed. -/
  | storage (detail : String)
  /-- The query matched no row. -/
  | noRows
  /-- A value could not be written. -/
  | serialization (detail : String)
  /-- Stored bytes could not be read back. -/
  | deserialization (detail : String)
  /-- A stored key has the wrong shape. -/
  | invalidKey
  /-- A background storage task stopped. -/
  | task (detail : String)
  /-- A transaction could not begin or commit. -/
  | transaction (detail : String)
  /-- The store cannot be reached. -/
  | unavailable (detail : String)
  /-- A bounded call did not finish within the limit (milliseconds). -/
  | timeout (ms : Nat)
  /-- An operation that cannot be paired across two stores. -/
  | unsupportedInDoubleWrite (operation : String)
  /-- A stored pattern number names no pattern. -/
  | unknownPattern (value : UInt8)
  deriving DecidableEq, Repr

namespace Failure

/-- The wording of a failure. -/
def message : Failure → String
  | .storage detail => "storage error: " ++ detail
  | .noRows => "no rows in result set"
  | .serialization detail => "serialization error: " ++ detail
  | .deserialization detail => "deserialization error: " ++ detail
  | .invalidKey => "invalid key format"
  | .task detail => "storage task failed: " ++ detail
  | .transaction detail => "transaction error: " ++ detail
  | .unavailable detail => "store unavailable: " ++ detail
  | .timeout ms => "operation timed out after " ++ durationText ms
  | .unsupportedInDoubleWrite operation => operation ++ " is unsupported in double-write mode"
  | .unknownPattern value => "unknown write pattern: " ++ toString value.toNat

/-- Whether the failure only says that nothing matched. -/
def isNoRows : Failure → Bool
  | .noRows => true
  | _ => false

end Failure

end TableMigration
