import TableMigration.Pattern
import TableMigration.Json.Value

/-!
# Control.Error

Failures of the control surface. An internal failure answers status 500 with the fixed
message `internal error` and code 5, keeping its detail out of the answer; a bad request
answers status 400 with code 4 and its own message. An unknown pattern name and a refused
switch are bad requests; a corrupt pattern cell is internal.
-/

namespace TableMigration.Control

open Json

/-- A failure of a control request. -/
inductive ControlError where
  | internal (detail : String)
  | badRequest (message : String)
  deriving DecidableEq, Repr

namespace ControlError

/-- The text of the failure. -/
def message : ControlError → String
  | .internal detail => "internal error: " ++ detail
  | .badRequest msg => "bad request: " ++ msg

/-- The HTTP status. -/
def status : ControlError → Nat
  | .internal _ => 500
  | .badRequest _ => 400

/-- The answer body `{code, msg}`. -/
def body : ControlError → Value
  | .internal _ => .object [("code", .number (.nat 5)), ("msg", .string "internal error")]
  | .badRequest msg => .object [("code", .number (.nat 4)), ("msg", .string msg)]

/-- A pattern error as a control failure. -/
def ofPatternError (e : PatternError) : ControlError :=
  match e with
  | .unknown _ | .illegalTransition _ _ => .badRequest e.message
  | .corrupt _ => .internal e.message

end ControlError

end TableMigration.Control
