import TableMigration.Json.Fields

/-!
# Control.Request

The body of a request to start incremental validation: `{"utime": i64 | null, "interval":
u64}` (`utime` may be left out), or the same two fields in order as an array, where a
missing `utime` is left out too but a missing `interval` is a length failure. Unknown members
are stepped over; a member given twice is refused.

A failure names where it arose: inside a member's value (`utime: …`), inside an element
(`[1]: …`), or nowhere in particular (the punctuation, a key, a missing or repeated field,
the document as a whole). Failures of the text itself are syntax failures; failures of the
shape of the data are data failures, and the two are worded differently in the answer.
-/

namespace TableMigration.Control

open TableMigration.Json

/-- A request to start incremental validation. -/
structure TailRequest where
  utime : Option Int64
  interval : Nat
  deriving DecidableEq, Repr

/-- A failure reading a body, and where inside the body it arose (empty at the top). -/
structure BodyError where
  path : String
  error : Json.Error

namespace BodyError

/-- Whether the failure is in the shape of the data rather than in the text. -/
def isData (e : BodyError) : Bool :=
  match e.error.problem with
  | .flaw _ => false
  | _ => true

/-- `path: failure`, or the failure alone at the top. -/
def text (e : BodyError) : String :=
  (if e.path.isEmpty then "" else e.path ++ ": ") ++ e.error.message

end BodyError

/-- A reading step that may fail at some place in the body. -/
abbrev Placed (α : Type) := Except BodyError (α × Cursor)

/-- Tag the failure of a reading step with a place. -/
def placed (path : String) (r : Except Error (α × Cursor)) : Placed α :=
  match r with
  | .ok a => .ok a
  | .error e => .error ⟨path, e⟩

/-- What the array form holds. -/
def tailShape : String := "struct IncrementalRequest with 2 elements"

/-- The fields read so far. -/
structure TailFields where
  utime : Option (Option Int64) := none
  interval : Option Nat := none

/-- Read a member's colon (a failure at the top) and its value (a failure inside `key`). -/
def memberAt (key : String) (read : Reader α) (c : Cursor) : Placed α :=
  match placed "" (memberColon c) with
  | .error e => .error e
  | .ok ((), c) => placed key (read c)

/-- Walk the members of the object, at most `fuel` of them. -/
def readTailMembers : Nat → Bool → TailFields → Cursor → Placed (Except Problem TailFields)
  | 0, _, s, c => .ok (.ok s, c)
  | fuel + 1, first, s, c =>
    match placed "" (memberStart first c) with
    | .error e => .error e
    | .ok (false, c) => .ok (.ok s, c)
    | .ok (true, c) =>
      match placed "" (readKey c) with
      | .error e => .error e
      | .ok (k, c) =>
        if k == "utime" then
          if s.utime.isSome then .ok (.error (.duplicateField "utime"), c)
          else
            match memberAt k readOptionalInt64 c with
            | .error e => .error e
            | .ok (u, c) => readTailMembers fuel false { s with utime := some u } c
        else if k == "interval" then
          if s.interval.isSome then .ok (.error (.duplicateField "interval"), c)
          else
            match memberAt k readUInt64 c with
            | .error e => .error e
            | .ok (i, c) => readTailMembers fuel false { s with interval := some i } c
        else
          match memberAt k skipValue c with
          | .error e => .error e
          | .ok ((), c) => readTailMembers fuel false s c

/-- Read the object form; its brace is next. -/
def readTailObject (c : Cursor) : Placed TailRequest :=
  let c := c.advance
  match readTailMembers c.fuel true {} c with
  | .error e => .error e
  | .ok (.error p, c) => .error ⟨"", c.afterObjectEnd.failHere p⟩
  | .ok (.ok s, c) =>
    match s.interval with
    | none => .error ⟨"", c.afterObjectEnd.failHere (.missingField "interval")⟩
    | some i =>
      match placed "" (objectEnd c) with
      | .error e => .error e
      | .ok ((), c) => .ok (⟨s.utime.getD none, i⟩, c)

/-- Read the array form; its bracket is next. -/
def readTailArray (c : Cursor) : Placed TailRequest :=
  let short (n : Nat) (c : Cursor) : Placed TailRequest :=
    .error ⟨"", c.afterArrayEnd.failHere (.invalidLength n tailShape)⟩
  let c := c.advance
  let first : Placed (Option Int64 × Bool) :=
    match placed "" (elementStart true c) with
    | .error e => .error e
    | .ok (false, c) => .ok ((none, true), c)
    | .ok (true, c) =>
      match placed "[0]" (readOptionalInt64 c) with
      | .error e => .error e
      | .ok (u, c) => .ok ((u, false), c)
  match first with
  | .error e => .error e
  | .ok ((utime, stillFirst), c) =>
    match placed "" (elementStart stillFirst c) with
    | .error e => .error e
    | .ok (false, c) => short 1 c
    | .ok (true, c) =>
      match placed "[1]" (readUInt64 c) with
      | .error e => .error e
      | .ok (i, c) =>
        match placed "" (arrayEnd c) with
        | .error e => .error e
        | .ok ((), c) => .ok (⟨utime, i⟩, c)

/-- Read a request body. Nothing but the request itself is read: what follows it is left. -/
def TailRequest.parse (body : List UInt8) : Except BodyError TailRequest :=
  let c := (Cursor.start body).skipBlanks
  let read : Placed TailRequest :=
    match c.rest with
    | [] => .error ⟨"", c.failPeek (.flaw .eofValue)⟩
    | b :: _ =>
      if b == 123 then readTailObject c
      else if b == 91 then readTailArray c
      else placed "" (invalidTypeAhead "struct IncrementalRequest" c)
  read.map (·.1)

end TableMigration.Control
