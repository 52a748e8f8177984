import TableMigration.Pattern
import TableMigration.Json.Fields

/-!
# Drift

A drift is one id on which the two stores disagree, with the side that was authoritative
for the run that found it and the kind of disagreement: the row is missing from the target,
missing from the base, or present in both with different content.

Drifts travel as JSON objects `{"ID":…,"Direction":"SRC"|"DST","Type":…}`, written in that
field order. Reading accepts the three fields in any order, ignores other members, and also
accepts the positional form `[id, direction, type]`. A direction is checked before a type, so
a payload wrong in both reports the direction.
-/

namespace TableMigration

open Json

/-- The kind of disagreement on one id. -/
inductive DriftKind where
  /-- Present in the base, absent in the target. -/
  | targetMissing
  /-- Present in the target, absent in the base. -/
  | baseMissing
  /-- Present in both with different content. -/
  | neq
  deriving DecidableEq, Repr, Inhabited

namespace DriftKind

/-- The wire name. -/
def name : DriftKind → String
  | .targetMissing => "target_missing"
  | .baseMissing => "base_missing"
  | .neq => "neq"

/-- The kind with exactly this wire name. -/
def ofName? (text : String) : Option DriftKind :=
  [DriftKind.targetMissing, .baseMissing, .neq].find? (·.name == text)

theorem ofName?_name (k : DriftKind) : ofName? k.name = some k := by
  cases k <;> rfl

end DriftKind

/-- The side with exactly this wire name. -/
def Side.ofName? (text : String) : Option Side :=
  if text == "SRC" then some .src else if text == "DST" then some .dst else none

/-- One disagreement found by a run. -/
structure Drift where
  id : Int64
  side : Side
  kind : DriftKind
  deriving DecidableEq, Repr, Inhabited

/-- Why a payload is not a drift. -/
inductive DriftError where
  /-- The payload is not a JSON object with the three fields. -/
  | malformed (e : Json.Error)
  /-- The type names no kind. -/
  | unknownType (text : String)
  /-- The direction names no side. -/
  | unknownDirection (text : String)

/-- The wording of a drift error. -/
def DriftError.message : DriftError → String
  | .malformed e => "malformed event: " ++ e.message
  | .unknownType text => "unknown inconsistency type: " ++ text
  | .unknownDirection text => "unknown direction: " ++ text

/-- Parse a kind's wire name, failing with `unknownType`. -/
def DriftKind.parse (text : String) : Except DriftError DriftKind :=
  match DriftKind.ofName? text with
  | some k => .ok k
  | none => .error (.unknownType text)

namespace Drift

/-- The wire text: `ID`, `Direction`, `Type`, in this order. -/
def encode (d : Drift) : String :=
  "\x7b\"ID\":" ++ toString d.id.toInt ++ ",\"Direction\":" ++ quote d.side.name ++
    ",\"Type\":" ++ quote d.kind.name ++ "\x7d"

/-- The three wire fields before their values are checked. -/
structure Wire where
  id : Int64
  direction : String
  kind : String

/-- The wire fields read so far. -/
structure WireFields where
  id : Option Int64 := none
  direction : Option String := none
  kind : Option String := none

/-- Read one member of the wire object; unknown members are stepped over. -/
def wireField : FieldHandler WireFields := fun key s =>
  if key == "ID" then (onceField "ID" s.id readInt64).map (·.map ({ s with id := · }))
  else if key == "Direction" then
    (onceField "Direction" s.direction readText).map (·.map ({ s with direction := · }))
  else if key == "Type" then
    (onceField "Type" s.kind readText).map (·.map ({ s with kind := · }))
  else fun c =>
    match memberValue skipValue c with
    | .error e => .error e
    | .ok (_, c) => .ok (.ok s, c)

/-- The wire fields once all members are read: each is required, checked in wire order. -/
def finishWire (s : WireFields) : Except Problem Wire := do
  let id ← required "ID" s.id
  let direction ← required "Direction" s.direction
  let kind ← required "Type" s.kind
  pure ⟨id, direction, kind⟩

/-- What the positional form is expected to hold. -/
def positionalShape : String := "struct WireEvent with 3 elements"

/-- Read the positional form `[id, direction, type]`; its bracket is next. Missing elements
are an `invalidLength` problem placed after the closing bracket. -/
def readPositional : Reader Wire := fun c =>
  let short (n : Nat) (c : Cursor) : Except Error (Wire × Cursor) :=
    .error (c.afterArrayEnd.failHere (.invalidLength n positionalShape))
  let c := c.advance
  match elementStart true c with
  | .error e => .error e
  | .ok (false, c) => short 0 c
  | .ok (true, c) =>
    match readInt64 c with
    | .error e => .error e
    | .ok (id, c) =>
      match elementStart false c with
      | .error e => .error e
      | .ok (false, c) => short 1 c
      | .ok (true, c) =>
        match readText c with
        | .error e => .error e
        | .ok (direction, c) =>
          match elementStart false c with
          | .error e => .error e
          | .ok (false, c) => short 2 c
          | .ok (true, c) =>
            match readText c with
            | .error e => .error e
            | .ok (kind, c) =>
              match arrayEnd c with
              | .error e => .error e
              | .ok (_, c) => .ok (⟨id, direction, kind⟩, c)

/-- Read the wire fields, as an object or in positional form. -/
def readWire : Reader Wire := fun c =>
  let c := c.skipBlanks
  match c.rest with
  | [] => .error (c.failPeek (.flaw .eofValue))
  | b :: _ =>
    if b == 91 then readPositional c
    else if b == 123 then readObjectWith wireField finishWire {} c
    else invalidTypeAhead "struct WireEvent" c

/-- Decode a payload: the JSON shape first, then the direction, then the type. -/
def decode (bytes : List UInt8) : Except DriftError Drift :=
  match readDocument readWire bytes with
  | .error e => .error (.malformed e)
  | .ok w =>
    match Side.ofName? w.direction with
    | none => .error (.unknownDirection w.direction)
    | some side =>
      match DriftKind.parse w.kind with
      | .error e => .error e
      | .ok kind => .ok ⟨w.id, side, kind⟩

/-- The order in which pending drifts are handled: by id, then kind name, then side name. -/
def orderKey (d : Drift) : Int × String × String := (d.id.toInt, d.kind.name, d.side.name)

end Drift

end TableMigration
