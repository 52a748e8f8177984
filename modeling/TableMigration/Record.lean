import TableMigration.Json.Fields

/-!
# Record

A schemaless record: an id, a modification time (`utime`, in milliseconds) and any number of
named columns holding JSON values, kept sorted by name.

A record is written as one JSON object: `id`, then `utime`, then the columns in name order.
Reading takes `id` (required) and `utime` (zero when absent) as signed 64-bit integers and
every other member as a column; a column given twice keeps its last value. Nested values may
be at most 127 levels deep below the record.

Two records match when their ids and columns are equal; `utime` may differ.
-/

namespace TableMigration

open Json

/-- A record with sorted, distinct column names. -/
structure Record where
  id : Int64
  utime : Int64
  columns : List (String × Value)

namespace Record

/-- A record with no columns. -/
def new (id utime : Int64) : Record := ⟨id, utime, []⟩

/-- Set a column, replacing one of the same name. -/
def withColumn (r : Record) (name : String) (v : Value) : Record :=
  { r with columns := Members.insert name v r.columns }

/-- The record's JSON text: `id`, `utime`, then the columns in name order. -/
def encode (r : Record) : String :=
  "\x7b\"id\":" ++ toString r.id.toInt ++ ",\"utime\":" ++ toString r.utime.toInt ++
    String.join (r.columns.map fun (k, v) => "," ++ quote k ++ ":" ++ v.render) ++ "\x7d"

/-- Whether two records agree on id and columns; `utime` is not compared. -/
def «matches» (a b : Record) : Bool :=
  a.id == b.id && Value.beq (.object a.columns) (.object b.columns)

/-- The fields of a record read so far; columns in the order met, latest first. -/
structure Fields where
  id : Option Int64 := none
  utime : Option Int64 := none
  columns : List (String × Value) := []

/-- The nesting budget left for a column's value, below the record's own level. -/
def columnBudget : Nat := nestingBudget - 1

/-- Read one member of a record. -/
def field : FieldHandler Fields := fun key s =>
  if key == "id" then (onceField "id" s.id readInt64).map (·.map ({ s with id := · }))
  else if key == "utime" then
    (onceField "utime" s.utime readInt64).map (·.map ({ s with utime := · }))
  else fun c =>
    match memberValue (readValueWithin columnBudget) c with
    | .error e => .error e
    | .ok (v, c) => .ok (.ok { s with columns := (key, v) :: s.columns }, c)

/-- The record once all members are read. -/
def finish (s : Fields) : Except Problem Record := do
  let id ← required "id" s.id
  pure ⟨id, s.utime.getD 0, Members.ofList s.columns.reverse⟩

/-- Read a record whose object is next; anything else is the wrong type. -/
def read : Reader Record := fun c =>
  let c := c.skipBlanks
  match c.rest with
  | [] => .error (c.failPeek (.flaw .eofValue))
  | b :: _ =>
    if b == 123 then readObjectWith field finish {} c
    else invalidTypeAhead "struct JsonRecord" c

/-- Decode a record from its JSON bytes. -/
def decode (bytes : List UInt8) : Except Json.Error Record :=
  readDocument read bytes

end Record

end TableMigration
