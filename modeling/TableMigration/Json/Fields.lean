import TableMigration.Json.Parse

/-!
# Json.Fields

Reading an object as a set of named fields.

`readObjectWith` walks the members of an object and hands each key to a field handler, which
reads the colon and the value itself. A handler may refuse a member with a shape problem
(a field given twice); `finish` may refuse the collected fields (a field missing). Such
problems are placed after the closing brace when it can be read there, and otherwise where
reading stopped. Problems in the text itself keep their own place.
-/

namespace TableMigration.Json

/-- The cursor after trying to read an object's closing brace: blanks and the brace are read
when they are there. -/
def Cursor.afterObjectEnd (c : Cursor) : Cursor :=
  let c := c.skipBlanks
  match c.rest with
  | b :: r => if b == 125 then c.step b r else c
  | [] => c

/-- The cursor after trying to read an array's closing bracket: blanks and the bracket are
read when they are there; a comma is read together with the blanks after it. -/
def Cursor.afterArrayEnd (c : Cursor) : Cursor :=
  let c := c.skipBlanks
  match c.rest with
  | b :: r =>
    if b == 93 then c.step b r
    else if b == 44 then (c.step b r).skipBlanks
    else c
  | [] => c

/-- A field handler: given a key and the fields so far, read the member's colon and value
and give the new fields, or a shape problem. -/
abbrev FieldHandler (σ : Type) := String → σ → Reader (Except Problem σ)

/-- Walk the members, at most `fuel` of them (every member reads at least its quote). -/
def readFieldsWithin (field : FieldHandler σ) : Nat → Bool → σ → Reader (Except Problem σ)
  | 0, _, s => fun c => .ok (.ok s, c)
  | fuel + 1, first, s => fun c =>
    match memberStart first c with
    | .error e => .error e
    | .ok (false, c) => .ok (.ok s, c)
    | .ok (true, c) =>
      match readKey c with
      | .error e => .error e
      | .ok (k, c) =>
        match field k s c with
        | .error e => .error e
        | .ok (.error p, c) => .ok (.error p, c)
        | .ok (.ok s, c) => readFieldsWithin field fuel false s c

/-- Read an object whose opening brace is next, field by field. -/
def readObjectWith (field : FieldHandler σ) (finish : σ → Except Problem α) (init : σ) :
    Reader α := fun c =>
  let c := c.advance
  match readFieldsWithin field c.fuel true init c with
  | .error e => .error e
  | .ok (.error p, c) => .error (c.afterObjectEnd.failHere p)
  | .ok (.ok s, c) =>
    match finish s with
    | .error p => .error (c.afterObjectEnd.failHere p)
    | .ok a =>
      match objectEnd c with
      | .error e => .error e
      | .ok (_, c) => .ok (a, c)

/-- Read a member's colon and then its value with `read`. -/
def memberValue (read : Reader α) : Reader α := do
  memberColon
  read

/-- A field that may be given once: a second time is a `duplicateField` problem, raised
before its value is read. -/
def onceField (name : String) (current : Option α) (read : Reader α) :
    Reader (Except Problem (Option α)) :=
  match current with
  | some _ => fun c => .ok (.error (.duplicateField name), c)
  | none => fun c =>
    match memberValue read c with
    | .error e => .error e
    | .ok (a, c) => .ok (.ok (some a), c)

/-- A required field's value, or a `missingField` problem. -/
def required (name : String) : Option α → Except Problem α
  | some a => .ok a
  | none => .error (.missingField name)

end TableMigration.Json
