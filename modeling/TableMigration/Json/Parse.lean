import TableMigration.Json.Reader

/-!
# Json.Parse

Values and typed fields read from JSON text.

* `readValue` reads any value. Arrays and objects may nest at most 127 deep below the
  value that holds them: each level takes one unit of a budget of 128, and the level that
  would use up the budget fails at its bracket. Objects keep the last member under a key.
* `readInt64` and `readText` read a field that must be a signed 64-bit integer or a
  string, naming what was found instead.
* `skipValue` steps over a value that nobody asked for, checking only its shape.
* `readDocument` reads one thing and then allows only blanks.
-/

namespace TableMigration.Json

/-- The budget of nesting levels for one document. -/
def nestingBudget : Nat := 128

/-- The failure for meeting something other than the expected kind of value. The found value
is read first when it is a literal, a number or a string; the failure is placed after it. -/
def invalidTypeAhead (expected : String) : Reader α := fun c =>
  let c := c.skipBlanks
  match c.rest with
  | [] => .error (c.failPeek (.flaw .expectedValue))
  | b :: r =>
    let found : Except Error (Found × Cursor) :=
      if b == 110 then (c.step b r).expectWord [117, 108, 108] |>.map (Found.null, ·)
      else if b == 116 then (c.step b r).expectWord [114, 117, 101] |>.map (Found.bool true, ·)
      else if b == 102 then
        (c.step b r).expectWord [97, 108, 115, 101] |>.map (Found.bool false, ·)
      else if b == 45 then (c.step b r).readNumber false |>.map fun (n, c) => (n.found, c)
      else if isDigit b then c.readNumber true |>.map fun (n, c) => (n.found, c)
      else if b == 34 then (c.step b r).readString |>.map fun (s, c) => (Found.string s, c)
      else if b == 91 then .ok (.sequence, c)
      else if b == 123 then .ok (.map, c)
      else .error (c.failPeek (.flaw .expectedValue))
    match found with
    | .ok (f, c) => .error (c.failHere (.invalidType f expected))
    | .error e => .error e

/-! ## Any value -/

mutual

/-- Read any value with `depth` nesting levels left. `fuel` bounds the calls; every call
along a chain reads at least one byte, so twice the length of the text is enough. -/
def readValue (depth : Nat) (fuel : Nat) : Reader Value := fun c =>
  match fuel with
  | 0 => .error (c.failHere (.flaw .eofValue))
  | fuel + 1 =>
    let c := c.skipBlanks
    match c.rest with
    | [] => .error (c.failPeek (.flaw .eofValue))
    | b :: r =>
      if b == 110 then (c.step b r).expectWord [117, 108, 108] |>.map (Value.null, ·)
      else if b == 116 then (c.step b r).expectWord [114, 117, 101] |>.map (Value.bool true, ·)
      else if b == 102 then
        (c.step b r).expectWord [97, 108, 115, 101] |>.map (Value.bool false, ·)
      else if b == 45 then (c.step b r).readNumber false |>.map fun (n, c) => (.number n, c)
      else if isDigit b then c.readNumber true |>.map fun (n, c) => (.number n, c)
      else if b == 34 then (c.step b r).readString |>.map fun (s, c) => (.string s, c)
      else if b == 91 then
        if depth ≤ 1 then .error (c.failPeek (.flaw .recursionLimit))
        else
          match readItems (depth - 1) fuel true [] (c.step b r) with
          | .ok (items, c) => arrayEnd c |>.map fun (_, c) => (.array items, c)
          | .error e => .error e
      else if b == 123 then
        if depth ≤ 1 then .error (c.failPeek (.flaw .recursionLimit))
        else
          match readMembers (depth - 1) fuel true [] (c.step b r) with
          | .ok (members, c) => objectEnd c |>.map fun (_, c) => (.object members, c)
          | .error e => .error e
      else .error (c.failPeek (.flaw .expectedValue))

/-- Read the elements of an array up to its closing bracket (left unread). -/
def readItems (depth : Nat) (fuel : Nat) (first : Bool) (acc : List Value) : Reader (List Value) :=
  fun c =>
  match fuel with
  | 0 => .error (c.failHere (.flaw .eofList))
  | fuel + 1 =>
    match elementStart first c with
    | .error e => .error e
    | .ok (false, c) => .ok (acc.reverse, c)
    | .ok (true, c) =>
      match readValue depth fuel c with
      | .error e => .error e
      | .ok (v, c) => readItems depth fuel false (v :: acc) c

/-- Read the members of an object up to its closing brace (left unread); a later member
under a key replaces an earlier one. -/
def readMembers (depth : Nat) (fuel : Nat) (first : Bool) (acc : List (String × Value)) :
    Reader (List (String × Value)) := fun c =>
  match fuel with
  | 0 => .error (c.failHere (.flaw .eofObject))
  | fuel + 1 =>
    match memberStart first c with
    | .error e => .error e
    | .ok (false, c) => .ok (acc, c)
    | .ok (true, c) =>
      match (do let k ← readKey; memberColon; pure k : Reader String) c with
      | .error e => .error e
      | .ok (k, c) =>
        match readValue depth fuel c with
        | .error e => .error e
        | .ok (v, c) => readMembers depth fuel false (Members.insert k v acc) c

end

/-- Fuel enough for any value in the text still to read. -/
def Cursor.fuel (c : Cursor) : Nat := 2 * c.rest.length + 4

/-- Read any value with the given nesting budget. -/
def readValueWithin (depth : Nat) : Reader Value := fun c => readValue depth c.fuel c

/-! ## Skipping a value -/

/-- The kind of an open bracket while skipping: array or object. -/
inductive Open where
  | array
  | object
  deriving DecidableEq

/-- Whether a byte closes a bracket of this kind. -/
def Open.closes : Open → UInt8 → Bool
  | .array, b => b == 93
  | .object, b => b == 125

/-- The end of the text inside an open bracket. -/
def Open.eof : Open → Flaw
  | .array => .eofList
  | .object => .eofObject

mutual

/-- Step over one value, with the brackets still open around it in `stack`, innermost
first; no nesting limit applies. -/
def skipIn (fuel : Nat) (stack : List Open) : Reader Unit := fun c =>
  match fuel with
  | 0 => .error (c.failHere (.flaw .eofValue))
  | fuel + 1 =>
    let c := c.skipBlanks
    match c.rest with
    | [] => .error (c.failPeek (.flaw .eofValue))
    | b :: r =>
      let scalar : Option (Except Error Cursor) :=
        if b == 110 then some ((c.step b r).expectWord [117, 108, 108])
        else if b == 116 then some ((c.step b r).expectWord [114, 117, 101])
        else if b == 102 then some ((c.step b r).expectWord [97, 108, 115, 101])
        else if b == 45 || isDigit b then some c.skipNumber
        else if b == 34 then some (c.step b r).skipString
        else none
      match scalar with
      | some (.error e) => .error e
      | some (.ok c) => closeAfter fuel stack c
      | none =>
        if b == 91 || b == 123 then
          let frame := if b == 91 then Open.array else Open.object
          let c := (c.step b r).skipBlanks
          match c.rest with
          | [] => .error (c.failPeek (.flaw frame.eof))
          | d :: r2 =>
            if frame.closes d then closeAfter fuel stack (c.step d r2)
            else openItem fuel (frame :: stack) frame c
        else .error (c.failPeek (.flaw .expectedValue))

/-- After a value inside the open brackets: a comma starts the next item, the matching
closing bracket closes one level, and with no bracket open the value was the whole. -/
def closeAfter (fuel : Nat) (stack : List Open) : Reader Unit := fun c =>
  match fuel with
  | 0 => .error (c.failHere (.flaw .eofValue))
  | fuel + 1 =>
    match stack with
    | [] => .ok ((), c)
    | frame :: outer =>
      let c := c.skipBlanks
      match c.rest with
      | [] => .error (c.failPeek (.flaw frame.eof))
      | b :: r =>
        if b == 44 then openItem fuel stack frame (c.step b r)
        else if frame.closes b then closeAfter fuel outer (c.step b r)
        else
          .error (c.failPeek (.flaw (if frame == .array then .expectedListCommaOrEnd
            else .expectedObjectCommaOrEnd)))

/-- Start the next item of the innermost open bracket: an object's item begins with a key
and a colon. -/
def openItem (fuel : Nat) (stack : List Open) (frame : Open) : Reader Unit := fun c =>
  match fuel with
  | 0 => .error (c.failHere (.flaw .eofValue))
  | fuel + 1 =>
    if frame == .object then
      let c := c.skipBlanks
      match c.rest with
      | [] => .error (c.failPeek (.flaw .eofObject))
      | b :: r =>
        if b != 34 then .error (c.failPeek (.flaw .keyMustBeString))
        else
          match (c.step b r).skipString with
          | .error e => .error e
          | .ok c =>
            let c := c.skipBlanks
            match c.rest with
            | [] => .error (c.failPeek (.flaw .eofObject))
            | b :: r =>
              if b == 58 then skipIn fuel stack (c.step b r)
              else .error (c.failPeek (.flaw .expectedColon))
    else skipIn fuel stack c

end

/-- Step over one value of the text. -/
def skipValue : Reader Unit := fun c => skipIn (2 * c.fuel) [] c

/-! ## Typed fields -/

/-- A number as a signed 64-bit integer field. -/
def Number.asInt64 : Number → Except Problem Int64
  | .nat n =>
    if n.toNat < Nat.pow 2 63 then .ok n.toInt64 else .error (.invalidValue (.unsigned n.toNat) "i64")
  | .neg i => .ok i
  | .float f => .error (.invalidType (.float f) "i64")

/-- A number as an unsigned 64-bit integer field. -/
def Number.asUInt64 : Number → Except Problem Nat
  | .nat n => .ok n.toNat
  | .neg i => .error (.invalidValue (.signed i.toInt) "u64")
  | .float f => .error (.invalidType (.float f) "u64")

/-- Read a field that must be a number of the kind `expected`, converted by `convert`. A
failure is placed after the value that was found. -/
def readNumberAs (expected : String) (convert : Number → Except Problem α) : Reader α := fun c =>
  let c := c.skipBlanks
  match c.rest with
  | [] => .error (c.failPeek (.flaw .eofValue))
  | b :: r =>
    let number :=
      if b == 45 then some ((c.step b r).readNumber false)
      else if isDigit b then some (c.readNumber true)
      else none
    match number with
    | none => invalidTypeAhead expected c
    | some (.error e) => .error e
    | some (.ok (n, c)) =>
      match convert n with
      | .ok i => .ok (i, c)
      | .error p => .error (c.failHere p)

/-- Read a field that must be a signed 64-bit integer. -/
def readInt64 : Reader Int64 := readNumberAs "i64" Number.asInt64

/-- Read a field that must be an unsigned 64-bit integer. -/
def readUInt64 : Reader Nat := readNumberAs "u64" Number.asUInt64

/-- Read a field that may be `null` (none) or a signed 64-bit integer. -/
def readOptionalInt64 : Reader (Option Int64) := fun c =>
  let c := c.skipBlanks
  match c.rest with
  | 110 :: r =>
    match (c.step 110 r).expectWord [117, 108, 108] with
    | .ok c => .ok (none, c)
    | .error e => .error e
  | _ =>
    match readInt64 c with
    | .ok (i, c) => .ok (some i, c)
    | .error e => .error e

/-- Read a field that must be a string. -/
def readText : Reader String := fun c =>
  let c := c.skipBlanks
  match c.rest with
  | [] => .error (c.failPeek (.flaw .eofValue))
  | b :: r =>
    if b == 34 then (c.step b r).readString else invalidTypeAhead "a string" c

/-! ## Documents -/

/-- Read one thing from the text, then allow only blanks. -/
def readDocument (read : Reader α) (bytes : List UInt8) : Except Error α :=
  match read (Cursor.start bytes) with
  | .error e => .error e
  | .ok (a, c) =>
    let c := c.skipBlanks
    match c.rest with
    | [] => .ok a
    | _ => .error (c.failPeek (.flaw .trailingCharacters))

/-- Parse a whole text as one value. -/
def Value.parse (bytes : List UInt8) : Except Error Value :=
  readDocument (readValueWithin nestingBudget) bytes

/-- Parse a string as one value. -/
def Value.parseText (s : String) : Except Error Value :=
  Value.parse s.toUTF8.toList

end TableMigration.Json
