/-!
# Json.Value

JSON documents as this library holds them. A number keeps the class it was read in: a
non-negative integer, a negative integer, or a double; `1` and `1.0` are different values,
while `0.0` and `-0.0` are equal, as doubles compare. An object keeps its members sorted by
key with one member per key, so equal objects have equal member lists.
-/

namespace TableMigration.Json

/-- A JSON number: a non-negative integer below `2^64`, a negative integer not below `-2^63`,
or a finite double. -/
inductive Number where
  | nat (n : UInt64)
  | neg (n : Int64)
  | float (f : Float)

namespace Number

/-- The number for a signed 64-bit integer: negative ones keep the signed class. -/
def ofInt64 (i : Int64) : Number :=
  if i < 0 then .neg i else .nat i.toUInt64

/-- Integers compare by class and value; doubles compare as doubles. -/
def beq : Number → Number → Bool
  | .nat a, .nat b => a == b
  | .neg a, .neg b => a == b
  | .float a, .float b => a == b
  | _, _ => false

instance : BEq Number := ⟨beq⟩

/-- The value as a signed 64-bit integer, if it is an integer in range. -/
def toInt64? : Number → Option Int64
  | .nat n => if n.toNat < Nat.pow 2 63 then some n.toInt64 else none
  | .neg n => some n
  | .float _ => none

end Number

/-- A JSON value. Object members are kept sorted by key, one per key. -/
inductive Value where
  | null
  | bool (b : Bool)
  | number (n : Number)
  | string (s : String)
  | array (items : List Value)
  | object (members : List (String × Value))

namespace Value

/-- Structural equality, numbers compared as `Number.beq`. -/
def beq : Value → Value → Bool
  | .null, .null => true
  | .bool a, .bool b => a == b
  | .number a, .number b => a.beq b
  | .string a, .string b => a == b
  | .array xs, .array ys => beqList xs ys
  | .object xs, .object ys => beqMembers xs ys
  | _, _ => false
where
  beqList : List Value → List Value → Bool
    | [], [] => true
    | x :: xs, y :: ys => beq x y && beqList xs ys
    | _, _ => false
  beqMembers : List (String × Value) → List (String × Value) → Bool
    | [], [] => true
    | (k, x) :: xs, (l, y) :: ys => k == l && beq x y && beqMembers xs ys
    | _, _ => false

instance : BEq Value := ⟨beq⟩

/-- The integer value for a signed 64-bit integer. -/
def ofInt64 (i : Int64) : Value := .number (Number.ofInt64 i)

/-- The member of an object under a key. -/
def get? (v : Value) (key : String) : Option Value :=
  match v with
  | .object members => members.lookup key
  | _ => none

end Value

/-! ## Sorted members -/

/-- Set a member of a sorted member list: replace the value under an existing key, or insert
the key at its place in key order. -/
def Members.insert (key : String) (v : Value) : List (String × Value) → List (String × Value)
  | [] => [(key, v)]
  | (k, w) :: rest =>
    if key < k then (key, v) :: (k, w) :: rest
    else if key = k then (key, v) :: rest
    else (k, w) :: Members.insert key v rest

/-- A member list from pairs taken in order; a later pair under a key wins. -/
def Members.ofList (pairs : List (String × Value)) : List (String × Value) :=
  pairs.foldl (fun acc (k, v) => Members.insert k v acc) []

end TableMigration.Json
