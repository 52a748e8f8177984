import TableMigration.Decimal.Shortest
import TableMigration.Json.Value

/-!
# Json.Render

Compact JSON text: no blanks, members in the order held, strings with the short escapes
`\" \\ \b \f \n \r \t` and `\u00xx` (lowercase) for the other control characters; every other
character is written as it is.

A double is written with the fewest significant digits that read back
(`Decimal.Binary.shortest`), laid out by `Json.floatLayout`.
-/

namespace TableMigration.Json

open TableMigration.Decimal

/-! ## Doubles -/

/-- Where a decimal is written positionally and how the exponent looks otherwise. -/
structure FloatLayout where
  /-- Least decimal exponent of the leading digit written positionally. -/
  leastPositional : Int
  /-- Greatest decimal exponent of the leading digit written positionally. -/
  greatestPositional : Int
  /-- A positive exponent carries a plus sign. -/
  plusSign : Bool

/-- Doubles whose leading digit stands at `10^-5 … 10^15` are written positionally, whole
ones with `.0`; the others as `d.ddde±x`, with no padding of the exponent. -/
def floatLayout : FloatLayout := ⟨-5, 15, true⟩

/-- The digit string of a natural number. -/
def digitsOf (n : Nat) : String := toString n

/-- Lay out a shortest decimal `digits · 10^exponent` of a positive double. -/
def FloatLayout.write (l : FloatLayout) (d : Scientific) : String :=
  let ds := digitsOf d.digits
  let count : Int := ds.length
  let lead := d.exponent + count - 1
  if l.leastPositional ≤ lead ∧ lead ≤ l.greatestPositional then
    if 0 ≤ d.exponent then
      ds ++ String.ofList (List.replicate d.exponent.toNat '0') ++ ".0"
    else if 0 ≤ lead then
      let whole := (lead + 1).toNat
      String.ofList (ds.toList.take whole) ++ "." ++ String.ofList (ds.toList.drop whole)
    else
      "0." ++ String.ofList (List.replicate (-lead - 1).toNat '0') ++ ds
  else
    let mantissa :=
      match ds.toList with
      | [c] => String.singleton c
      | c :: rest => String.singleton c ++ "." ++ String.ofList rest
      | [] => ""
    let sign := if lead < 0 then "-" else if l.plusSign then "+" else ""
    mantissa ++ "e" ++ sign ++ toString lead.natAbs

/-- The text of a finite double. Zero keeps its sign: `0.0`, `-0.0`. -/
def floatText (f : Float) : String :=
  let b := Binary.ofBits f.toBits
  let sign := if b.negative then "-" else ""
  if b.mantissa = 0 then sign ++ "0.0"
  else sign ++ floatLayout.write b.shortest

/-! ## Numbers and strings -/

/-- The text of a number. -/
def Number.render : Number → String
  | .nat n => toString n.toNat
  | .neg n => toString n.toInt
  | .float f => floatText f

/-- A lowercase hexadecimal digit. -/
def hexDigit (n : Nat) : Char :=
  if n < 10 then Char.ofNat (48 + n) else Char.ofNat (87 + n)

/-- How one character is written inside a string. -/
def escapeChar (c : Char) : List Char :=
  if c = '"' then ['\\', '"']
  else if c = '\\' then ['\\', '\\']
  else if c = '\n' then ['\\', 'n']
  else if c = '\r' then ['\\', 'r']
  else if c = '\t' then ['\\', 't']
  else if c.toNat = 8 then ['\\', 'b']
  else if c.toNat = 12 then ['\\', 'f']
  else if c.toNat < 32 then ['\\', 'u', '0', '0', hexDigit (c.toNat / 16), hexDigit (c.toNat % 16)]
  else [c]

/-- A string in quotes, escaped. -/
def quote (s : String) : String :=
  "\"" ++ String.ofList (s.toList.flatMap escapeChar) ++ "\""

/-! ## Values -/

/-- Compact text of a value. -/
def Value.render : Value → String
  | .null => "null"
  | .bool true => "true"
  | .bool false => "false"
  | .number n => n.render
  | .string s => quote s
  | .array items => "[" ++ ",".intercalate (renderList items) ++ "]"
  | .object members => "\x7b" ++ ",".intercalate (renderMembers members) ++ "\x7d"
where
  renderList : List Value → List String
    | [] => []
    | v :: vs => Value.render v :: renderList vs
  renderMembers : List (String × Value) → List String
    | [] => []
    | (k, v) :: rest => (quote k ++ ":" ++ Value.render v) :: renderMembers rest

end TableMigration.Json
