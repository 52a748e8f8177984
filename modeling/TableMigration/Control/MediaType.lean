/-!
# Control.MediaType

Whether a request's `Content-Type` names JSON.

The header value must be visible ASCII (tabs allowed) and read as a media type
`type/subtype` with optional `;name=value` parameters:

* the type is one or more token bytes, then `/`;
* the subtype is token bytes; a `+` after its first byte marks a suffix (the last `+`
  counts), and a `;` after its first byte starts the parameters;
* a parameter may start with spaces; its name is one or more token bytes up to `=`; its value
  is token bytes (ending at a `;` that follows at least one of them, or at the end) or a
  quoted string of printable bytes followed by spaces, then `;` or the end.

JSON is the type `application` with the subtype `json` or with the suffix `json`, letters
compared without case.
-/

namespace TableMigration.Control

/-- Whether a byte may stand in a token. -/
def isTokenByte (b : UInt8) : Bool :=
  (48 ≤ b && b ≤ 57) || (65 ≤ b && b ≤ 90) || (97 ≤ b && b ≤ 122) ||
    [33, 35, 36, 37, 38, 39, 42, 43, 45, 46, 94, 95, 96, 124, 126].contains b

/-- Whether a byte may stand in a quoted parameter value. -/
def isQuotedByte (b : UInt8) : Bool := 31 < b && b != 127

/-- Whether a header value is visible ASCII. -/
def isVisible (bs : List UInt8) : Bool := bs.all fun b => b == 9 || (32 ≤ b && b < 127)

/-- Lower-case ASCII letters. -/
def lowerByte (b : UInt8) : UInt8 := if 65 ≤ b && b ≤ 90 then b + 32 else b

/-- Where the reading of parameters stands. -/
inductive ParamState where
  /-- At the first byte of a parameter. -/
  | start
  /-- Inside a name. -/
  | name
  /-- At the first byte of a value. -/
  | valueStart
  /-- Inside an unquoted value. -/
  | bare
  /-- Inside a quoted value, after `count` bytes of it. -/
  | quoted (count : Nat)
  /-- After a quoted value. -/
  | afterQuote
  deriving DecidableEq, Repr

/-- Whether the rest of a header value reads as parameters. -/
def paramsRead : ParamState → List UInt8 → Bool
  | .start, [] => true
  | .start, b :: rest =>
    if b == 32 then paramsRead .start rest
    else if isTokenByte b then paramsRead .name rest
    else false
  | .name, [] => false
  | .name, b :: rest =>
    if isTokenByte b then paramsRead .name rest
    else if b == 61 then paramsRead .valueStart rest
    else false
  | .valueStart, [] => true
  | .valueStart, b :: rest =>
    if b == 34 then paramsRead (.quoted 0) rest
    else if isTokenByte b then paramsRead .bare rest
    else false
  | .bare, [] => true
  | .bare, b :: rest =>
    if isTokenByte b then paramsRead .bare rest
    else if b == 59 then paramsRead .start rest
    else false
  | .quoted _, [] => false
  | .quoted n, b :: rest =>
    if b == 34 && n > 0 then paramsRead .afterQuote rest
    else if isQuotedByte b then paramsRead (.quoted (n + 1)) rest
    else false
  | .afterQuote, [] => true
  | .afterQuote, b :: rest =>
    if b == 59 then paramsRead .start rest
    else if b == 32 then paramsRead .afterQuote rest
    else false

/-- A media type's type, subtype and suffix, lower-cased. -/
structure MediaType where
  type : List UInt8
  subtype : List UInt8
  suffix : Option (List UInt8)
  deriving DecidableEq, Repr

/-- Read the type (`acc` holds its bytes so far, last first), giving it and what follows
its slash. -/
def readType (acc : List UInt8) : List UInt8 → Option (List UInt8 × List UInt8)
  | [] => none
  | b :: rest =>
    if b == 47 && !acc.isEmpty then some (acc.reverse, rest)
    else if isTokenByte b then readType (b :: acc) rest
    else none

/-- Read the subtype (`acc` holds its bytes so far, last first; `plus` the position of its
last `+`), giving it, that position, and the bytes after the `;` ending it, if any. -/
def readSubtype (acc : List UInt8) (plus : Option Nat) :
    List UInt8 → Option (List UInt8 × Option Nat × Option (List UInt8))
  | [] => some (acc.reverse, plus, none)
  | b :: rest =>
    if b == 43 && !acc.isEmpty then readSubtype (b :: acc) (some acc.length) rest
    else if b == 59 && !acc.isEmpty then some (acc.reverse, plus, some rest)
    else if isTokenByte b then readSubtype (b :: acc) plus rest
    else none

/-- Read a header value as a media type. -/
def MediaType.parse (bs : List UInt8) : Option MediaType := do
  if !isVisible bs then none
  let bs := bs.map lowerByte
  let (type, rest) ← readType [] bs
  let (sub, plus, params) ← readSubtype [] none rest
  if !(params.map (paramsRead .start)).getD true then none
  match plus with
  | some i => some ⟨type, sub.take i, some (sub.drop (i + 1))⟩
  | none => some ⟨type, sub, none⟩

/-- Whether a media type is JSON. -/
def MediaType.isJson (m : MediaType) : Bool :=
  m.type == "application".toUTF8.toList &&
    (m.subtype == "json".toUTF8.toList || m.suffix == some "json".toUTF8.toList)

/-- Whether a `Content-Type` header (none when absent) names JSON. -/
def namesJson (header : Option String) : Bool :=
  match header with
  | none => false
  | some h => ((MediaType.parse h.toUTF8.toList).map MediaType.isJson).getD false

end TableMigration.Control
