import TableMigration.Json.Value
import TableMigration.Json.Render
import TableMigration.Text.GraphemeExtend
import TableMigration.Text.Printable

/-!
# Json.Reader

Reading JSON text byte by byte, with the exact place of every failure.

A `Cursor` holds the bytes still to read and the line and column reached: the column counts
the bytes read since the last line feed. A failure found at a byte that was only looked at
(`failPeek`) is placed as if that byte had been read too; a failure found after reading is
placed where reading stopped (`failHere`).

This module holds the lexical layer: blanks, literal words, numbers, strings and the
punctuation around members and elements. Values and typed fields are read in
`Json.Parse`.
-/

namespace TableMigration.Json

/-! ## Failures -/

/-- What is wrong with the text itself. -/
inductive Flaw where
  | eofList
  | eofObject
  | eofString
  | eofValue
  | expectedColon
  | expectedListCommaOrEnd
  | expectedObjectCommaOrEnd
  | expectedIdent
  | expectedValue
  | invalidEscape
  | invalidNumber
  | numberOutOfRange
  | invalidCodePoint
  | controlCharacter
  | keyMustBeString
  | loneLeadingSurrogate
  | trailingComma
  | trailingCharacters
  | unexpectedEndOfHexEscape
  | recursionLimit
  deriving DecidableEq, Repr

/-- The wording of a syntax failure. -/
def Flaw.text : Flaw → String
  | .eofList => "EOF while parsing a list"
  | .eofObject => "EOF while parsing an object"
  | .eofString => "EOF while parsing a string"
  | .eofValue => "EOF while parsing a value"
  | .expectedColon => "expected `:`"
  | .expectedListCommaOrEnd => "expected `,` or `]`"
  | .expectedObjectCommaOrEnd => "expected `,` or `\x7d`"
  | .expectedIdent => "expected ident"
  | .expectedValue => "expected value"
  | .invalidEscape => "invalid escape"
  | .invalidNumber => "invalid number"
  | .numberOutOfRange => "number out of range"
  | .invalidCodePoint => "invalid unicode code point"
  | .controlCharacter => "control character (\\u0000-\\u001F) found while parsing a string"
  | .keyMustBeString => "key must be a string"
  | .loneLeadingSurrogate => "lone leading surrogate in hex escape"
  | .trailingComma => "trailing comma"
  | .trailingCharacters => "trailing characters"
  | .unexpectedEndOfHexEscape => "unexpected end of hex escape"
  | .recursionLimit => "recursion limit exceeded"

/-- A value met where another kind was expected. -/
inductive Found where
  | bool (b : Bool)
  | unsigned (n : Nat)
  | signed (i : Int)
  | float (f : Float)
  | string (s : String)
  | null
  | sequence
  | map

/-- The character as a debugging quote writes it inside double quotes: the usual backslash
escapes, and `\u{…}` in lowercase hexadecimal for a character that extends the grapheme
cluster before it or is not printable (see `Text.GraphemeExtend`, `Text.Printable`). -/
def debugChar (c : Char) : List Char :=
  if c = '\x00' then ['\\', '0']
  else if c = '\t' then ['\\', 't']
  else if c = '\r' then ['\\', 'r']
  else if c = '\n' then ['\\', 'n']
  else if c = '\\' then ['\\', '\\']
  else if c = '"' then ['\\', '"']
  else if Text.isGraphemeExtend c || !Text.isPrintable c then
    ['\\', 'u', '\x7b'] ++ Nat.toDigits 16 c.toNat ++ ['\x7d']
  else [c]

/-- A string in double quotes as a debugging quote writes it. -/
def debugQuote (s : String) : String :=
  "\"" ++ String.ofList (s.toList.flatMap debugChar) ++ "\""

/-- How a found value is named in a failure. -/
def Found.text : Found → String
  | .bool b => "boolean `" ++ (if b then "true" else "false") ++ "`"
  | .unsigned n => "integer `" ++ toString n ++ "`"
  | .signed i => "integer `" ++ toString i ++ "`"
  | .float f => "floating point `" ++ floatText f ++ "`"
  | .string s => "string " ++ debugQuote s
  | .null => "null"
  | .sequence => "sequence"
  | .map => "map"

/-- A number as a found value. -/
def Number.found : Number → Found
  | .nat n => .unsigned n.toNat
  | .neg i => .signed i.toInt
  | .float f => .float f

/-- Why reading stopped: bad text, or text that does not have the shape asked for. -/
inductive Problem where
  | flaw (code : Flaw)
  | invalidType (found : Found) (expected : String)
  | invalidValue (found : Found) (expected : String)
  | invalidLength (count : Nat) (expected : String)
  | missingField (name : String)
  | duplicateField (name : String)

/-- The wording of a problem. -/
def Problem.text : Problem → String
  | .flaw code => code.text
  | .invalidType found expected => "invalid type: " ++ found.text ++ ", expected " ++ expected
  | .invalidValue found expected => "invalid value: " ++ found.text ++ ", expected " ++ expected
  | .invalidLength count expected =>
    "invalid length " ++ toString count ++ ", expected " ++ expected
  | .missingField name => "missing field `" ++ name ++ "`"
  | .duplicateField name => "duplicate field `" ++ name ++ "`"

/-- A problem and where it was found. -/
structure Error where
  problem : Problem
  line : Nat
  column : Nat

/-- `problem at line L column C`. -/
def Error.message (e : Error) : String :=
  e.problem.text ++ " at line " ++ toString e.line ++ " column " ++ toString e.column

/-! ## The cursor -/

/-- The bytes still to read, and the line and column reached. -/
structure Cursor where
  rest : List UInt8
  line : Nat
  column : Nat

/-- A cursor at the start of a text. -/
def Cursor.start (bytes : List UInt8) : Cursor := ⟨bytes, 1, 0⟩

/-- Line and column after reading one byte: a line feed starts a new line. -/
def Position.next (p : Nat × Nat) (b : UInt8) : Nat × Nat :=
  if b == 10 then (p.1 + 1, 0) else (p.1, p.2 + 1)

namespace Cursor

/-- The cursor after the byte `b`, with `r` left to read. -/
def step (c : Cursor) (b : UInt8) (r : List UInt8) : Cursor :=
  let p := Position.next (c.line, c.column) b
  ⟨r, p.1, p.2⟩

/-- The cursor after the bytes `bs`, with `r` left to read. -/
def skip (c : Cursor) (bs : List UInt8) (r : List UInt8) : Cursor :=
  let p := bs.foldl Position.next (c.line, c.column)
  ⟨r, p.1, p.2⟩

/-- The cursor after one more byte (unchanged at the end). -/
def advance (c : Cursor) : Cursor :=
  match c.rest with
  | [] => c
  | b :: r => c.step b r

/-- A failure placed where reading stopped. -/
def failHere (c : Cursor) (p : Problem) : Error := ⟨p, c.line, c.column⟩

/-- A failure placed after the byte looked at, or where reading stopped at the end. -/
def failPeek (c : Cursor) (p : Problem) : Error :=
  let d := c.advance
  ⟨p, d.line, d.column⟩

/-- The next byte, if any. -/
def peek (c : Cursor) : Option UInt8 := c.rest.head?

/-- Whether a byte is blank: space, line feed, tab, carriage return. -/
def isBlank (b : UInt8) : Bool := b == 32 || b == 10 || b == 9 || b == 13

/-- Step over blanks. -/
def skipBlanks (c : Cursor) : Cursor :=
  match _h : c.rest with
  | [] => c
  | b :: r => if isBlank b then (c.step b r).skipBlanks else c
termination_by c.rest.length
decreasing_by simp_all [Cursor.step]

end Cursor

/-- Reading with a cursor that either moves on or stops with a failure. -/
abbrev Reader := StateT Cursor (Except Error)

/-- Stop with a failure placed where reading stopped. -/
def failHere (p : Problem) : Reader α := fun c => .error (c.failHere p)

/-- Stop with a failure placed after the byte looked at. -/
def failPeek (p : Problem) : Reader α := fun c => .error (c.failPeek p)

/-- Step over blanks and look at the next byte. -/
def peekAfterBlanks : Reader (Option UInt8) := fun c =>
  let c := c.skipBlanks
  .ok (c.peek, c)

/-- Step over the byte looked at. -/
def eat : Reader Unit := fun c => .ok ((), c.advance)

/-! ## Bytes -/

/-- Whether a byte is an ASCII digit. -/
def isDigit (b : UInt8) : Bool := 48 ≤ b && b ≤ 57

/-- The value of an ASCII digit. -/
def digitValue (b : UInt8) : Nat := (b - 48).toNat

/-- The value of a hexadecimal digit of either case. -/
def hexValue (b : UInt8) : Option Nat :=
  if 48 ≤ b ∧ b ≤ 57 then some (b - 48).toNat
  else if 97 ≤ b ∧ b ≤ 102 then some ((b - 97).toNat + 10)
  else if 65 ≤ b ∧ b ≤ 70 then some ((b - 65).toNat + 10)
  else none

/-- Four hexadecimal digits as one number. -/
def hex4 (a b c d : UInt8) : Option Nat := do
  let a ← hexValue a
  let b ← hexValue b
  let c ← hexValue c
  let d ← hexValue d
  pure (((a * 16 + b) * 16 + c) * 16 + d)

/-- The UTF-8 bytes of a code point. -/
def utf8Of (n : Nat) : List UInt8 := (String.singleton (Char.ofNat n)).toUTF8.toList

/-- The byte a one-letter escape stands for. -/
def simpleEscape (e : UInt8) : Option UInt8 :=
  if e == 34 then some 34
  else if e == 92 then some 92
  else if e == 47 then some 47
  else if e == 98 then some 8
  else if e == 102 then some 12
  else if e == 110 then some 10
  else if e == 114 then some 13
  else if e == 116 then some 9
  else none

/-! ## Literal words -/

/-- Read the bytes of a literal word one by one: the end of the text fails as a missing value,
another byte as a bad word, placed after that byte. -/
def Cursor.expectWord (c : Cursor) : List UInt8 → Except Error Cursor
  | [] => .ok c
  | w :: ws =>
    match c.rest with
    | [] => .error (c.failHere (.flaw .eofValue))
    | b :: r =>
      let c := c.step b r
      if b == w then c.expectWord ws else .error (c.failHere (.flaw .expectedIdent))

/-! ## Strings -/

/-- Read a string's body after its opening quote, up to and over its closing quote, giving
its bytes. Escapes are decoded; a high surrogate must be followed by a low one; a raw control
character fails after it. -/
def Cursor.scanString (c : Cursor) (acc : Array UInt8) : Except Error (Array UInt8 × Cursor) :=
  match _h : c.rest with
  | [] => .error (c.failHere (.flaw .eofString))
  | b :: r =>
    let c1 := c.step b r
    if b == 34 then .ok (acc, c1)
    else if b == 92 then
      match _h1 : r with
      | [] => .error (c1.failHere (.flaw .eofString))
      | e :: r2 =>
        let c2 := c1.step e r2
        match simpleEscape e with
        | some x => c2.scanString (acc.push x)
        | none =>
          if e == 117 then
            match _h2 : r2 with
            | x1 :: x2 :: x3 :: x4 :: r3 =>
              let c3 := c2.skip [x1, x2, x3, x4] r3
              match hex4 x1 x2 x3 x4 with
              | none => .error (c3.failHere (.flaw .invalidEscape))
              | some n =>
                if 0xDC00 ≤ n ∧ n ≤ 0xDFFF then
                  .error (c3.failHere (.flaw .loneLeadingSurrogate))
                else if n < 0xD800 ∨ 0xDBFF < n then
                  c3.scanString (acc ++ (utf8Of n).toArray)
                else
                  match _h3 : r3 with
                  | [] => .error (c3.failHere (.flaw .eofString))
                  | y :: r4 =>
                    let c4 := c3.step y r4
                    if y != 92 then .error (c4.failHere (.flaw .unexpectedEndOfHexEscape))
                    else
                      match _h4 : r4 with
                      | [] => .error (c4.failHere (.flaw .eofString))
                      | z :: r5 =>
                        let c5 := c4.step z r5
                        if z != 117 then .error (c5.failHere (.flaw .unexpectedEndOfHexEscape))
                        else
                          match _h5 : r5 with
                          | g1 :: g2 :: g3 :: g4 :: r6 =>
                            let c6 := c5.skip [g1, g2, g3, g4] r6
                            match hex4 g1 g2 g3 g4 with
                            | none => .error (c6.failHere (.flaw .invalidEscape))
                            | some m =>
                              if 0xDC00 ≤ m ∧ m ≤ 0xDFFF then
                                let cp := ((n - 0xD800) * 1024 + (m - 0xDC00)) + 0x10000
                                c6.scanString (acc ++ (utf8Of cp).toArray)
                              else .error (c6.failHere (.flaw .loneLeadingSurrogate))
                          | short => .error ((c5.skip short []).failHere (.flaw .eofString))
            | short => .error ((c2.skip short []).failHere (.flaw .eofString))
          else .error (c2.failHere (.flaw .invalidEscape))
    else if b < 32 then .error (c1.failHere (.flaw .controlCharacter))
    else c1.scanString (acc.push b)
termination_by c.rest.length
decreasing_by all_goals simp_all [Cursor.step, Cursor.skip] <;> omega

/-- Whether a byte continues a UTF-8 sequence. -/
def isContinuation (b : UInt8) : Bool := 0x80 ≤ b && b ≤ 0xBF

/-- The length of the longest well-formed UTF-8 prefix of some bytes. A character is one
ASCII byte, or a lead byte followed by the continuation bytes its range allows: no overlong
forms, no surrogates and nothing above U+10FFFF. -/
def utf8ValidPrefix : List UInt8 → Nat
  | [] => 0
  | b :: rest =>
    if b < 0x80 then 1 + utf8ValidPrefix rest
    else if 0xC2 ≤ b && b ≤ 0xDF then
      match rest with
      | x :: r => if isContinuation x then 2 + utf8ValidPrefix r else 0
      | [] => 0
    else if 0xE0 ≤ b && b ≤ 0xEF then
      let lo : UInt8 := if b == 0xE0 then 0xA0 else 0x80
      let hi : UInt8 := if b == 0xED then 0x9F else 0xBF
      match rest with
      | x :: y :: r =>
        if lo ≤ x && x ≤ hi && isContinuation y then 3 + utf8ValidPrefix r else 0
      | _ => 0
    else if 0xF0 ≤ b && b ≤ 0xF4 then
      let lo : UInt8 := if b == 0xF0 then 0x90 else 0x80
      let hi : UInt8 := if b == 0xF4 then 0x8F else 0xBF
      match rest with
      | x :: y :: z :: r =>
        if lo ≤ x && x ≤ hi && isContinuation y && isContinuation z then
          4 + utf8ValidPrefix r
        else 0
      | _ => 0
    else 0

/-- Read a string after its opening quote and check that its bytes are UTF-8. The check
runs on the decoded bytes once the closing quote is read, and a bad sequence is placed by
counting back from the closing quote as many bytes as were decoded, then forward over the
well-formed part: for a string without escapes that is one byte past the last good byte,
and every escape before the quote moves the place right by what it saved. -/
def Cursor.readString (c : Cursor) : Except Error (String × Cursor) := do
  let (bytes, after) ← c.scanString #[]
  match String.fromUTF8? ⟨bytes⟩ with
  | some s => pure (s, after)
  | none =>
    let raw := c.rest.length - after.rest.length - 1
    let offset := raw + 1 - bytes.size + utf8ValidPrefix bytes.toList
    .error ⟨.flaw .invalidCodePoint, c.line, c.column + offset⟩

/-- Step over a string after its opening quote without decoding it. Escapes are checked only
for their shape; a raw control character fails before it. -/
def Cursor.skipString (c : Cursor) : Except Error Cursor :=
  match _h : c.rest with
  | [] => .error (c.failHere (.flaw .eofString))
  | b :: r =>
    if b == 34 then .ok (c.step b r)
    else if b == 92 then
      let c1 := c.step b r
      match _h1 : r with
      | [] => .error (c1.failHere (.flaw .eofString))
      | e :: r2 =>
        let c2 := c1.step e r2
        if (simpleEscape e).isSome then c2.skipString
        else if e == 117 then
          match _h2 : r2 with
          | x1 :: x2 :: x3 :: x4 :: r3 =>
            let c3 := c2.skip [x1, x2, x3, x4] r3
            if (hex4 x1 x2 x3 x4).isSome then c3.skipString
            else .error (c3.failHere (.flaw .invalidEscape))
          | short => .error ((c2.skip short []).failHere (.flaw .eofString))
        else .error (c2.failHere (.flaw .invalidEscape))
    else if b < 32 then .error (c.failHere (.flaw .controlCharacter))
    else (c.step b r).skipString
termination_by c.rest.length
decreasing_by all_goals simp_all [Cursor.step, Cursor.skip] <;> omega

/-! ## Numbers

A number's digits go into a 64-bit significand while they fit. An integer is then a
non-negative or negative integer; a fraction, an exponent or a digit that does not fit makes
it a double, computed as the significand scaled by a power of ten (`Decimal.scaleByTen`).
`-0` is the double `-0.0`, and a negative integer below `-2^63` is a double.
-/

/-- The largest 64-bit unsigned value. -/
def u64Max : Nat := Nat.pow 2 64 - 1

/-- Whether `sig * 10 + d` passes `limit`. -/
def overflows (sig d limit : Nat) : Bool :=
  sig ≥ limit / 10 && (sig > limit / 10 || d > limit % 10)

/-- Read digits into a significand while it stays within 64 bits; stop before a digit that
would pass that. Gives the significand, how many digits were read, whether a digit was left
over for lack of room, and the cursor. -/
def Cursor.takeSignificand (c : Cursor) (sig count : Nat) : Nat × Nat × Bool × Cursor :=
  match h : c.rest with
  | [] => (sig, count, false, c)
  | b :: r =>
    if isDigit b then
      if overflows sig (digitValue b) u64Max then (sig, count, true, c)
      else (c.step b r).takeSignificand (sig * 10 + digitValue b) (count + 1)
    else (sig, count, false, c)
termination_by c.rest.length
decreasing_by simp [Cursor.step, h]

/-- Step over digits, counting them. -/
def Cursor.skipDigits (c : Cursor) (count : Nat) : Nat × Cursor :=
  match h : c.rest with
  | [] => (count, c)
  | b :: r => if isDigit b then (c.step b r).skipDigits (count + 1) else (count, c)
termination_by c.rest.length
decreasing_by simp [Cursor.step, h]

/-- Clamp to the 32-bit signed range. -/
def clampI32 (x : Int) : Int := max (-2147483648) (min 2147483647 x)

/-- `±significand · 10^exponent` as a double; too large fails after the last byte read. -/
def Cursor.fromParts (c : Cursor) (positive : Bool) (sig : Nat) (exponent : Int) :
    Except Error (Number × Cursor) :=
  match Decimal.scaleByTen sig.toUInt64.toFloat exponent with
  | none => .error (c.failHere (.flaw .numberOutOfRange))
  | some f => .ok (.float (if positive then f else -f), c)

/-- Read the digits of an exponent after its first digit. An exponent past the 32-bit range
fails for a non-zero significand and a positive sign, and is zero otherwise. -/
def Cursor.exponentDigits (c : Cursor) (positive : Bool) (sig : Nat) (start : Int)
    (positiveExp : Bool) (e : Nat) : Except Error (Number × Cursor) :=
  match _h : c.rest with
  | b :: r =>
    if isDigit b then
      let c1 := c.step b r
      if overflows e (digitValue b) 2147483647 then
        if sig != 0 && positiveExp then .error (c1.failHere (.flaw .numberOutOfRange))
        else
          let (_, c2) := c1.skipDigits 0
          .ok (.float (if positive then 0.0 else -0.0), c2)
      else c1.exponentDigits positive sig start positiveExp (e * 10 + digitValue b)
    else
      c.fromParts positive sig (clampI32 (if positiveExp then start + e else start - e))
  | [] => c.fromParts positive sig (clampI32 (if positiveExp then start + e else start - e))
termination_by c.rest.length
decreasing_by simp_all [Cursor.step]

/-- Read an exponent part; the cursor is at its `e`. -/
def Cursor.exponentPart (c : Cursor) (positive : Bool) (sig : Nat) (start : Int) :
    Except Error (Number × Cursor) :=
  let c := c.advance
  let (positiveExp, c) :=
    match c.rest with
    | 43 :: _ => (true, c.advance)
    | 45 :: _ => (false, c.advance)
    | _ => (true, c)
  match c.rest with
  | [] => .error (c.failHere (.flaw .eofValue))
  | b :: r =>
    let c1 := c.step b r
    if isDigit b then c1.exponentDigits positive sig start positiveExp (digitValue b)
    else .error (c1.failHere (.flaw .invalidNumber))

/-- Whether a byte opens an exponent. -/
def isExponentMark (b : UInt8) : Bool := b == 101 || b == 69

/-- Read a fraction part; the cursor is at its point. At least one digit must follow. -/
def Cursor.fractionPart (c : Cursor) (positive : Bool) (sig : Nat) (before : Int) :
    Except Error (Number × Cursor) :=
  let c := c.advance
  let (sig, count, full, c) := c.takeSignificand sig 0
  let exponent := before - count
  if full then
    let (_, c) := c.skipDigits 0
    match c.peek with
    | some b => if isExponentMark b then c.exponentPart positive sig exponent
                else c.fromParts positive sig exponent
    | none => c.fromParts positive sig exponent
  else if count = 0 then
    match c.peek with
    | some _ => .error (c.failPeek (.flaw .invalidNumber))
    | none => .error (c.failPeek (.flaw .eofValue))
  else
    match c.peek with
    | some b => if isExponentMark b then c.exponentPart positive sig exponent
                else c.fromParts positive sig exponent
    | none => c.fromParts positive sig exponent

/-- A whole number read with its sign: non-negative as is; negative as a signed integer unless
it is zero or below `-2^63`, which are doubles. -/
def Number.ofWhole (positive : Bool) (sig : Nat) : Number :=
  if positive then .nat sig.toUInt64
  else if sig = 0 ∨ Nat.pow 2 63 < sig then .float (-(sig.toUInt64.toFloat))
  else .neg (Int64.ofInt (-(sig : Int)))

/-- After an integer's digits: a fraction, an exponent, or the integer itself. -/
def Cursor.afterInteger (c : Cursor) (positive : Bool) (sig : Nat) :
    Except Error (Number × Cursor) :=
  match c.peek with
  | some 46 => c.fractionPart positive sig 0
  | some b =>
    if isExponentMark b then c.exponentPart positive sig 0
    else .ok (Number.ofWhole positive sig, c)
  | none => .ok (Number.ofWhole positive sig, c)

/-- Read a number after its sign (if any); `positive` tells the sign. A leading zero may not
be followed by another digit. -/
def Cursor.readNumber (c : Cursor) (positive : Bool) : Except Error (Number × Cursor) :=
  match c.rest with
  | [] => .error (c.failHere (.flaw .eofValue))
  | b :: r =>
    let c1 := c.step b r
    if b == 48 then
      match c1.peek with
      | some d =>
        if isDigit d then .error (c1.failPeek (.flaw .invalidNumber))
        else c1.afterInteger positive 0
      | none => c1.afterInteger positive 0
    else if isDigit b then
      let (sig, _, full, c2) := c1.takeSignificand (digitValue b) 1
      if full then
        let (extra, c3) := c2.skipDigits 0
        match c3.peek with
        | some 46 => c3.fractionPart positive sig extra
        | some x =>
          if isExponentMark x then c3.exponentPart positive sig extra
          else c3.fromParts positive sig extra
        | none => c3.fromParts positive sig extra
      else c2.afterInteger positive sig
    else .error (c1.failHere (.flaw .invalidNumber))

/-- Step over a number without computing it; only its shape is checked. -/
def Cursor.skipNumber (c : Cursor) : Except Error Cursor :=
  let c := match c.rest with
    | 45 :: _ => c.advance
    | _ => c
  let exponent (c : Cursor) : Except Error Cursor :=
    let c := c.advance
    let c := match c.rest with
      | 43 :: _ => c.advance
      | 45 :: _ => c.advance
      | _ => c
    match c.rest with
    | b :: r =>
      if isDigit b then .ok ((c.step b r).skipDigits 0).2
      else .error ((c.step b r).failHere (.flaw .invalidNumber))
    | [] => .error (c.failHere (.flaw .invalidNumber))
  let tail (c : Cursor) : Except Error Cursor :=
    match c.peek with
    | some 46 =>
      let (n, c) := c.advance.skipDigits 0
      if n = 0 then .error (c.failPeek (.flaw .invalidNumber))
      else
        match c.peek with
        | some b => if isExponentMark b then exponent c else .ok c
        | none => .ok c
    | some b => if isExponentMark b then exponent c else .ok c
    | none => .ok c
  match c.rest with
  | b :: r =>
    let c1 := c.step b r
    if b == 48 then
      match c1.peek with
      | some d => if isDigit d then .error (c1.failPeek (.flaw .invalidNumber)) else tail c1
      | none => tail c1
    else if isDigit b then tail (c1.skipDigits 0).2
    else .error (c1.failHere (.flaw .invalidNumber))
  | [] => .error (c.failHere (.flaw .invalidNumber))

/-! ## Punctuation of arrays and objects -/

/-- Before an element: `false` at the closing bracket (left unread), `true` when an element
follows (a separating comma is read). -/
def elementStart (first : Bool) : Reader Bool := fun c =>
  let c := c.skipBlanks
  match c.rest with
  | [] => .error (c.failPeek (.flaw .eofList))
  | b :: r =>
    if b == 93 then .ok (false, c)
    else if b == 44 && !first then
      let c := (c.step b r).skipBlanks
      match c.rest with
      | [] => .error (c.failPeek (.flaw .eofValue))
      | b :: _ => if b == 93 then .error (c.failPeek (.flaw .trailingComma)) else .ok (true, c)
    else if first then .ok (true, c)
    else .error (c.failPeek (.flaw .expectedListCommaOrEnd))

/-- Before a member: `false` at the closing brace (left unread), `true` when a key follows
(its quote is next, a separating comma is read). -/
def memberStart (first : Bool) : Reader Bool := fun c =>
  let c := c.skipBlanks
  match c.rest with
  | [] => .error (c.failPeek (.flaw .eofObject))
  | b :: r =>
    if b == 125 then .ok (false, c)
    else
      let next : Except Error (Bool × Cursor) :=
        if b == 44 && !first then
          let c := (c.step b r).skipBlanks
          match c.rest with
          | [] => .error (c.failPeek (.flaw .eofValue))
          | b :: _ =>
            if b == 34 then .ok (true, c)
            else if b == 125 then .error (c.failPeek (.flaw .trailingComma))
            else .error (c.failPeek (.flaw .keyMustBeString))
        else if first then
          if b == 34 then .ok (true, c) else .error (c.failPeek (.flaw .keyMustBeString))
        else .error (c.failPeek (.flaw .expectedObjectCommaOrEnd))
      next

/-- Read a member's key; its quote is next. -/
def readKey : Reader String := fun c => c.advance.readString

/-- Read the colon after a key. -/
def memberColon : Reader Unit := fun c =>
  let c := c.skipBlanks
  match c.rest with
  | [] => .error (c.failPeek (.flaw .eofObject))
  | b :: r => if b == 58 then .ok ((), c.step b r) else .error (c.failPeek (.flaw .expectedColon))

/-- Read the closing bracket of an array. -/
def arrayEnd : Reader Unit := fun c =>
  let c := c.skipBlanks
  match c.rest with
  | [] => .error (c.failPeek (.flaw .eofList))
  | b :: r =>
    if b == 93 then .ok ((), c.step b r)
    else if b == 44 then
      let c := (c.step b r).skipBlanks
      match c.rest with
      | 93 :: _ => .error (c.failPeek (.flaw .trailingComma))
      | _ => .error (c.failPeek (.flaw .trailingCharacters))
    else .error (c.failPeek (.flaw .trailingCharacters))

/-- Read the closing brace of an object. -/
def objectEnd : Reader Unit := fun c =>
  let c := c.skipBlanks
  match c.rest with
  | [] => .error (c.failPeek (.flaw .eofObject))
  | b :: r =>
    if b == 125 then .ok ((), c.step b r)
    else if b == 44 then .error (c.failPeek (.flaw .trailingComma))
    else .error (c.failPeek (.flaw .trailingCharacters))

end TableMigration.Json
