/-!
# Text.Controls

The text a message shows once terminal control sequences and control characters are taken
out of it.

Messages are put together with styling sequences around the values they quote and are shown
as plain text by removing every terminal control sequence. The bytes are read by the usual
terminal parser (escape, CSI, DCS, OSC and SOS/PM/APC sequences), one byte at a time:

* a byte that prints in the ground state is kept, and so is a character whose first byte is
  a UTF-8 lead byte there; delete is not kept;
* a control character is dropped, except a tab, line feed, form feed or carriage return,
  which are kept also in the middle of an escape or CSI sequence;
* the bytes of a sequence are dropped with it, up to the byte that ends it: a final byte for
  an escape or CSI sequence, a bell for an OSC string, the byte `0x9C` for the other strings.
  An escape starts a new sequence wherever it stands, and a cancel or substitute ends one.

Once a character is kept the parser is back in the ground state. A continuation byte never
prints in any state, so what is kept is always whole characters.
-/

namespace TableMigration.Text

/-- Where the terminal parser stands. -/
inductive ParserState where
  | ground
  | escape
  | escapeIntermediate
  | csiEntry
  | csiParam
  | csiIntermediate
  | csiIgnore
  | dcsEntry
  | dcsParam
  | dcsIntermediate
  | dcsPassthrough
  | dcsIgnore
  | oscString
  | sosPmApcString
  deriving DecidableEq, Repr

/-- What a byte does, as far as showing it goes. -/
inductive ByteAction where
  /-- Prints. -/
  | print
  /-- Starts a character of several bytes. -/
  | beginUtf8
  /-- Runs a control function. -/
  | execute
  /-- Anything else: collected, ignored, dispatched or passed on. -/
  | other
  deriving DecidableEq, Repr

namespace ParserState

/-- Read one byte: the state it moves to (none to stay) and what it does. A cancel or a
substitute returns to the ground state and an escape starts a sequence, in every state. -/
def read (s : ParserState) (b : Nat) : Option ParserState × ByteAction :=
  if b == 0x18 || b == 0x1A then (some .ground, .execute)
  else if b == 0x1B then (some .escape, .other)
  else
    match s with
    | .ground =>
      if b < 0x20 then (none, .execute)
      else if b ≤ 0x7F then (none, .print)
      else if b ≤ 0x8F || (0x91 ≤ b && b ≤ 0x9A) || b == 0x9C then (none, .execute)
      else if 0xC2 ≤ b && b ≤ 0xF4 then (none, .beginUtf8)
      else (none, .other)
    | .escape =>
      if b < 0x20 then (none, .execute)
      else if b ≤ 0x2F then (some .escapeIntermediate, .other)
      else if b == 0x5B then (some .csiEntry, .other)
      else if b == 0x5D then (some .oscString, .other)
      else if b == 0x50 then (some .dcsEntry, .other)
      else if b == 0x58 || b == 0x5E || b == 0x5F then (some .sosPmApcString, .other)
      else if b ≤ 0x7E then (some .ground, .other)
      else (none, .other)
    | .escapeIntermediate =>
      if b < 0x20 then (none, .execute)
      else if b ≤ 0x2F then (none, .other)
      else if b ≤ 0x7E then (some .ground, .other)
      else (none, .other)
    | .csiEntry =>
      if b < 0x20 then (none, .execute)
      else if b ≤ 0x2F then (some .csiIntermediate, .other)
      else if b ≤ 0x3F then (some .csiParam, .other)
      else if b ≤ 0x7E then (some .ground, .other)
      else (none, .other)
    | .csiParam =>
      if b < 0x20 then (none, .execute)
      else if b ≤ 0x2F then (some .csiIntermediate, .other)
      else if b ≤ 0x3B then (none, .other)
      else if b ≤ 0x3F then (some .csiIgnore, .other)
      else if b ≤ 0x7E then (some .ground, .other)
      else (none, .other)
    | .csiIntermediate =>
      if b < 0x20 then (none, .execute)
      else if b ≤ 0x2F then (none, .other)
      else if b ≤ 0x3F then (some .csiIgnore, .other)
      else if b ≤ 0x7E then (some .ground, .other)
      else (none, .other)
    | .csiIgnore =>
      if b < 0x20 then (none, .execute)
      else if b ≤ 0x3F then (none, .other)
      else if b ≤ 0x7E then (some .ground, .other)
      else (none, .other)
    | .dcsEntry =>
      if b < 0x20 then (none, .other)
      else if b ≤ 0x2F then (some .dcsIntermediate, .other)
      else if b ≤ 0x3F then (some .dcsParam, .other)
      else if b ≤ 0x7E then (some .dcsPassthrough, .other)
      else (none, .other)
    | .dcsParam =>
      if b < 0x20 then (none, .other)
      else if b ≤ 0x2F then (some .dcsIntermediate, .other)
      else if b ≤ 0x3B then (none, .other)
      else if b ≤ 0x3F then (some .dcsIgnore, .other)
      else if b ≤ 0x7E then (some .dcsPassthrough, .other)
      else (none, .other)
    | .dcsIntermediate =>
      if b ≤ 0x2F then (none, .other)
      else if b ≤ 0x3F then (some .dcsIgnore, .other)
      else if b ≤ 0x7E then (some .dcsPassthrough, .other)
      else (none, .other)
    | .dcsPassthrough | .dcsIgnore | .sosPmApcString =>
      if b == 0x9C then (some .ground, .other) else (none, .other)
    | .oscString =>
      if b == 0x07 then (some .ground, .other) else (none, .other)

/-- The state after a byte that is not shown. -/
def after (s : ParserState) (b : UInt8) : ParserState := ((s.read b.toNat).1).getD s

end ParserState

/-- Whether a byte is shown: it prints (delete apart), starts a character of several bytes,
or is a tab, line feed, form feed or carriage return. -/
def shows (a : ByteAction) (b : Nat) : Bool :=
  (a == .print && b != 0x7F) || a == .beginUtf8 ||
    (a == .execute && (b == 0x09 || b == 0x0A || b == 0x0C || b == 0x0D))

/-- The characters kept from a text, reading from a parser state. A character is kept when
its first byte is shown; otherwise all of its bytes move the parser on. -/
def keepShown (s : ParserState) : List Char → List Char
  | [] => []
  | c :: rest =>
    match String.utf8EncodeChar c with
    | [] => keepShown s rest
    | b :: more =>
      let (next, act) := s.read b.toNat
      if shows act b.toNat then c :: keepShown .ground rest
      else keepShown (more.foldl ParserState.after (next.getD s)) rest

/-- A text without its terminal control sequences and control characters. -/
def stripControls (text : String) : String := String.ofList (keepShown .ground text.toList)

end TableMigration.Text
