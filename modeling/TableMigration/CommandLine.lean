import TableMigration.Pattern
import TableMigration.Validation.Basic
import TableMigration.Text.Controls

/-!
# CommandLine

The server's command line and the settings it yields.

Options are `--name value`, `--name=value`, `-x value`, `-xvalue` or `-x=value`; flags take
no value, and a cluster `-ab` sets several short flags. An option's value is taken from the
next argument unless that argument starts a new option. `--` ends the options; the program
takes no plain arguments, so anything after it, or any plain argument, is refused. Each
option may be given once. `-h` and `--help` stop with the help text.

Arguments are read left to right and the first problem met is the answer. A value is checked
when the next option starts or the arguments end, so a missing or bad value is reported
there; an unknown argument is reported where it stands.
-/

namespace TableMigration

/-! ## Settings -/

/-- What the server runs with. -/
structure ServerSettings where
  listen : String := "0.0.0.0:8080"
  srcPath : String := "./data/src"
  dstPath : String := "./data/dst"
  table : String := "records"
  topic : String := "inconsistent_entity"
  busBuffer : Nat := 1024
  validator : Validation.Config := {}
  policy : Policy := .operatorTrusted
  deriving Repr, Inhabited

/-! ## Options -/

/-- What an option's value is. -/
inductive ValueKind where
  /-- Any text. -/
  | text
  /-- A path: any text but the empty one. -/
  | path
  /-- An unsigned 64-bit count. -/
  | count
  /-- A number in `0 ..= 4294967295`. -/
  | budget
  deriving DecidableEq, Repr

/-- What an option does. -/
inductive Action where
  /-- Takes one value. -/
  | set (kind : ValueKind)
  /-- Takes no value and turns something on. -/
  | flag
  /-- Prints the help text. -/
  | help
  deriving DecidableEq, Repr

/-- One option of the command line. -/
structure OptionSpec where
  long : String
  short : Option Char
  valueName : String
  action : Action
  deriving DecidableEq, Repr

/-- How an option is named in messages: `--name <VALUE>` for an option with a value. -/
def OptionSpec.display (o : OptionSpec) : String :=
  match o.action with
  | .set _ => "--" ++ o.long ++ " <" ++ o.valueName ++ ">"
  | _ => "--" ++ o.long

/-- The server's options. -/
def options : List OptionSpec :=
  [ ⟨"listen", some 'l', "LISTEN", .set .text⟩,
    ⟨"src-path", none, "SRC_PATH", .set .path⟩,
    ⟨"dst-path", none, "DST_PATH", .set .path⟩,
    ⟨"table", some 't', "TABLE", .set .text⟩,
    ⟨"topic", none, "TOPIC", .set .text⟩,
    ⟨"bus-buffer", none, "BUS_BUFFER", .set .count⟩,
    ⟨"batch-size", none, "BATCH_SIZE", .set .count⟩,
    ⟨"lookup-timeout-ms", none, "LOOKUP_TIMEOUT_MS", .set .count⟩,
    ⟨"notify-timeout-ms", none, "NOTIFY_TIMEOUT_MS", .set .count⟩,
    ⟨"max-consecutive-failures", none, "MAX_CONSECUTIVE_FAILURES", .set .budget⟩,
    ⟨"forward-only", none, "", .flag⟩,
    ⟨"help", some 'h', "", .help⟩ ]

/-- The first line of the help text. -/
def helpSummary : String := "Control surface for online table migration"

/-! ## Problems -/

/-- Why the command line was refused. -/
inductive UsageError where
  /-- An argument that is no option, or an unknown one. -/
  | unknownArgument (arg : String)
  /-- An option given without its value (or an empty path). -/
  | missingValue (option : String)
  /-- A value that does not parse. -/
  | invalidValue (value option reason : String)
  /-- An option given twice. -/
  | repeated (option : String)
  /-- A value attached to a flag. -/
  | unexpectedValue (value option : String)
  /-- Help was asked for. -/
  | help
  deriving DecidableEq, Repr

/-- The opening of the message for a refused command line, as it is shown. The arguments it
quotes are styled, and the message is shown as plain text, so they lose their control
characters and terminal sequences (`Text.stripControls`); a sequence left open inside one
ends with its styling. -/
def UsageError.rendered : UsageError → String
  | .unknownArgument arg => "error: unexpected argument '" ++ Text.stripControls arg ++ "' found"
  | .missingValue option => "error: a value is required for '" ++ option ++ "' but none was supplied"
  | .invalidValue value option reason =>
    "error: invalid value '" ++ Text.stripControls value ++ "' for '" ++ option ++ "': " ++ reason
  | .repeated option => "error: the argument '" ++ option ++ "' cannot be used multiple times"
  | .unexpectedValue value option =>
    "error: unexpected value '" ++ Text.stripControls value ++ "' for '" ++ option ++
      "' found; no more were expected"
  | .help => helpSummary

/-- The first line of a text that ends in a line feed: up to its first line feed, without a
carriage return just before it. -/
def firstLine (text : String) : String :=
  let line := text.toList.takeWhile (· != '\n')
  String.ofList (if line.getLast? == some '\r' then line.dropLast else line)

/-- The first line of the message for a refused command line. The message goes on after its
opening, so the opening is cut at a line feed that a quoted argument brings in. -/
def UsageError.message (e : UsageError) : String := firstLine (e.rendered ++ "\n")

/-! ## Numbers -/

/-- Why a text is not an integer. -/
inductive IntegerProblem where
  | empty
  | invalidDigit
  | tooLarge
  | tooSmall
  deriving DecidableEq, Repr

/-- The wording of an integer problem. -/
def IntegerProblem.text : IntegerProblem → String
  | .empty => "cannot parse integer from empty string"
  | .invalidDigit => "invalid digit found in string"
  | .tooLarge => "number too large to fit in target type"
  | .tooSmall => "number too small to fit in target type"

/-- Read an integer in `[lo, hi]`: an optional sign (a minus only when `lo < 0`) and at least
one digit. The digits are read from the left as the value grows, so the first character that
is not a digit, or the first digit that takes the value out of `[lo, hi]`, names the problem. -/
def parseInteger (text : String) (lo : Int) (hi : Nat) : Except IntegerProblem Int :=
  match text.toList with
  | [] => .error .empty
  | '+' :: rest => magnitude rest false
  | '-' :: rest => if lo < 0 then magnitude rest true else .error .invalidDigit
  | cs => magnitude cs false
where
  /-- The digits after the sign. -/
  magnitude (cs : List Char) (negative : Bool) : Except IntegerProblem Int :=
    if cs.isEmpty then .error .invalidDigit else accumulate negative 0 cs
  /-- Take the next digit into the value `n` read so far. -/
  accumulate (negative : Bool) (n : Nat) : List Char → Except IntegerProblem Int
    | [] => .ok (if negative then -(n : Int) else n)
    | c :: rest =>
      if !c.isDigit then .error .invalidDigit
      else
        let m := n * 10 + (c.toNat - 48)
        if negative then
          if -(m : Int) < lo then .error .tooSmall else accumulate negative m rest
        else if m > hi then .error .tooLarge else accumulate negative m rest

/-! ## Parsing -/

/-- Values given so far, by long name. -/
abbrev Given := List (String × String)

/-- The state between arguments: the values given, an option waiting for its value (with
the value once it came), and whether `--` was seen. -/
structure ParseState where
  given : Given := []
  pending : Option (OptionSpec × Option String) := none
  trailing : Bool := false

/-- Check one value of an option. -/
def checkValue (o : OptionSpec) (kind : ValueKind) (value : String) : Except UsageError String :=
  match kind with
  | .text => .ok value
  | .path => if value.isEmpty then .error (.missingValue o.display) else .ok value
  | .count =>
    match parseInteger value 0 18446744073709551615 with
    | .ok n => .ok (toString n)
    | .error p => .error (.invalidValue value o.display p.text)
  | .budget =>
    match parseInteger value (-9223372036854775808) 9223372036854775807 with
    | .ok n =>
      if 0 ≤ n ∧ n ≤ 4294967295 then .ok (toString n)
      else .error (.invalidValue value o.display (toString n ++ " is not in 0..=4294967295"))
    | .error p => .error (.invalidValue value o.display p.text)

/-- Take an option with its values (none or one) into the values given. -/
def record (given : Given) (o : OptionSpec) (value : Option String) : Except UsageError Given :=
  match o.action, value with
  | .set _, none => .error (.missingValue o.display)
  | .set kind, some v =>
    if given.any (·.1 == o.long) then .error (.repeated o.display)
    else do
      let v ← checkValue o kind v
      pure (given ++ [(o.long, v)])
  | .flag, _ =>
    if given.any (·.1 == o.long) then .error (.repeated o.display)
    else .ok (given ++ [(o.long, "true")])
  | .help, _ => .error .help

/-- Settle the option waiting for its value. -/
def ParseState.settle (s : ParseState) : Except UsageError ParseState :=
  match s.pending with
  | none => .ok s
  | some (o, value) => do
    let given ← record s.given o value
    pure { s with given := given, pending := none }

/-- Use an option that came with its values (none or one), settling the waiting one first. -/
def ParseState.use (s : ParseState) (o : OptionSpec) (value : Option String) :
    Except UsageError ParseState := do
  let s ← s.settle
  let given ← record s.given o value
  pure { s with given := given }

/-- Start an option that takes its value from the next argument. -/
def ParseState.await (s : ParseState) (o : OptionSpec) : Except UsageError ParseState := do
  let s ← s.settle
  pure { s with pending := some (o, none) }

/-- Find an option by long name. -/
def findLong (name : String) : Option OptionSpec := options.find? (·.long == name)

/-- Find an option by short name. -/
def findShort (c : Char) : Option OptionSpec := options.find? (·.short == some c)

/-- Whether the option takes a value. -/
def OptionSpec.takesValue (o : OptionSpec) : Bool :=
  match o.action with
  | .set _ => true
  | _ => false

/-- Read a cluster of short options (the characters after `-`). -/
def shortCluster (s : ParseState) : List Char → Except UsageError ParseState
  | [] => .ok s
  | c :: rest =>
    match findShort c with
    | none => .error (.unknownArgument ("-" ++ String.singleton c))
    | some o =>
      if o.takesValue then
        let attached := match rest with
          | '=' :: v => some (String.ofList v)
          | [] => none
          | v => some (String.ofList v)
        match attached with
        | some v => s.use o (some v)
        | none => s.await o
      else do
        let s ← s.use o none
        shortCluster s rest

/-- Read one argument. -/
def step (s : ParseState) (arg : String) : Except UsageError ParseState :=
  if s.trailing then .error (.unknownArgument arg)
  else if arg = "--" then .ok { s with trailing := true }
  else if arg.startsWith "--" then
    let body := (arg.drop 2).toString
    let name := (body.takeWhile (· != '=')).toString
    let value : Option String :=
      if body.contains '=' then some ((body.dropWhile (· != '=')).drop 1).toString else none
    match findLong name with
    | none => .error (.unknownArgument ("--" ++ name))
    | some o =>
      if o.takesValue then
        match value with
        | some v => s.use o (some v)
        | none => s.await o
      else
        match value with
        | some v => .error (.unexpectedValue v o.display)
        | none => s.use o none
  else if arg.startsWith "-" ∧ arg ≠ "-" then shortCluster s (arg.drop 1).toString.toList
  else
    match s.pending with
    | some (o, none) => .ok { s with pending := some (o, some arg) }
    | _ => .error (.unknownArgument arg)

/-- Read all arguments (without the program name) into the values given. -/
def parseArguments (args : List String) : Except UsageError Given := do
  let s ← args.foldlM step {}
  let s ← s.settle
  pure s.given

/-- The settings for the values given: defaults for the rest, the bus at least one message
deep, and the validation settings through their builders. -/
def ServerSettings.ofGiven (given : Given) : ServerSettings :=
  let text (name dflt : String) := (given.lookup name).getD dflt
  let number (name : String) (dflt : Nat) := ((given.lookup name).bind String.toNat?).getD dflt
  let validator : Validation.Config :=
    (({} : Validation.Config).withBatchSize (number "batch-size" 100)
      |>.withLookupTimeout (number "lookup-timeout-ms" 1000)
      |>.withNotifyTimeout (number "notify-timeout-ms" 1000)
      |>.withMaxConsecutiveFailures (number "max-consecutive-failures" 16))
  { listen := text "listen" "0.0.0.0:8080"
    srcPath := text "src-path" "./data/src"
    dstPath := text "dst-path" "./data/dst"
    table := text "table" "records"
    topic := text "topic" "inconsistent_entity"
    busBuffer := max (number "bus-buffer" 1024) 1
    validator := validator
    policy := if (given.lookup "forward-only").isSome then .forwardOnly else .operatorTrusted }

/-- Parse a command line into settings. -/
def ServerSettings.parse (args : List String) : Except UsageError ServerSettings :=
  (parseArguments args).map ServerSettings.ofGiven

end TableMigration
