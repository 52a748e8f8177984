/-!
# Control.Target

The target of an HTTP request, and the path it is routed by.

A target takes one of four forms:

* origin form, `/path?query#fragment`;
* absolute form, `scheme://authority/path?query#fragment`, where the scheme is made of
  letters, digits, ``+ - . ~``;
* authority form, `host:port`, with no path;
* the single character `*`.

Routing uses the path only. The query and the fragment are cut off. An absolute form with no
path has the path `/`, and an authority form has the empty path.

A target is checked as it is read, in the strict way an HTTP library checks it:

* the path may hold the visible ASCII bytes except ``<``, ``>`` and a backquote, and any
  non-ASCII character, but no control character (delete included) and no space;
* the query may also hold `?` and a backquote, but not a double quote;
* the fragment is not read at all;
* an authority holds letters, digits and the URI punctuation, at most one port colon outside
  brackets, balanced brackets, no `%`, and no empty host after a `@`.

A target longer than 65534 bytes is refused.
-/

namespace TableMigration.Control

/-- Why a request target is refused. -/
inductive TargetError where
  | empty
  | tooLong
  | invalidChar
  | invalidFormat
  | invalidAuthority
  | schemeTooLong
  deriving DecidableEq, Repr

/-- The text of a refusal. -/
def TargetError.message : TargetError → String
  | .empty => "empty string"
  | .tooLong => "uri too long"
  | .invalidChar => "invalid uri character"
  | .invalidFormat => "invalid format"
  | .invalidAuthority => "invalid authority"
  | .schemeTooLong => "scheme too long"

/-- The longest target accepted, in bytes. -/
def targetLimit : Nat := 65534

/-- The longest scheme name accepted. -/
def schemeLimit : Nat := 64

/-- ASCII letters and digits. -/
def isAlnumChar (c : Char) : Bool :=
  ('a' ≤ c && c ≤ 'z') || ('A' ≤ c && c ≤ 'Z') || ('0' ≤ c && c ≤ '9')

/-- Characters of a scheme name: letters, digits, ``+ - .`` and also ``~``. -/
def isSchemeChar (c : Char) : Bool :=
  isAlnumChar c || c == '+' || c == '-' || c == '.' || c == '~'

/-- Characters an authority may hold as they are; `%` is handled apart. -/
def isAuthorityChar (c : Char) : Bool :=
  isAlnumChar c || "!#$&'()*+,-./:;=?@[]_~".contains c

/-- Characters a path may hold. -/
def isPathChar (c : Char) : Bool :=
  let n := c.toNat
  n == 0x21 || n == 0x22 || (0x24 ≤ n && n ≤ 0x3B) || n == 0x3D || (0x40 ≤ n && n ≤ 0x5F) ||
    (0x61 ≤ n && n ≤ 0x7E) || 0x80 ≤ n

/-- Characters a query may hold. -/
def isQueryChar (c : Char) : Bool :=
  let n := c.toNat
  n == 0x21 || (0x24 ≤ n && n ≤ 0x3B) || n == 0x3D || (0x3F ≤ n && n ≤ 0x7E) || 0x80 ≤ n

/-- The length of the scheme name in front of `://`, if the target starts with one. A
character that cannot be in a scheme name ends the search. -/
def schemeLength? (cs : List Char) : Except TargetError (Option Nat) :=
  if cs.length ≤ 3 then .ok none else go 0 cs
where
  /-- Look for the colon, `i` characters in. -/
  go (i : Nat) : List Char → Except TargetError (Option Nat)
    | [] => .ok none
    | c :: rest =>
      if c == ':' then
        if rest.take 2 == ['/', '/'] then
          if i > schemeLimit then .error .schemeTooLong else .ok (some i)
        else .ok none
      else if isSchemeChar c then go (i + 1) rest
      else .ok none

/-- What reading an authority keeps: colons since the last bracket or `@`, the brackets
seen, a `%` seen, and where the last `@` stands. -/
structure AuthorityScan where
  colons : Nat := 0
  opened : Bool := false
  closed : Bool := false
  percent : Bool := false
  atSign : Option Nat := none

/-- Read an authority `i` characters in, up to the first `/`, `?` or `#`; gives where it
ends. -/
def AuthorityScan.run (st : AuthorityScan) (i : Nat) : List Char →
    Except TargetError (AuthorityScan × Nat)
  | [] => .ok (st, i)
  | c :: rest =>
    if c == '/' || c == '?' || c == '#' then .ok (st, i)
    else if c == ':' then
      if st.colons ≥ 8 then .error .invalidAuthority
      else run { st with colons := st.colons + 1 } (i + 1) rest
    else if c == '[' then
      if st.percent || st.opened then .error .invalidAuthority
      else run { st with opened := true } (i + 1) rest
    else if c == ']' then
      if !st.opened || st.closed then .error .invalidAuthority
      else run { st with closed := true, colons := 0, percent := false } (i + 1) rest
    else if c == '@' then
      run { st with atSign := some i, colons := 0, percent := false } (i + 1) rest
    else if c == '%' then run { st with percent := true } (i + 1) rest
    else if isAuthorityChar c then run st (i + 1) rest
    else .error .invalidChar

/-- Where the authority at the front of `cs` ends, once it is found well formed. -/
def authorityEnd (cs : List Char) : Except TargetError Nat := do
  let (st, stop) ← AuthorityScan.run {} 0 cs
  if st.opened != st.closed then throw .invalidAuthority
  if st.colons > 1 then throw .invalidAuthority
  if 0 < stop && st.atSign == some (stop - 1) then throw .invalidAuthority
  if st.percent then throw .invalidAuthority
  pure stop

/-- Check a query up to its fragment. -/
def checkQuery : List Char → Except TargetError Unit
  | [] => .ok ()
  | c :: rest =>
    if c == '#' then .ok ()
    else if isQueryChar c then checkQuery rest
    else .error .invalidChar

/-- The path of a path, query and fragment, with the query checked. -/
def pathPart : List Char → Except TargetError (List Char)
  | [] => .ok []
  | c :: rest =>
    if c == '?' then do checkQuery rest; pure []
    else if c == '#' then .ok []
    else if isPathChar c then (c :: ·) <$> pathPart rest
    else .error .invalidChar

/-- The path of the part after an absolute form's authority: `/` when it is empty. -/
def absolutePath (cs : List Char) : Except TargetError String := do
  let p ← pathPart cs
  pure (if p.isEmpty then "/" else String.ofList p)

/-- The path a request target is routed by, or why the target is refused. -/
def routedPath (target : String) : Except TargetError String :=
  let cs := target.toList
  if target.utf8ByteSize > targetLimit then .error .tooLong
  else
    match cs with
    | [] => .error .empty
    | ['/'] => .ok "/"
    | ['*'] => .ok "*"
    | [_] => do
      let stop ← authorityEnd cs
      if stop = 1 then pure "" else throw .invalidChar
    | '/' :: _ => String.ofList <$> pathPart cs
    | _ => do
      match ← schemeLength? cs with
      | none =>
        let stop ← authorityEnd cs
        if stop = cs.length then pure "" else throw .invalidFormat
      | some n =>
        let rest := cs.drop (n + 3)
        let stop ← authorityEnd rest
        if stop = 0 then throw .invalidFormat
        absolutePath (rest.drop stop)

end TableMigration.Control
