/-!
# Pattern

The four write patterns a table passes through while it moves from the source store to the
destination store, in this order: source only, source first, destination first,
destination only. A pattern names the authoritative side, which serves reads and is written
first, and the shadow side, which is written after it (none in the two end patterns).

A `Cell` holds the current pattern and the policy for switching it: an operator-trusted cell
takes any switch, a forward-only cell only stays or steps to the next pattern.
-/

namespace TableMigration

/-- One of the two stores. -/
inductive Side where
  | src
  | dst
  deriving DecidableEq, Repr, Inhabited

namespace Side

/-- `SRC` or `DST`. -/
def name : Side → String
  | .src => "SRC"
  | .dst => "DST"

/-- `src` or `dst`: the store's own name, used in its failures. -/
def label : Side → String
  | .src => "src"
  | .dst => "dst"

/-- The other store. -/
def opposite : Side → Side
  | .src => .dst
  | .dst => .src

@[simp] theorem opposite_opposite (s : Side) : s.opposite.opposite = s := by
  cases s <;> rfl

end Side

/-- A write pattern. -/
inductive Pattern where
  | srcOnly
  | srcFirst
  | dstFirst
  | dstOnly
  deriving DecidableEq, Repr, Inhabited

namespace Pattern

/-- All patterns in migration order. -/
def all : List Pattern := [.srcOnly, .srcFirst, .dstFirst, .dstOnly]

/-- The position in migration order, 0 to 3. -/
def index : Pattern → Nat
  | .srcOnly => 0
  | .srcFirst => 1
  | .dstFirst => 2
  | .dstOnly => 3

/-- The pattern at a position, if there is one. -/
def ofIndex? : Nat → Option Pattern
  | 0 => some .srcOnly
  | 1 => some .srcFirst
  | 2 => some .dstFirst
  | 3 => some .dstOnly
  | _ => none

/-- The upper-case name. -/
def name : Pattern → String
  | .srcOnly => "SRC_ONLY"
  | .srcFirst => "SRC_FIRST"
  | .dstFirst => "DST_FIRST"
  | .dstOnly => "DST_ONLY"

/-- The side that serves reads and is written first. -/
def authoritative : Pattern → Side
  | .srcOnly | .srcFirst => .src
  | .dstFirst | .dstOnly => .dst

/-- The side written after the authoritative one, if any. -/
def shadow : Pattern → Option Side
  | .srcFirst => some .dst
  | .dstFirst => some .src
  | .srcOnly | .dstOnly => none

/-- The following pattern in migration order. -/
def next : Pattern → Option Pattern
  | .srcOnly => some .srcFirst
  | .srcFirst => some .dstFirst
  | .dstFirst => some .dstOnly
  | .dstOnly => none

/-- ASCII letters folded to lower case; every other character kept. -/
def foldAscii (c : Char) : Char :=
  if 'A' ≤ c ∧ c ≤ 'Z' then Char.ofNat (c.toNat + 32) else c

/-- Equality of two texts up to the case of ASCII letters. -/
def sameIgnoringAsciiCase (a b : String) : Bool :=
  a.toList.map foldAscii == b.toList.map foldAscii

/-- The pattern whose name matches the text up to ASCII case. -/
def parse? (text : String) : Option Pattern :=
  all.find? fun p => sameIgnoringAsciiCase p.name text

@[simp] theorem ofIndex?_index (p : Pattern) : ofIndex? p.index = some p := by
  cases p <;> rfl

theorem index_lt (p : Pattern) : p.index < 4 := by
  cases p <;> decide

end Pattern

/-! ## Errors -/

/-- Why a pattern could not be read or switched. -/
inductive PatternError where
  /-- No pattern has this name. -/
  | unknown (text : String)
  /-- A stored pattern number outside 0 to 3. -/
  | corrupt (value : UInt8)
  /-- The policy refuses this switch. -/
  | illegalTransition (source target : Pattern)
  deriving DecidableEq, Repr

/-- The wording of a pattern error. -/
def PatternError.message : PatternError → String
  | .unknown text => "unknown write pattern: " ++ text
  | .corrupt value => "write pattern cell holds invalid value " ++ toString value.toNat
  | .illegalTransition source target =>
    "illegal pattern transition " ++ source.name ++ " -> " ++ target.name

/-- Parse a pattern name, failing with `unknown`. -/
def Pattern.parse (text : String) : Except PatternError Pattern :=
  match Pattern.parse? text with
  | some p => .ok p
  | none => .error (.unknown text)

/-! ## The cell -/

/-- Which switches a cell takes. -/
inductive Policy where
  /-- Any switch. -/
  | operatorTrusted
  /-- Only staying, or stepping to the next pattern. -/
  | forwardOnly
  deriving DecidableEq, Repr, Inhabited

/-- `operator_trusted` or `forward_only`. -/
def Policy.name : Policy → String
  | .operatorTrusted => "operator_trusted"
  | .forwardOnly => "forward_only"

/-- Whether a switch stays in place or steps to the next pattern. -/
def Pattern.isForwardStep (source target : Pattern) : Bool :=
  source == target || source.next == some target

/-- The current pattern and the policy for switching it. -/
structure Cell where
  current : Pattern
  policy : Policy
  deriving DecidableEq, Repr

namespace Cell

/-- A cell at source only. -/
def init (policy : Policy) : Cell := ⟨.srcOnly, policy⟩

/-- An operator-trusted cell at source only. -/
def default : Cell := init .operatorTrusted

/-- Switch to a pattern, giving the pattern before. A forward-only cell refuses any switch
that is not a forward step. -/
def store (c : Cell) (target : Pattern) : Except PatternError (Pattern × Cell) :=
  if c.policy = .forwardOnly ∧ !Pattern.isForwardStep c.current target then
    .error (.illegalTransition c.current target)
  else .ok (c.current, { c with current := target })

theorem store_operatorTrusted (c : Cell) (h : c.policy = .operatorTrusted) (p : Pattern) :
    c.store p = .ok (c.current, { c with current := p }) := by
  simp [store, h]

end Cell

end TableMigration
