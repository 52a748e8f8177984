/-!
# Control.Wire

What a request may carry before it can be sent: its method must be a token, and each header
value must be made of bytes a header line may hold.

* A token is one or more of the ASCII letters, the digits and ``! # $ % & ' * + - . ^ _ | ~``
  and a backquote. Anything else (the empty method, a space, a non-ASCII letter) is refused.
* A header value may hold a tab, the visible ASCII characters, the space and any non-ASCII
  character, but no other control character and no delete.
-/

namespace TableMigration.Control

/-- Characters a token may hold. -/
def isTokenChar (c : Char) : Bool :=
  ('a' ≤ c && c ≤ 'z') || ('A' ≤ c && c ≤ 'Z') || ('0' ≤ c && c ≤ '9') ||
    "!#$%&'*+-.^_|~".contains c || c.toNat == 0x60

/-- Whether a method is a token. -/
def validMethod (m : String) : Bool := !m.toList.isEmpty && m.toList.all isTokenChar

/-- The text of a refused method. -/
def methodProblem : String := "invalid HTTP method"

/-- Characters a header value may hold. -/
def isHeaderValueChar (c : Char) : Bool :=
  c == '\t' || (0x20 ≤ c.toNat && c.toNat != 0x7F)

/-- Whether a text may be sent as a header value. -/
def validHeaderValue (v : String) : Bool := v.toList.all isHeaderValueChar

/-- The text of a refused header value. -/
def headerValueProblem : String := "failed to parse header value"

/-- A method is accepted exactly when it is a nonempty string of token characters. -/
theorem validMethod_iff (m : String) :
    validMethod m = true ↔ m.toList ≠ [] ∧ ∀ c ∈ m.toList, isTokenChar c = true := by
  simp [validMethod]

end TableMigration.Control
