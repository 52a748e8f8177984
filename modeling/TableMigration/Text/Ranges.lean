/-!
# Text.Ranges

Sets of Unicode code points given as sorted lists of closed ranges, the form in which the
character tables of this library are written.
-/

namespace TableMigration.Text

/-- Whether a code point lies in one of the closed ranges `(lo, hi)` of a table. -/
def inRanges (table : List (Nat × Nat)) (n : Nat) : Bool :=
  table.any fun r => r.1 ≤ n && n ≤ r.2

/-- Membership in a table is membership in one of its ranges. -/
theorem inRanges_iff (table : List (Nat × Nat)) (n : Nat) :
    inRanges table n = true ↔ ∃ r ∈ table, r.1 ≤ n ∧ n ≤ r.2 := by
  simp [inRanges]

end TableMigration.Text
