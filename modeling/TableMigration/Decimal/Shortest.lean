/-!
# Decimal.Shortest

The shortest decimal that reads back as a given double, and the reading of a decimal back
into a double by a power-of-ten table.

A finite double stands for the exact value `mantissa · 2^exponent`. Every real strictly
inside its rounding interval reads back as the same double, and so do the two ends when the
mantissa is even. `Binary.shortest` searches the decimal grids with 1, 2, … 17 significant
digits; on each grid only the two neighbours of the value can lie in the interval, so the
first grid with a hit gives the fewest digits, and of two hits the nearer one wins (a tie
goes to the even digit string). All arithmetic is exact, on `Nat`.
-/

namespace TableMigration.Decimal

/-! ## Exact values of a double -/

/-- The exact value of a finite double: `mantissa · 2^exponent`, with its sign. `narrowBelow`
says the next smaller double is only half as far away as the next larger one, which happens
when the mantissa is a power of two above the subnormal range. -/
structure Binary where
  negative : Bool
  mantissa : Nat
  exponent : Int
  narrowBelow : Bool
  deriving Repr, DecidableEq

/-- Read the fields of a 64-bit word: sign, biased exponent, fraction. Subnormals have the
exponent of the least normal double and no hidden bit. -/
def Binary.ofBits (bits : UInt64) : Binary :=
  let raw := bits.toNat
  let fraction : Nat := raw % Nat.pow 2 52
  let biased : Nat := (raw / Nat.pow 2 52) % Nat.pow 2 11
  let negative := decide (Nat.pow 2 63 ≤ raw)
  if biased = 0 then
    ⟨negative, fraction, -1074, false⟩
  else
    ⟨negative, fraction + Nat.pow 2 52, (biased : Int) - 1075, decide (fraction = 0 ∧ 1 < biased)⟩

/-- `n · 10^k` against `x · 2^p`, both sides scaled to whole numbers first. -/
def compareScaled (n : Nat) (k : Int) (x : Nat) (p : Int) : Ordering :=
  compare (n * Nat.pow 10 k.toNat * Nat.pow 2 (-p).toNat)
    (x * Nat.pow 2 p.toNat * Nat.pow 10 (-k).toNat)

/-- Number of decimal digits of a natural number (one for zero). -/
def digitCount (n : Nat) : Nat :=
  if n < 10 then 1 else digitCount (n / 10) + 1
termination_by n
decreasing_by omega

/-- A decimal `digits · 10^exponent`. -/
structure Scientific where
  digits : Nat
  exponent : Int
  deriving Repr, DecidableEq

/-- Strip trailing zero digits into the exponent. -/
def Scientific.normalize : Scientific → Scientific
  | ⟨0, e⟩ => ⟨0, e⟩
  | ⟨n + 1, e⟩ =>
    if (n + 1) % 10 = 0 then Scientific.normalize ⟨(n + 1) / 10, e + 1⟩ else ⟨n + 1, e⟩
termination_by d => d.digits
decreasing_by omega

namespace Binary

/-- `⌊log₁₀ v⌋` for the (positive) value. Digit counts of the numerator and denominator leave
two candidates; one exact comparison picks the right one. -/
def leadExponent (b : Binary) : Int :=
  let num := b.mantissa * Nat.pow 2 b.exponent.toNat
  let den := Nat.pow 2 (-b.exponent).toNat
  let guess : Int := (digitCount num : Int) - (digitCount den : Int)
  if compareScaled 1 guess b.mantissa b.exponent == .gt then guess - 1 else guess

/-- Whether `n · 10^k` reads back as this double: it lies in the rounding interval, whose ends
count only for an even mantissa. Bounds are measured in units of `2^(exponent - 2)`. -/
def reads (b : Binary) (n : Nat) (k : Int) : Bool :=
  let unit := b.exponent - 2
  let low := 4 * b.mantissa - (if b.narrowBelow then 1 else 2)
  let high := 4 * b.mantissa + 2
  let lo := compareScaled n k low unit
  let hi := compareScaled n k high unit
  if b.mantissa % 2 == 0 then lo != .lt && hi != .gt else lo == .gt && hi == .lt

/-- `⌊v / 10^k⌋`. -/
def floorAt (b : Binary) (k : Int) : Nat :=
  (b.mantissa * Nat.pow 2 b.exponent.toNat * Nat.pow 10 (-k).toNat) /
    (Nat.pow 2 (-b.exponent).toNat * Nat.pow 10 k.toNat)

/-- Of `lo · 10^k` and `(lo + 1) · 10^k`, whether the upper one is nearer to the value; a tie
goes to the even one. -/
def upperNearer (b : Binary) (lo : Nat) (k : Int) : Bool :=
  match compareScaled (2 * lo + 1) k (2 * b.mantissa) b.exponent with
  | .lt => true
  | .gt => false
  | .eq => lo % 2 == 1

/-- The best decimal with `count` significant digits, if one reads back. -/
def onGrid (b : Binary) (count : Nat) : Option Scientific :=
  let k := b.leadExponent - (count : Int) + 1
  let lo := b.floorAt k
  match b.reads lo k, b.reads (lo + 1) k with
  | true, true => some (if b.upperNearer lo k then ⟨lo + 1, k⟩ else ⟨lo, k⟩)
  | true, false => some ⟨lo, k⟩
  | false, true => some ⟨lo + 1, k⟩
  | false, false => none

/-- The shortest decimal that reads back as this positive double: the first of the grids with
1 … 17 digits that holds one. Seventeen digits always suffice for a double. -/
def shortest (b : Binary) : Scientific :=
  let found := (List.range 17).findSome? fun i => b.onGrid (i + 1)
  Scientific.normalize (found.getD ⟨b.floorAt (b.leadExponent - 16), b.leadExponent - 16⟩)

end Binary

/-! ## Reading a decimal into a double -/

/-- The double nearest to a natural number, ties to the even mantissa. -/
def nearestDouble (n : Nat) : Float :=
  if n < Nat.pow 2 53 then n.toUInt64.toFloat
  else
    let shift := n.log2 - 52
    let m := n >>> shift
    let rem := n % Nat.pow 2 shift
    let half := Nat.pow 2 (shift - 1)
    let up := rem > half || (rem == half && m % 2 == 1)
    let m := if up then m + 1 else m
    (m.toUInt64.toFloat).scaleB (shift : Int)

/-- The powers of ten `10^0 … 10^308`, each the nearest double. -/
def powersOfTen : Array Float :=
  (List.range 309).toArray.map fun k => nearestDouble (Nat.pow 10 k)

/-- Scale a whole significand by a power of ten with the table, one rounding per step: a
power beyond the table divides by `10^308` first, at most `fuel` times. Fails (`none`) when the
value grows past the largest double. -/
def scaleByTenWithin (fuel : Nat) (significand : Float) (exponent : Int) : Option Float :=
  match fuel with
  | 0 => some significand
  | fuel + 1 =>
    match powersOfTen[exponent.natAbs]? with
    | some p =>
      if exponent ≥ 0 then
        let f := significand * p
        if f.isInf then none else some f
      else some (significand / p)
    | none =>
      if significand == 0 then some significand
      else if exponent ≥ 0 then none
      else scaleByTenWithin fuel (significand / 1e308) (exponent + 308)

/-- `significand · 10^exponent` as the table method reads it. A significand below `2^64`
reaches zero after three divisions by `10^308`, so four steps always finish. -/
def scaleByTen (significand : Float) (exponent : Int) : Option Float :=
  scaleByTenWithin 4 significand exponent

end TableMigration.Decimal
