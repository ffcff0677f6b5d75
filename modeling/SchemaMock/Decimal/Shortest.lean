/-
# The shortest decimal that reads back

A double stands for an interval of reals: all those that round to it.  Its decimal text is a point
of that interval, and the text is short when the point lies on a coarse grid of powers of ten.
`shortest?` goes from coarse grids to fine ones and looks, on each, at the two neighbours of the
value; the first grid with a neighbour inside the interval has the fewest digits, because if any
point of a grid lies in an interval around the value then one of the value's two neighbours does.
Of two neighbours inside, the nearer one is taken.

All of it is exact arithmetic on natural numbers: a comparison of `x · 2^q` with `d · 10^k` is
multiplied out.
-/
namespace SchemaMock.Decimal

/-! ## 1. A double taken apart -/

/-- A positive real `significand · 2^exponent` together with the interval that rounds to it. -/
structure Binary where
  /-- The integer part of the double's own notation. -/
  significand : Nat
  /-- The power of two that it is multiplied by. -/
  exponent : Int
  /-- Whether the double below lies half as far away as the one above. -/
  atPowerOfTwo : Bool

/-- The magnitude of a finite double from the 63 low bits of its pattern; `none` for zero. -/
def Binary.ofBits? (bits : Nat) : Option Binary :=
  let fraction := bits % 4503599627370496
  let biased := bits / 4503599627370496 % 2048
  if biased = 0 then
    if fraction = 0 then none else some ⟨fraction, -1074, false⟩
  else some ⟨fraction + 4503599627370496, biased - 1075, fraction = 0 ∧ 1 < biased⟩

/-! ## 2. Grids -/

/-- A point `digits · 10^exponent` of a grid. -/
structure Point where
  /-- The digits, read as one whole number. -/
  digits : Nat
  /-- The power of ten that the last digit stands for. -/
  exponent : Int
  deriving DecidableEq, Repr

/-- Factors `(p, q)` such that `x · 2^two` against `d · 10^ten` is `x · p` against `d · q`. -/
def crossFactors (two ten : Int) : Nat × Nat :=
  (Nat.pow 2 two.toNat * Nat.pow 10 (-ten).toNat, Nat.pow 2 (-two).toNat * Nat.pow 10 ten.toNat)

/-- Whether `digits`, on the grid with the factors `(p, q)`, rounds to the double: the interval is
measured in quarters of the unit of the last binary place, and its ends belong to it when the
significand is even. -/
def Binary.covers (b : Binary) (p q digits : Nat) : Bool :=
  let low := 4 * b.significand - (if b.atPowerOfTwo then 1 else 2)
  let high := 4 * b.significand + 2
  if b.significand % 2 = 0 then low * p ≤ digits * q && digits * q ≤ high * p
  else low * p < digits * q && digits * q < high * p

/-- The neighbour of the value on the grid of `10^ten` that rounds to the double, if one does. -/
def Binary.onGrid? (b : Binary) (ten : Int) : Option Point :=
  let (p, q) := crossFactors (b.exponent - 2) ten
  let exact := 4 * b.significand * p
  let below := exact / q
  let above := below + 1
  match b.covers p q below, b.covers p q above with
  | true, true =>
    let fromBelow := exact - below * q
    let fromAbove := above * q - exact
    if fromBelow < fromAbove ∨ (fromBelow = fromAbove ∧ below % 2 = 0) then some ⟨below, ten⟩
    else some ⟨above, ten⟩
  | true, false => some ⟨below, ten⟩
  | false, true => some ⟨above, ten⟩
  | false, false => none

/-- The first of `count` grids, from `10^ten` downwards, with a point that rounds to the double. -/
def Binary.search (b : Binary) : (count : Nat) → (ten : Int) → Option Point
  | 0, _ => none
  | count + 1, ten =>
    match b.onGrid? ten with
    | some d => some d
    | none => b.search count (ten - 1)

/-- The shortest decimal of a double's magnitude.  The search starts above the leading digit and
ends where seventeen digits, which always suffice, have been tried. -/
def Binary.shortest? (b : Binary) : Option Point :=
  let leading := Int.fdiv ((b.significand.log2 + b.exponent) * 30103) 100000
  b.search 24 (leading + 2)

end SchemaMock.Decimal
