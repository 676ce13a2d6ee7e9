/-!
# The shortest decimal in an interval

A binary number is written with as few decimal digits as still single it out. The reals that
round to it form an interval; the number is written as the point of the coarsest decimal grid
that meets the interval, and of two such points as the nearer one. All arithmetic is exact, on
natural numbers.

## Main definitions

* `SchemaAssembly.Decimal` — a coefficient times a power of ten.
* `SchemaAssembly.TieRule` — which neighbour is taken halfway between two grid points.
* `SchemaAssembly.RoundingInterval` — a value between the bounds of the reals that round to it.
* `SchemaAssembly.RoundingInterval.onGrid` — the grid point chosen on one decimal grid, if any.
* `SchemaAssembly.RoundingInterval.shortest` — the choice over all grids, coarsest first.
-/

set_option relaxedAutoImplicit false
set_option autoImplicit false

namespace SchemaAssembly

/-- The number `coefficient · 10 ^ exponent`. -/
structure Decimal where
  /-- The digits, read as one natural number. -/
  coefficient : Nat
  /-- The power of ten that the digits are scaled by. -/
  exponent : Int
deriving DecidableEq, Repr

/-- Which of two grid points is taken for a value exactly halfway between them. -/
inductive TieRule
  /-- The greater one. -/
  | up
  /-- The one with an even last digit. -/
  | even
deriving DecidableEq, Repr

/-- How many decimal digits `n` is written with. -/
def decimalLength (n : Nat) : Nat := (Nat.toDigits 10 n).length

/-- A value and the bounds of the reals that round to it, all over one denominator. -/
structure RoundingInterval where
  /-- Numerator of the lower bound. -/
  lower : Nat
  /-- Numerator of the value. -/
  value : Nat
  /-- Numerator of the upper bound. -/
  upper : Nat
  /-- The common denominator. -/
  denominator : Nat
  /-- Whether the bounds themselves round to the value. -/
  closed : Bool
deriving Repr

namespace RoundingInterval

/-- The interval of the binary number `mantissa · 2 ^ exponent`: it reaches half a step up, and
half a step down, where the step below a power of two (`narrow`) is only half as wide. An even
mantissa also takes the bounds. -/
def ofBinary (mantissa : Nat) (exponent : Int) (narrow : Bool) : RoundingInterval :=
  let scale := Nat.pow 2 (exponent - 2).toNat
  { lower := (4 * mantissa - if narrow then 1 else 2) * scale
    value := 4 * mantissa * scale
    upper := (4 * mantissa + 2) * scale
    denominator := Nat.pow 2 (2 - exponent).toNat
    closed := mantissa % 2 = 0 }

/-- The factors that turn a comparison of `c · 10 ^ k` with `x / denominator` into one of
natural numbers: `c * i.gridStep k` with `x * gridScale k`. -/
def gridStep (i : RoundingInterval) (k : Int) : Nat := Nat.pow 10 k.toNat * i.denominator

/-- The factor on the other side of that comparison. -/
def gridScale (k : Int) : Nat := Nat.pow 10 (-k).toNat

/-- Whether `c · 10 ^ k` lies in the interval. -/
def meets (i : RoundingInterval) (k : Int) (c : Nat) : Bool :=
  let point := c * i.gridStep k
  let low := i.lower * gridScale k
  let high := i.upper * gridScale k
  if i.closed then low ≤ point && point ≤ high else low < point && point < high

/-- Whether the value is nearer to the grid point above it than to the one below, `c`. -/
def roundsUp (i : RoundingInterval) (tie : TieRule) (k : Int) (c : Nat) : Bool :=
  let below := i.value * gridScale k - c * i.gridStep k
  let above := (c + 1) * i.gridStep k - i.value * gridScale k
  match compare above below, tie with
  | .lt, _ => true
  | .gt, _ => false
  | .eq, .up => true
  | .eq, .even => c % 2 = 1

/-- The point of the grid `10 ^ k` that stands for the value: of its two neighbours the one in
the interval, and of two in the interval the nearer one. -/
def onGrid (i : RoundingInterval) (tie : TieRule) (k : Int) : Option Nat :=
  let c := i.value * gridScale k / i.gridStep k
  match i.meets k c, i.meets k (c + 1) with
  | true, true => some (if i.roundsUp tie k c then c + 1 else c)
  | true, false => some c
  | false, true => some (c + 1)
  | false, false => none

/-- The power of ten of the value's first digit. -/
def leadingExponent (i : RoundingInterval) : Int :=
  let k : Int := (decimalLength i.value : Int) - (decimalLength i.denominator : Int)
  if i.gridStep k ≤ i.value * gridScale k then k else k - 1

/-- The coarsest grid that meets the interval, from one digit to seventeen, with the point
chosen on it. Seventeen digits single out every binary number of 53 bits. -/
def shortest (i : RoundingInterval) (tie : TieRule) : Decimal :=
  let lead := i.leadingExponent
  let found := (List.range 17).findSome? fun (n : Nat) =>
    (i.onGrid tie (lead - n)).map fun c => (⟨c, lead - n⟩ : Decimal)
  found.getD ⟨i.value * gridScale (lead - 16) / i.gridStep (lead - 16), lead - 16⟩

end RoundingInterval

end SchemaAssembly
