import SqlAdapter.Binary64.Basic

/-!
# The shortest decimal that reads back

The reals that round to a double form an interval around it. `shortest` finds the decimal with the
fewest digits in that interval; among those it takes the one nearest to the double, and of two
equally near the one with the even last digit.
-/

set_option autoImplicit false

namespace SqlAdapter

/-- The number `digits * 10 ^ scale`. -/
structure Decimal where
  digits : Nat
  scale : Int
  deriving DecidableEq, Repr

namespace Binary64

/-- Four times the significand, and the ends of the interval that rounds to the number, all in
quarters of its last place. Below a power of two the gap is half as wide. -/
structure Interval where
  low : Nat
  mid : Nat
  high : Nat
  closed : Bool

def interval (x : Binary64) : Interval where
  low := if x.fraction = 0 ∧ 1 < x.biasedExponent then 4 * x.significand - 1
    else 4 * x.significand - 2
  mid := 4 * x.significand
  high := 4 * x.significand + 2
  closed := x.significand % 2 = 0

/-- The factors that bring quarters of the last place of `x` and units of `10 ^ scale` to a common
measure. -/
def measures (x : Binary64) (scale : Int) : Nat × Nat :=
  let e := x.exponent - 2
  (Nat.pow 2 e.toNat * Nat.pow 10 (-scale).toNat, Nat.pow 2 (-e).toNat * Nat.pow 10 scale.toNat)

/-- Whether `d * 10 ^ scale` rounds to the magnitude of `x`. -/
def readsBack (x : Binary64) (scale : Int) (d : Nat) : Bool :=
  let i := x.interval
  let (quarter, unit) := x.measures scale
  if i.closed then i.low * quarter ≤ d * unit && d * unit ≤ i.high * quarter
  else i.low * quarter < d * unit && d * unit < i.high * quarter

/-- The best decimal on the grid of multiples of `10 ^ scale`: one of the two neighbours of the
magnitude of `x`. -/
def onGrid? (x : Binary64) (scale : Int) : Option Nat :=
  let (quarter, unit) := x.measures scale
  let value := x.interval.mid * quarter
  let below := value / unit
  let above := below + 1
  match x.readsBack scale below, x.readsBack scale above with
  | true, true =>
    if 2 * value < (below + above) * unit then some below
    else if (below + above) * unit < 2 * value then some above
    else some (below + below % 2)
  | true, false => some below
  | false, true => some above
  | false, false => none

/-- The least power of ten above the magnitude of a finite number that is not zero. -/
def decimalExponent (x : Binary64) : Int :=
  -- the logarithm is short by less than two
  let guess := ((x.significand.log2 + x.exponent) * 30103).fdiv 100000
  let below (k : Int) : Bool :=
    let (quarter, unit) := x.measures k
    x.interval.mid * quarter < unit
  if below guess then guess else if below (guess + 1) then guess + 1 else guess + 2

/-- Moves the trailing zeros of the digits into the scale. -/
def stripZeros : Nat → Nat → Int → Decimal
  | 0, d, scale => ⟨d, scale⟩
  | n + 1, d, scale => if d ≠ 0 ∧ d % 10 = 0 then stripZeros n (d / 10) (scale + 1) else ⟨d, scale⟩

/-- The shortest decimal that rounds to the magnitude of a finite number. -/
def shortest (x : Binary64) : Decimal :=
  if x.isZero then ⟨0, 0⟩
  else
    let k := x.decimalExponent
    let found := (List.range 17).findSome? fun (n : Nat) =>
      let scale := k - (n + 1)
      (x.onGrid? scale).map fun d => stripZeros 20 d scale
    -- seventeen digits always suffice; the exact value stands in for a search that fails
    found.getD
      ⟨x.significand * Nat.pow 2 x.exponent.toNat * Nat.pow 5 (-x.exponent).toNat, min x.exponent 0⟩

example : shortest one = ⟨1, 0⟩ := by decide +kernel
example : shortest ⟨0x3FD3333333333334⟩ = ⟨30000000000000004, -17⟩ := by decide +kernel
example : shortest ⟨1⟩ = ⟨5, -324⟩ := by decide +kernel
example : shortest ⟨0x44B52D02C7E14AF6⟩ = ⟨1, 23⟩ := by decide +kernel
example : shortest ⟨0x7FEFFFFFFFFFFFFF⟩ = ⟨17976931348623157, 292⟩ := by decide +kernel
example : shortest ⟨0x3E60000000000000⟩ = ⟨29802322387695312, -24⟩ := by decide +kernel

end Binary64

end SqlAdapter
