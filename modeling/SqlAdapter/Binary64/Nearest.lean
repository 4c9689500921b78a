import SqlAdapter.Binary64.Basic

/-!
# The double nearest to a decimal

`nearest` rounds `digits * 10 ^ scale` to the nearest double, a tie going to the even significand,
in exact integer arithmetic. A decimal too large for every double has none; one too small becomes
zero.
-/

set_option autoImplicit false

namespace SqlAdapter.Binary64

/-- The quotient rounded to the nearest natural number, a tie to the even one. -/
def roundQuotient (num den : Nat) : Nat :=
  let q := num / den
  let r := num % den
  if 2 * r < den then q
  else if den < 2 * r then q + 1
  else q + q % 2

/-- The bits below the sign of the double nearest to the positive quotient `num / den`, unless it
lies beyond them all. -/
def magnitudeOfQuotient? (num den : Nat) : Option Nat :=
  -- with this exponent the significand has 53 or 54 bits
  let guess : Int := (num.log2 : Int) - den.log2 - 53
  let shifted (e : Int) : Nat × Nat := (num * Nat.pow 2 (-e).toNat, den * Nat.pow 2 e.toNat)
  let wide := (shifted guess).1 / (shifted guess).2
  let exponent := max (-1074) (if wide < Nat.pow 2 53 then guess else guess + 1)
  let significand := roundQuotient (shifted exponent).1 (shifted exponent).2
  let magnitude := (exponent + 1074).toNat * Nat.pow 2 52 + significand
  if magnitude < 2047 * Nat.pow 2 52 then some magnitude else none

/-- The double nearest to `digits * 10 ^ scale`, with the given sign. -/
def nearest? (negative : Bool) (digits : Nat) (scale : Int) : Option Binary64 :=
  if digits = 0 then some (ofMagnitude negative 0)
  else
    let top : Int := (Nat.toDigits 10 digits).length + scale
    -- beyond these bounds the answer is known, and the power of ten need not be computed
    if 310 < top then none
    else if top < -330 then some (ofMagnitude negative 0)
    else
      (magnitudeOfQuotient? (digits * Nat.pow 10 scale.toNat) (Nat.pow 10 (-scale).toNat)).map
        (ofMagnitude negative)

example : nearest? false 1 0 = some one := by decide +kernel
example : nearest? false 9007199254740993 0 = nearest? false 9007199254740992 0 := by decide +kernel
example : nearest? false 5 (-324) = some ⟨1⟩ := by decide +kernel
example : nearest? true 24703282292062327208 (-343) = some negativeZero := by decide +kernel
example : nearest? false 1 400 = none := by decide +kernel
example : nearest? false 17976931348623157 292 = some ⟨0x7FEFFFFFFFFFFFFF⟩ := by decide +kernel
example : nearest? false 17976931348623159 292 = none := by decide +kernel

end SqlAdapter.Binary64
