import SqlAdapter.Binary64.Nearest

/-!
# Decimals in double precision

What a reader makes of a decimal that computes with doubles: it turns the significand into a double and
multiplies or divides it by a power of ten, and each of the steps rounds. The result can miss the nearest
double, and close to the largest one a decimal can be refused that has a nearest double.
-/

set_option autoImplicit false

namespace SqlAdapter.Binary64

/-- The double nearest to the quotient, unless it lies beyond them all. -/
def ofQuotient? (num den : Nat) : Option Binary64 :=
  if num = 0 then some zero else (magnitudeOfQuotient? num den).map (ofMagnitude false)

/-- The power of ten as a double; the largest exponent is 308. -/
def powerOfTen (n : Nat) : Binary64 := (nearest? false 1 n).getD zero

/-- The rounded product of numbers that are not negative. -/
def times? (x y : Binary64) : Option Binary64 :=
  ofQuotient? (x.scaled.toNat * y.scaled.toNat) (Nat.pow 2 2148)

/-- The rounded quotient of numbers that are not negative. -/
def over? (x y : Binary64) : Option Binary64 := ofQuotient? x.scaled.toNat y.scaled.toNat

/-- Divides by the largest power of ten several times. -/
def shrink? : Nat → Binary64 → Option Binary64
  | 0, x => some x
  | n + 1, x => if x.isZero then some x else (x.over? (powerOfTen 308)).bind (shrink? n)

/-- What is read for `significand * 10 ^ exponent`, where the significand has 64 bits. A decimal beyond
the powers of ten is refused, unless it is zero. -/
def ofParts? (negative : Bool) (significand : Nat) (exponent : Int) : Option Binary64 := do
  let x ← nearest? false significand 0
  let y ← match exponent with
    | .ofNat n =>
      if n ≤ 308 then x.times? (powerOfTen n) else if x.isZero then some x else none
    | .negSucc n => do
      let x ← x.shrink? (n / 308)
      x.over? (powerOfTen (n % 308 + 1))
  some (ofMagnitude negative y.bits.toNat)

example : ofParts? false 17976931348623157 292 = some ⟨0x7FEFFFFFFFFFFFFF⟩ := by decide +kernel
example : ofParts? false 17976931348623158 292 = none := by decide +kernel
example : (ofParts? false 179769313486231581 291).isSome = true := by decide +kernel
example : ofParts? true 0 400 = some negativeZero := by decide +kernel
example : ofParts? false 1 (-2147483648) = some zero := by decide +kernel

end SqlAdapter.Binary64
