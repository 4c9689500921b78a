/-!
# Binary64 numbers

A double-precision number held as its 64 bits, so that equality is equality of bits and both zeros
and every NaN stay apart. `sameNumber` is numeric equality, and `scaled` reads a finite number as an
integer multiple of the least positive one, which orders finite numbers exactly.
-/

set_option autoImplicit false

namespace SqlAdapter

@[ext] structure Binary64 where
  bits : UInt64
  deriving DecidableEq, Repr

namespace Binary64

def isNegative (x : Binary64) : Bool := x.bits.toNat / Nat.pow 2 63 = 1

/-- The exponent field. -/
def biasedExponent (x : Binary64) : Nat := x.bits.toNat / Nat.pow 2 52 % Nat.pow 2 11

/-- The fraction field. -/
def fraction (x : Binary64) : Nat := x.bits.toNat % Nat.pow 2 52

def isFinite (x : Binary64) : Bool := x.biasedExponent ≠ 2047

def isNaN (x : Binary64) : Bool := !x.isFinite && x.fraction ≠ 0

/-- A zero of either sign. -/
def isZero (x : Binary64) : Bool := x.biasedExponent = 0 && x.fraction = 0

/-- The significand of a finite number: its magnitude is `significand * 2 ^ exponent`. -/
def significand (x : Binary64) : Nat :=
  if x.biasedExponent = 0 then x.fraction else Nat.pow 2 52 + x.fraction

def exponent (x : Binary64) : Int :=
  if x.biasedExponent = 0 then -1074 else (x.biasedExponent : Int) - 1075

/-- A finite number as a multiple of `2 ^ (-1074)`; an infinity lies beyond every finite number. -/
def scaled (x : Binary64) : Int :=
  let m := x.significand * Nat.pow 2 (x.exponent + 1074).toNat
  if x.isNegative then -(m : Int) else m

/-- Numeric equality: a NaN equals nothing, and the two zeros are equal. -/
def sameNumber (x y : Binary64) : Bool :=
  !x.isNaN && !y.isNaN && x.scaled == y.scaled

/-- The number with the given sign and bits below the sign. -/
def ofMagnitude (negative : Bool) (magnitude : Nat) : Binary64 :=
  ⟨UInt64.ofNat (if negative then Nat.pow 2 63 + magnitude else magnitude)⟩

def zero : Binary64 := ofMagnitude false 0

def negativeZero : Binary64 := ofMagnitude true 0

def one : Binary64 := ⟨0x3FF0000000000000⟩

example : one.scaled = Nat.pow 2 1074 := by decide +kernel
example : zero.sameNumber negativeZero = true ∧ zero ≠ negativeZero := by decide +kernel
example : (⟨0x7FF8000000000000⟩ : Binary64).isNaN = true := by decide +kernel

end Binary64

end SqlAdapter
