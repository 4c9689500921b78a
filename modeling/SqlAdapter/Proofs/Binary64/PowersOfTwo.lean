import Mathlib.Order.Basic
import SqlAdapter.Binary64.Basic

/-!
# Powers of two

The fields of a double that is a power of two. Main statement: only the double one is equal to it as a
number, so it can be told by its bits.
-/

set_option autoImplicit false

namespace SqlAdapter.Binary64

variable {x : Binary64}

/-- A power of two has only one significand with a given number of binary digits. -/
theorem eq_of_mul_pow_eq {p m k n : Nat} (hlow : Nat.pow 2 p ≤ m) (hhigh : m < Nat.pow 2 (p + 1))
    (h : m * Nat.pow 2 k = Nat.pow 2 n) : m = Nat.pow 2 p ∧ n = p + k := by
  have hpos : 0 < Nat.pow 2 k := Nat.two_pow_pos k
  have hle : Nat.pow 2 (p + k) ≤ Nat.pow 2 n := by
    rw [← h]
    exact (Nat.pow_add 2 p k).trans_le (Nat.mul_le_mul_right _ hlow)
  have hlt : Nat.pow 2 n < Nat.pow 2 (p + 1 + k) := by
    rw [← h]
    exact (Nat.mul_lt_mul_of_pos_right hhigh hpos).trans_eq (Nat.pow_add 2 (p + 1) k).symm
  have hleast : p + k ≤ n := (Nat.pow_le_pow_iff_right Nat.one_lt_two).1 hle
  have hmost : n < p + 1 + k := (Nat.pow_lt_pow_iff_right Nat.one_lt_two).1 hlt
  have hn : n = p + k := by omega
  rw [hn] at h
  exact ⟨Nat.eq_of_mul_eq_mul_right hpos (h.trans (Nat.pow_add 2 p k)), hn⟩

theorem fields_of_scaled_eq_pow {n : Nat} (hn : 52 ≤ n) (h : x.scaled = Nat.pow 2 n) :
    x.isNegative = false ∧ x.fraction = 0 ∧ x.biasedExponent + 51 = n := by
  have hpos : 0 < Nat.pow 2 n := Nat.two_pow_pos n
  have hfraction : x.fraction < Nat.pow 2 52 := Nat.mod_lt _ (Nat.two_pow_pos 52)
  unfold scaled at h
  cases hsign : x.isNegative with
  | true =>
    rw [hsign, if_pos rfl] at h
    omega
  | false =>
    rw [hsign, if_neg Bool.false_ne_true, Int.natCast_inj] at h
    refine ⟨rfl, ?_⟩
    by_cases hexp : x.biasedExponent = 0
    · -- without an exponent the number is less than the least power of two in question
      have hleast : Nat.pow 2 52 ≤ Nat.pow 2 n := Nat.pow_le_pow_right Nat.two_pos hn
      have hvalue : x.fraction * Nat.pow 2 0 = Nat.pow 2 n := by
        rw [significand, if_pos hexp, exponent, if_pos hexp] at h
        exact h
      have hone : x.fraction * Nat.pow 2 0 = x.fraction := Nat.mul_one _
      omega
    · have hshift : (x.exponent + 1074).toNat = x.biasedExponent - 1 := by
        rw [exponent, if_neg hexp]
        omega
      rw [significand, if_neg hexp, hshift] at h
      have hhigh : Nat.pow 2 52 + x.fraction < Nat.pow 2 (52 + 1) := by
        have hdouble : Nat.pow 2 (52 + 1) = Nat.pow 2 52 * 2 := rfl
        omega
      obtain ⟨hsignificand, hsum⟩ := eq_of_mul_pow_eq (Nat.le_add_right _ _) hhigh h
      omega

theorem scaled_one : one.scaled = Nat.pow 2 1074 := by decide +kernel

theorem sameNumber_one_iff : x.sameNumber one = true ↔ x = one := by
  constructor
  · intro h
    simp only [sameNumber, Bool.and_eq_true, beq_iff_eq] at h
    obtain ⟨hsign, hfraction, hexp⟩ := fields_of_scaled_eq_pow (by decide) (h.2.trans scaled_one)
    have hbits : x.bits.toNat < 18446744073709551616 := x.bits.toNat_lt
    have hsign' : ¬x.bits.toNat / 9223372036854775808 = 1 := of_decide_eq_false hsign
    have hfraction' : x.bits.toNat % 4503599627370496 = 0 := hfraction
    have hexp' : x.bits.toNat / 4503599627370496 % 2048 + 51 = 1074 := hexp
    apply Binary64.ext
    rw [← UInt64.toNat_inj]
    show x.bits.toNat = 4607182418800017408
    omega
  · rintro rfl
    decide +kernel

end SqlAdapter.Binary64
