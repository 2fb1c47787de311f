import Mathlib.Algebra.Order.Group.Unbundled.Int
import Mathlib.Algebra.Order.Ring.Abs
import Mathlib.Algebra.Order.Ring.Int
import Guarded.Arith

set_option autoImplicit false

/-! # The law of division

Division and remainder are two operations, and they agree: the quotient times the divisor and the
remainder add up to the dividend. On integers there is one pair with this property whose remainder
is smaller than the divisor and does not differ in sign from the dividend. Words have that very
pair, with one exception: the quotient of the least word by minus one is no word, and there the law
holds of words only, which wrap round.

Main statement: `division_law`. -/

namespace Guarded

/-! ## Truncating division of integers -/

/-- A quotient and a remainder with `dividend = quotient * divisor + remainder`, where the quotient
    is rounded toward zero: `|remainder| < |divisor|`, and the remainder is zero or has the sign of
    the dividend. -/
structure Truncates (dividend divisor quotient remainder : Int) : Prop where
  sum : dividend = quotient * divisor + remainder
  small : |remainder| < |divisor|
  sign : remainder = 0 ∨ remainder.sign = dividend.sign

theorem truncates_tdiv (dividend : Int) {divisor : Int} (h : divisor ≠ 0) :
    Truncates dividend divisor (dividend.tdiv divisor) (dividend.tmod divisor) where
  sum := (Int.tdiv_mul_add_tmod dividend divisor).symm
  small := by
    rw [Int.abs_eq_natAbs, Int.abs_eq_natAbs, Int.natAbs_tmod]
    exact_mod_cast Nat.mod_lt _ (Int.natAbs_pos.mpr h)
  sign := by
    rw [Int.sign_tmod]
    by_cases hdvd : divisor ∣ dividend
    · exact .inl (Int.tmod_eq_zero_of_dvd hdvd)
    · rw [if_neg hdvd]
      exact .inr rfl

/-- The remainders of one division lie on the same side of zero, so they differ by less than
    `|divisor|`. -/
theorem Truncates.dist_lt {dividend divisor quotient remainder quotient' remainder' : Int}
    (h : Truncates dividend divisor quotient remainder)
    (h' : Truncates dividend divisor quotient' remainder') :
    |remainder - remainder'| < |divisor| := by
  have hr := abs_lt.mp h.small
  have hr' := abs_lt.mp h'.small
  rw [abs_lt]
  rcases le_or_gt 0 dividend with hpos | hneg
  · have side : ∀ {r : Int}, r = 0 ∨ r.sign = dividend.sign → 0 ≤ r := by
      rintro r (rfl | hs)
      · exact le_rfl
      · exact Int.sign_nonneg_iff.mp (hs ▸ Int.sign_nonneg_iff.mpr hpos)
    have := side h.sign
    have := side h'.sign
    omega
  · have side : ∀ {r : Int}, r = 0 ∨ r.sign = dividend.sign → r ≤ 0 := by
      rintro r (rfl | hs)
      · exact le_rfl
      · rw [Int.sign_eq_neg_one_of_neg hneg] at hs
        exact le_of_lt (Int.sign_eq_neg_one_iff_neg.mp hs)
    have := side h.sign
    have := side h'.sign
    omega

theorem Truncates.unique {dividend divisor quotient remainder quotient' remainder' : Int}
    (h : Truncates dividend divisor quotient remainder)
    (h' : Truncates dividend divisor quotient' remainder') :
    quotient = quotient' ∧ remainder = remainder' := by
  have hdiff : remainder - remainder' = (quotient' - quotient) * divisor := by
    have := h.sum.symm.trans h'.sum
    rw [Int.sub_mul]
    omega
  have hdvd : |divisor| ∣ remainder - remainder' :=
    (abs_dvd _ _).mpr (hdiff ▸ Int.dvd_mul_left _ _)
  have hzero : remainder - remainder' = 0 := Int.eq_zero_of_abs_lt_dvd hdvd (h.dist_lt h')
  have hne : divisor ≠ 0 := by
    rintro rfl
    have hsmall := h.small
    rw [abs_zero] at hsmall
    exact absurd hsmall (abs_nonneg remainder).not_gt
  rw [hzero] at hdiff
  rcases Int.mul_eq_zero.mp hdiff.symm with hq | hq
  · omega
  · exact absurd hq hne

/-- The part of the dividend that is divided is no larger than the dividend. -/
theorem abs_tdiv_mul_le (dividend divisor : Int) :
    |dividend.tdiv divisor * divisor| ≤ |dividend| := by
  rw [Int.abs_eq_natAbs, Int.abs_eq_natAbs, Int.natAbs_mul, Int.natAbs_tdiv]
  exact_mod_cast Nat.div_mul_le_self _ _

/-! ## Division of words -/

/-- The one quotient of words that is not the quotient of their values, `Int32.minValue / -1`. -/
def Overflows (dividend divisor : Int32) : Prop :=
  dividend = Int32.minValue ∧ divisor = -1

theorem toInt_div_of_not_overflows {dividend divisor : Int32} (h : ¬ Overflows dividend divisor) :
    (dividend / divisor).toInt = dividend.toInt.tdiv divisor.toInt := by
  by_cases hd : divisor = -1
  · exact Int32.toInt_div_of_ne_left _ _ fun hmin => h ⟨hmin, hd⟩
  · exact Int32.toInt_div_of_ne_right _ _ hd

/-- Words wrap round to the law `dividend - quotient * divisor = remainder`, also where they
    overflow. -/
theorem sub_div_mul (dividend divisor : Int32) :
    dividend - dividend / divisor * divisor = dividend % divisor := by
  by_cases h : Overflows dividend divisor
  · obtain ⟨rfl, rfl⟩ := h
    decide
  · have hsum := Int.tdiv_mul_add_tmod dividend.toInt divisor.toInt
    have hrem : dividend.toInt - (dividend / divisor).toInt * divisor.toInt =
        (dividend % divisor).toInt := by
      rw [toInt_div_of_not_overflows h, Int32.toInt_mod]
      omega
    have hwords := congrArg Int32.ofInt hrem
    simpa only [Int32.ofInt_sub, Int32.ofInt_mul, Int32.ofInt_toInt] using hwords

theorem toInt_ne_zero {word : Int32} (h : word ≠ 0) : word.toInt ≠ 0 := by
  intro hzero
  exact h (Int32.toInt_inj.mp (hzero.trans Int32.toInt_zero.symm))

/-! ## The theorem -/

/-- **Division and remainder are one division.** `ArithOp.checked` fails on a zero divisor and on no
    other, with its own operation and the one event `zeroDivisor`, which tells the dividend; where
    it does not fail it reports nothing. Then `dividend - quotient * divisor = remainder` in words.
    For every pair that does not overflow `Truncates` holds of the integers and of no other quotient
    and remainder, and the product is no larger than the dividend. Where `Overflows` holds, the
    quotient is the least word and the remainder zero. -/
theorem division_law (dividend divisor : Int32) :
    (divisor = 0 → ∀ op : ArithOp, op.checked dividend divisor =
        ⟨[.zeroDivisor op dividend], .error (.divisionByZero op)⟩) ∧
      (divisor ≠ 0 → ∃ quotient remainder : Int32,
        ArithOp.div.checked dividend divisor = ⟨[], .ok quotient⟩ ∧
          ArithOp.rem.checked dividend divisor = ⟨[], .ok remainder⟩ ∧
          dividend - quotient * divisor = remainder ∧
          (Overflows dividend divisor → quotient = Int32.minValue ∧ remainder = 0) ∧
          (¬ Overflows dividend divisor →
            Truncates dividend.toInt divisor.toInt quotient.toInt remainder.toInt ∧
              |quotient.toInt * divisor.toInt| ≤ |dividend.toInt| ∧
              ∀ q r : Int, Truncates dividend.toInt divisor.toInt q r →
                q = quotient.toInt ∧ r = remainder.toInt)) := by
  constructor
  · rintro rfl op
    exact ArithOp.checked_zero op dividend
  · intro h
    refine ⟨dividend / divisor, dividend % divisor, ArithOp.checked_of_ne_zero .div dividend h,
      ArithOp.checked_of_ne_zero .rem dividend h, sub_div_mul dividend divisor, ?_, ?_⟩
    · rintro ⟨rfl, rfl⟩
      decide
    · intro hexact
      rw [toInt_div_of_not_overflows hexact, Int32.toInt_mod]
      have htruncates := truncates_tdiv dividend.toInt (toInt_ne_zero h)
      exact ⟨htruncates, abs_tdiv_mul_le _ _, fun q r hqr => hqr.unique htruncates⟩

end Guarded
