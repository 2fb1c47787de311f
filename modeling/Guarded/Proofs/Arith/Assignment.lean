import Mathlib.Algebra.BigOperators.Group.List.Basic
import Guarded.Proofs.Arith.Division

set_option autoImplicit false

/-! # Runs of assignments

A variable is assigned to again and again. A step with a zero divisor fails and leaves it as it is;
every other step gives it a new value, which the next step starts from.

Dividing again and again is dividing once, by the product of the divisors that are not zero: the
product may be larger than any word, the quotient never is. One quotient is the exception, that of
the least word by minus one, and the least word stays in play only as long as it is divided by one.
So the law holds of every other start, and of every list of divisors without minus one.

Main statement: `divisions_compose`. -/

namespace Guarded

/-! ## The value of the variable -/

namespace Assignment

/-- The variable after a run of assignments: `target` if there are none, and else what the last one
    leaves. -/
def finalValue (target : Int32) (assignments : List Assignment) : Int32 :=
  ((runAll target assignments).getLast?.map (·.value)).getD target

@[simp] theorem finalValue_nil (target : Int32) : finalValue target [] = target := rfl

@[simp] theorem finalValue_cons (target : Int32) (assignment : Assignment)
    (rest : List Assignment) :
    finalValue target (assignment :: rest) = finalValue (assignment.run target).value rest := by
  rw [finalValue, finalValue, runAll, List.getLast?_cons]
  cases (runAll (assignment.run target).value rest).getLast? <;> rfl

end Assignment

/-! ## Dividing twice -/

/-- Rounding toward zero twice is rounding once: `Nat.div` does so, and the signs multiply. -/
theorem tdiv_tdiv (dividend divisor more : Int) :
    (dividend.tdiv divisor).tdiv more = dividend.tdiv (divisor * more) := by
  have hnat : ∀ a b c : Nat, ((a : Int).tdiv b).tdiv c = (a : Int).tdiv (b * c) := by
    intro a b c
    have h := Nat.div_div_eq_div_mul a b c
    rw [← Int.ofNat_tdiv, ← Int.ofNat_tdiv, h, Int.ofNat_tdiv, Int.natCast_mul]
  rcases Int.natAbs_eq dividend with ha | ha <;> rcases Int.natAbs_eq divisor with hb | hb <;>
    rcases Int.natAbs_eq more with hc | hc <;> rw [ha, hb, hc] <;>
    simp only [Int.neg_tdiv, Int.tdiv_neg, Int.neg_mul, Int.mul_neg, Int.neg_neg, hnat]

/-! ## Dividing again and again -/

/-- The assignments `x /= divisor`, one for each of the divisors. -/
def divisions (divisors : List Int32) : List Assignment :=
  divisors.map (⟨.div, ·⟩)

/-- The product of the divisors that are not zero, in `Int`, where nothing wraps round. -/
def divisorProduct (divisors : List Int32) : Int :=
  ((divisors.filter (· ≠ 0)).map Int32.toInt).prod

theorem divisorProduct_of_perm {divisors order : List Int32} (h : divisors.Perm order) :
    divisorProduct divisors = divisorProduct order :=
  ((h.filter _).map _).prod_eq

/-- Nothing wraps round: the variable is not `Int32.minValue`, or it will not be divided by `-1`. -/
def Exact (target : Int32) (divisors : List Int32) : Prop :=
  target ≠ Int32.minValue ∨ -1 ∉ divisors

theorem Exact.not_overflows {target divisor : Int32} {rest : List Int32}
    (h : Exact target (divisor :: rest)) : ¬ Overflows target divisor := by
  rintro ⟨rfl, rfl⟩
  rcases h with h | h
  · exact h rfl
  · exact h List.mem_cons_self

/-- A quotient is `Int32.minValue` only where the dividend is. -/
theorem div_ne_minValue {dividend divisor : Int32} (h : dividend ≠ Int32.minValue) :
    dividend / divisor ≠ Int32.minValue := by
  intro hmin
  have hle := Int.natAbs_tdiv_le_natAbs dividend.toInt divisor.toInt
  rw [← Int32.toInt_div_of_ne_left _ _ h, hmin, Int32.toInt_minValue] at hle
  have hne : dividend.toInt ≠ -2 ^ 31 := fun heq => h (Int32.toInt_inj.mp heq)
  have hlow := dividend.le_toInt
  have hhigh := dividend.toInt_lt
  omega

/-- One step leaves the rest as `Exact` as it was. -/
theorem Exact.step {target divisor : Int32} {rest : List Int32}
    (h : Exact target (divisor :: rest)) :
    Exact ((⟨.div, divisor⟩ : Assignment).run target).value rest := by
  by_cases hzero : divisor = 0
  · rw [hzero, Assignment.run_zero]
    exact h.imp_right fun hmem hrest => hmem (List.mem_cons_of_mem _ hrest)
  · rw [Assignment.run_of_ne_zero _ _ hzero]
    rcases h with h | h
    · exact .inl (div_ne_minValue h)
    · exact .inr fun hrest => h (List.mem_cons_of_mem _ hrest)

/-- What one step does to the value: it divides by `divisorProduct [divisor]`, which is `1` for a
    zero divisor. -/
theorem toInt_run_division {target divisor : Int32} (h : ¬ Overflows target divisor) :
    ((⟨.div, divisor⟩ : Assignment).run target).value.toInt =
      target.toInt.tdiv (divisorProduct [divisor]) := by
  by_cases hzero : divisor = 0
  · subst hzero
    simp [Assignment.run_zero, divisorProduct]
  · simp [Assignment.run_of_ne_zero _ _ hzero, ArithOp.apply, toInt_div_of_not_overflows h,
      divisorProduct, hzero]

theorem divisorProduct_cons (divisor : Int32) (rest : List Int32) :
    divisorProduct (divisor :: rest) = divisorProduct [divisor] * divisorProduct rest := by
  by_cases hzero : divisor = 0 <;> simp [divisorProduct, hzero]

theorem toInt_finalValue_divisions {target : Int32} {divisors : List Int32}
    (h : Exact target divisors) :
    (Assignment.finalValue target (divisions divisors)).toInt =
      target.toInt.tdiv (divisorProduct divisors) := by
  induction divisors generalizing target with
  | nil => simp [divisions, divisorProduct]
  | cons divisor rest ih =>
    have hrest := ih h.step
    rw [divisions, List.map_cons, Assignment.finalValue_cons, ← divisions, hrest,
      toInt_run_division h.not_overflows, tdiv_tdiv, ← divisorProduct_cons]

/-- Some steps leave the rest as `Exact` as it was. -/
theorem Exact.steps {target : Int32} {before after : List Int32}
    (h : Exact target (before ++ after)) :
    Exact (Assignment.finalValue target (divisions before)) after := by
  induction before generalizing target with
  | nil => exact h
  | cons divisor rest ih =>
    rw [divisions, List.map_cons, Assignment.finalValue_cons, ← divisions]
    exact ih h.step

/-! ## The theorem -/

/-- **Dividing again and again is dividing once by the product.** A variable that is divided by one
    divisor after another, as `divisions` does, ends as `Int.tdiv` of its value by `divisorProduct`,
    in whichever order the divisors come; and at each step that does not fail it becomes `Int.tdiv`
    of its value by the divisor. Either the variable is not `Int32.minValue` at the start, or `-1`
    is not among the divisors. -/
theorem divisions_compose (target : Int32) (divisors : List Int32)
    (h : target ≠ Int32.minValue ∨ -1 ∉ divisors) :
    (Assignment.finalValue target (divisions divisors)).toInt =
        target.toInt.tdiv (divisorProduct divisors) ∧
      (∀ order, divisors.Perm order → Assignment.finalValue target (divisions order) =
        Assignment.finalValue target (divisions divisors)) ∧
      ∀ before divisor after, divisors = before ++ divisor :: after → divisor ≠ 0 →
        let value := Assignment.finalValue target (divisions before)
        (Assignment.run ⟨.div, divisor⟩ value).value.toInt = value.toInt.tdiv divisor.toInt := by
  have hfinal := toInt_finalValue_divisions h
  refine ⟨hfinal, ?_, ?_⟩
  · intro order hperm
    have horder : Exact target order := h.imp_right fun hmem => hmem ∘ hperm.mem_iff.mpr
    apply Int32.toInt_inj.mp
    rw [hfinal, toInt_finalValue_divisions horder, divisorProduct_of_perm hperm]
  · rintro before divisor after rfl hne
    have hexact : Exact target (before ++ divisor :: after) := h
    have hstep := toInt_run_division hexact.steps.not_overflows
    simpa [divisorProduct, hne] using hstep

/-- The least word may be divided as long as `-1` is not among the divisors. -/
theorem least_word_divided :
    (Int32.minValue ≠ Int32.minValue ∨ -1 ∉ ([3, 0, -7, 2] : List Int32)) ∧
      (Assignment.finalValue Int32.minValue (divisions [3, 0, -7, 2])).toInt = 51130563 :=
  have hexact : Int32.minValue ≠ Int32.minValue ∨ -1 ∉ ([3, 0, -7, 2] : List Int32) :=
    .inr (by decide)
  ⟨hexact, (divisions_compose Int32.minValue [3, 0, -7, 2] hexact).1.trans (by decide)⟩

/-- Where `Int32.minValue` meets `-1`, the order of the steps matters. -/
example : Assignment.finalValue Int32.minValue (divisions [-1, 2]) = -1073741824 ∧
    Assignment.finalValue Int32.minValue (divisions [2, -1]) = 1073741824 := by decide

end Guarded
