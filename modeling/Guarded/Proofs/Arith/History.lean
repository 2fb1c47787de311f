import Mathlib.Data.List.Forall2
import Guarded.Proofs.Arith.Assignment

set_option autoImplicit false

/-! # The history of a variable

Divisions and remainders on one variable, in any order, some of which fail. A step that fails is as
good as no step: the variable keeps its value, and all that is left of the step is its event, with
the value that it found. Every other step brings the variable nearer to zero or leaves it where it
is, also the one quotient that wraps round.

Main statement: `history_of_assignments`. -/

namespace Guarded

namespace Assignment

/-! ## Values along a run -/

/-- The values of the variable along `runAll`: at the start, and after each step. -/
def history (target : Int32) (steps : List Assignment) : List Int32 :=
  target :: (runAll target steps).map (·.value)

/-- The steps of `runAll`, each with the value that it finds. -/
def found (target : Int32) (steps : List Assignment) : List (Assignment × Int32) :=
  steps.zip (history target steps)

theorem history_cons (target : Int32) (step : Assignment) (rest : List Assignment) :
    history target (step :: rest) = target :: history (step.run target).value rest := rfl

theorem found_cons (target : Int32) (step : Assignment) (rest : List Assignment) :
    found target (step :: rest) = (step, target) :: found (step.run target).value rest := rfl

/-- The steps whose divisor is not zero. -/
def effective (steps : List Assignment) : List Assignment := steps.filter (·.divisor ≠ 0)

theorem effective_cons_of_zero {step : Assignment} (h : step.divisor = 0)
    (rest : List Assignment) : effective (step :: rest) = effective rest := by
  simp [effective, h]

theorem effective_cons_of_ne_zero {step : Assignment} (h : step.divisor ≠ 0)
    (rest : List Assignment) : effective (step :: rest) = step :: effective rest := by
  simp [effective, h]

/-! ## One step -/

/-- What `step` reports that finds the variable at `value`. It fails exactly where its divisor is
    zero, with its own operation, and then it keeps the value. -/
structure Report.Accounts (step : Assignment) (value : Int32) (report : Report) : Prop where
  error_iff : ∀ error, report.outcome.result = .error error ↔
    step.divisor = 0 ∧ error = .divisionByZero step.op
  kept : step.divisor = 0 → report.value = value
  assigned : step.divisor ≠ 0 → report.value = step.op.apply value step.divisor
  nearer : |report.value.toInt| ≤ |value.toInt|
  below : step.op = .rem → step.divisor ≠ 0 → |report.value.toInt| < |step.divisor.toInt|

theorem abs_div_le (dividend divisor : Int32) :
    |(dividend / divisor).toInt| ≤ |dividend.toInt| := by
  by_cases h : Overflows dividend divisor
  · -- the least word by minus one is the least word again
    obtain ⟨rfl, rfl⟩ := h
    decide
  · rw [toInt_div_of_not_overflows h, Int.abs_eq_natAbs, Int.abs_eq_natAbs]
    exact_mod_cast Int.natAbs_tdiv_le_natAbs _ _

theorem abs_mod_le (dividend divisor : Int32) :
    |(dividend % divisor).toInt| ≤ |dividend.toInt| := by
  rw [Int32.toInt_mod, Int.abs_eq_natAbs, Int.abs_eq_natAbs, Int.natAbs_tmod]
  exact_mod_cast Nat.mod_le _ _

theorem abs_mod_lt (dividend : Int32) {divisor : Int32} (h : divisor ≠ 0) :
    |(dividend % divisor).toInt| < |divisor.toInt| := by
  rw [Int32.toInt_mod]
  exact (truncates_tdiv dividend.toInt (toInt_ne_zero h)).small

theorem abs_apply_le (op : ArithOp) (dividend divisor : Int32) :
    |(op.apply dividend divisor).toInt| ≤ |dividend.toInt| := by
  cases op with
  | div => exact abs_div_le dividend divisor
  | rem => exact abs_mod_le dividend divisor

theorem accounts_run (step : Assignment) (value : Int32) :
    Report.Accounts step value (step.run value) := by
  obtain ⟨op, divisor⟩ := step
  by_cases hzero : divisor = 0
  · subst hzero
    rw [run_zero]
    exact ⟨by simp [eq_comm], fun _ => rfl, fun h => absurd rfl h, le_rfl,
      fun _ h => absurd rfl h⟩
  · rw [run_of_ne_zero op value hzero]
    refine ⟨by simp [hzero], fun h => absurd h hzero, fun _ => rfl,
      abs_apply_le op value divisor, ?_⟩
    rintro rfl _
    exact abs_mod_lt value hzero

theorem run_of_zero {step : Assignment} (h : step.divisor = 0) (value : Int32) :
    step.run value = ⟨value, ⟨[.zeroDivisor step.op value], .error (.divisionByZero step.op)⟩⟩ := by
  obtain ⟨op, divisor⟩ := step
  obtain rfl : divisor = 0 := h
  exact run_zero op value

/-! ## Whole runs -/

theorem accounts_runAll (target : Int32) (steps : List Assignment) :
    List.Forall₂ (fun stage report => Report.Accounts stage.1 stage.2 report) (found target steps)
      (runAll target steps) := by
  induction steps generalizing target with
  | nil => exact .nil
  | cons step rest ih => exact .cons (accounts_run step target) (ih _)

theorem length_runAll (target : Int32) (steps : List Assignment) :
    (runAll target steps).length = steps.length := by
  induction steps generalizing target with
  | nil => rfl
  | cons step rest ih => rw [runAll, List.length_cons, List.length_cons, ih]

theorem abs_le_of_mem_history {target value : Int32} {steps : List Assignment}
    (h : value ∈ history target steps) : |value.toInt| ≤ |target.toInt| := by
  induction steps generalizing target with
  | nil =>
    obtain rfl := List.mem_singleton.mp h
    exact le_rfl
  | cons step rest ih =>
    rw [history_cons] at h
    rcases List.mem_cons.mp h with rfl | h
    · exact le_rfl
    · exact (ih h).trans (accounts_run step target).nearer

theorem pairwise_history (target : Int32) (steps : List Assignment) :
    (history target steps).Pairwise fun earlier later => |later.toInt| ≤ |earlier.toInt| := by
  induction steps generalizing target with
  | nil => exact List.pairwise_singleton _ _
  | cons step rest ih =>
    rw [history_cons, List.pairwise_cons]
    refine ⟨fun value hvalue => ?_, ih _⟩
    exact (abs_le_of_mem_history hvalue).trans (accounts_run step target).nearer

/-- What the `effective` steps of a run report. -/
def effectiveReports (target : Int32) (steps : List Assignment) : List Report :=
  (steps.zip (runAll target steps)).filterMap fun (step, report) =>
    if step.divisor = 0 then none else some report

/-- The `effective` steps go on as if the others had not been. -/
theorem effectiveReports_eq (target : Int32) (steps : List Assignment) :
    effectiveReports target steps = runAll target (effective steps) := by
  induction steps generalizing target with
  | nil => rfl
  | cons step rest ih =>
    have hrest := ih (step.run target).value
    by_cases hzero : step.divisor = 0
    · rw [run_of_zero hzero] at hrest
      rw [effective_cons_of_zero hzero, ← hrest]
      simp [effectiveReports, runAll, hzero, run_of_zero hzero]
    · rw [effective_cons_of_ne_zero hzero, runAll, ← hrest]
      simp [effectiveReports, runAll, hzero]

theorem finalValue_effective (target : Int32) (steps : List Assignment) :
    finalValue target (effective steps) = finalValue target steps := by
  induction steps generalizing target with
  | nil => rfl
  | cons step rest ih =>
    by_cases hzero : step.divisor = 0
    · rw [effective_cons_of_zero hzero, finalValue_cons, run_of_zero hzero, ih]
    · rw [effective_cons_of_ne_zero hzero, finalValue_cons, finalValue_cons, ih]

/-- The events of the steps that fail: each is a `zeroDivisor` with its operation and the value that
    it found. -/
def zeroDivisors (stages : List (Assignment × Int32)) : List Event :=
  stages.filterMap fun (step, value) =>
    if step.divisor = 0 then some (.zeroDivisor step.op value) else none

theorem events_runAll (target : Int32) (steps : List Assignment) :
    (runAll target steps).flatMap (·.outcome.events) = zeroDivisors (found target steps) := by
  induction steps generalizing target with
  | nil => rfl
  | cons step rest ih =>
    rw [runAll, List.flatMap_cons, ih, found_cons]
    by_cases hzero : step.divisor = 0
    · simp [zeroDivisors, hzero, run_of_zero hzero]
    · obtain ⟨op, divisor⟩ := step
      simp [zeroDivisors, run_of_ne_zero op target hzero, show divisor ≠ 0 from hzero]

/-- How the log words a step that fails: `division by zero` or `modulo by zero`. -/
def wording (step : Assignment) : String :=
  match step.op with
  | .div => "division by zero"
  | .rem => "modulo by zero"

/-- In the log there is one record for each step that fails, by its `wording`. -/
theorem messages_runAll (target : Int32) (steps : List Assignment) :
    ((runAll target steps).flatMap (·.outcome.events)).map (·.record.message) =
      (steps.filter (·.divisor = 0)).map wording := by
  induction steps generalizing target with
  | nil => rfl
  | cons step rest ih =>
    rw [runAll, List.flatMap_cons, List.map_append, ih]
    by_cases hzero : step.divisor = 0
    · rw [run_of_zero hzero, List.filter_cons_of_pos (by simpa using hzero)]
      rfl
    · obtain ⟨op, divisor⟩ := step
      rw [run_of_ne_zero op target hzero, List.filter_cons_of_neg (by simpa using hzero)]
      rfl

/-! ## The theorem -/

/-- **Divisions and remainders on one variable.** Of every run there is a report for each step, and
    it `Accounts` for the step: it fails exactly where its divisor is zero, with its operation and
    without changing the variable, and assigns the quotient or the remainder of the value that it
    finds otherwise. The `effective` steps alone make the same reports and the same value at the
    end. The events of the run are its `zeroDivisors`, in order and each in its `wording`. Along
    `history` the variable never moves away from zero, and a remainder that does not fail leaves it
    nearer to zero than the divisor is. -/
theorem history_of_assignments (target : Int32) (steps : List Assignment) :
    let reports := runAll target steps
    reports.length = steps.length ∧
      List.Forall₂ (fun stage report => Report.Accounts stage.1 stage.2 report)
        (found target steps) reports ∧
      effectiveReports target steps = runAll target (effective steps) ∧
      finalValue target steps = finalValue target (effective steps) ∧
      reports.flatMap (·.outcome.events) = zeroDivisors (found target steps) ∧
      (reports.flatMap (·.outcome.events)).map (·.record.message) =
        (steps.filter (·.divisor = 0)).map wording ∧
      (history target steps).Pairwise fun earlier later => |later.toInt| ≤ |earlier.toInt| :=
  ⟨length_runAll target steps, accounts_runAll target steps, effectiveReports_eq target steps,
    (finalValue_effective target steps).symm, events_runAll target steps,
    messages_runAll target steps, pairwise_history target steps⟩

example : history Int32.minValue [⟨.rem, 0⟩, ⟨.div, -1⟩, ⟨.div, 0⟩, ⟨.rem, 7⟩] =
    [Int32.minValue, Int32.minValue, Int32.minValue, Int32.minValue, -2] := by decide

end Assignment

end Guarded
