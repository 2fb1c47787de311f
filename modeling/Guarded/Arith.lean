import Guarded.Checked

set_option autoImplicit false

/-! # Checked arithmetic

Division and remainder on words of type `Int32`, compound assignment, and reading an element of an
array. A zero divisor and an index outside the array are errors; nothing else is. Division rounds
toward zero and the remainder has the sign of the dividend; the one quotient that is too large,
`Int32.minValue / -1`, wraps round to the dividend and leaves no remainder. -/

namespace Guarded

/-! ## Division and remainder -/

namespace ArithOp

/-- The operation where `divisor ≠ 0`, wrapping as `Int32` does: `Int32.minValue / -1` is
    `Int32.minValue` and `Int32.minValue % -1` is `0`. -/
def apply : ArithOp → Int32 → Int32 → Int32
  | .div, dividend, divisor => dividend / divisor
  | .rem, dividend, divisor => dividend % divisor

/-- The operation on any divisor. Where `divisor = 0` the event `zeroDivisor op dividend` is
    reported and `divisionByZero op` is raised. -/
def checked (op : ArithOp) (dividend divisor : Int32) : Checked Int32 :=
  if divisor = 0 then do
    Checked.report (.zeroDivisor op dividend)
    Checked.raise (.divisionByZero op)
  else
    pure (op.apply dividend divisor)

theorem checked_zero (op : ArithOp) (dividend : Int32) :
    op.checked dividend 0 = ⟨[.zeroDivisor op dividend], .error (.divisionByZero op)⟩ := rfl

theorem checked_of_ne_zero (op : ArithOp) (dividend : Int32) {divisor : Int32} (h : divisor ≠ 0) :
    op.checked dividend divisor = ⟨[], .ok (op.apply dividend divisor)⟩ := by
  simp only [checked, if_neg h]
  rfl

end ArithOp

/-- For each dividend a row with two cells for each divisor, the quotient `dividend / divisor` and
    then the remainder. -/
def divisionTable (dividends divisors : List Int32) : List (List (Except ArithError Int32)) :=
  dividends.map fun dividend => divisors.flatMap fun divisor =>
    [(ArithOp.div.checked dividend divisor).result, (ArithOp.rem.checked dividend divisor).result]

/-! ## Compound assignment -/

/-- One compound assignment, `x /= divisor` or `x %= divisor`. -/
structure Assignment where
  op : ArithOp
  divisor : Int32
  deriving DecidableEq, Repr, Inhabited

/-- What an assignment left behind: the `value` of the variable after it, and how it went. -/
structure Assignment.Report where
  value : Int32
  outcome : Checked Unit

/-- Assign to a variable that holds `target`. It keeps `target` when `ArithOp.checked` fails. -/
def Assignment.run (assignment : Assignment) (target : Int32) : Assignment.Report :=
  let attempt := assignment.op.checked target assignment.divisor
  match attempt.result with
  | .ok value => ⟨value, ⟨attempt.events, .ok ()⟩⟩
  | .error error => ⟨target, ⟨attempt.events, .error error⟩⟩

theorem Assignment.run_zero (op : ArithOp) (target : Int32) :
    (⟨op, 0⟩ : Assignment).run target =
      ⟨target, ⟨[.zeroDivisor op target], .error (.divisionByZero op)⟩⟩ := by
  rw [run, ArithOp.checked_zero]

theorem Assignment.run_of_ne_zero (op : ArithOp) (target : Int32) {divisor : Int32}
    (h : divisor ≠ 0) :
    (⟨op, divisor⟩ : Assignment).run target = ⟨op.apply target divisor, ⟨[], .ok ()⟩⟩ := by
  rw [run, ArithOp.checked_of_ne_zero op target h]

/-- Assign to one variable again and again, each step on the value that the one before left, whether
    or not a step fails. -/
def Assignment.runAll (target : Int32) : List Assignment → List Assignment.Report
  | [] => []
  | assignment :: rest =>
    let report := assignment.run target
    report :: runAll report.value rest

/-! ## Elements of an array -/

/-- The element `values[index]`, or `indexOutOfBounds index values.size` where there is no such
    element. -/
def elementAt {α : Type} (values : Array α) (index : Nat) : Except ArithError α :=
  match values[index]? with
  | some value => .ok value
  | none => .error (.indexOutOfBounds index values.size)

theorem elementAt_of_lt {α : Type} (values : Array α) {index : Nat} (h : index < values.size) :
    elementAt values index = .ok values[index] := by
  simp [elementAt, h]

theorem elementAt_of_ge {α : Type} (values : Array α) {index : Nat} (h : values.size ≤ index) :
    elementAt values index = .error (.indexOutOfBounds index values.size) := by
  simp [elementAt, h]

end Guarded
