set_option autoImplicit false

/-! # Arithmetic errors

The errors that checked arithmetic raises, the kinds by which a guarded block tells them apart, and
their texts. A `divisionByZero` remembers which operation failed, but its `message` does not: the
two operations share one message and one kind, and only `debug` keeps them apart. -/

namespace Guarded

/-! ## Operations and kinds -/

/-- The two operations that fail on a zero divisor, `/` and `%`. -/
inductive ArithOp where
  | div
  | rem
  deriving DecidableEq, Repr, Inhabited

def ArithOp.name : ArithOp → String
  | .div => "Div"
  | .rem => "Rem"

/-- What a catch clause asks for. Errors themselves are arithmetic or out of bounds; `any` occurs
    in clauses only. -/
inductive Kind where
  | arithmetic
  | outOfBounds
  | any
  deriving DecidableEq, Repr, Inhabited

/-- Every kind, in the order in which `caughtBy` lists them. -/
def Kind.all : List Kind := [.arithmetic, .outOfBounds, .any]

def Kind.name : Kind → String
  | .arithmetic => "Arithmetic"
  | .outOfBounds => "OutOfBounds"
  | .any => "Any"

/-- A clause of kind `any` takes everything, every other clause takes its own kind. -/
def Kind.accepts (clause thrown : Kind) : Bool :=
  clause = .any || clause = thrown

@[simp] theorem Kind.any_accepts (thrown : Kind) : Kind.any.accepts thrown = true := by
  simp [Kind.accepts]

@[simp] theorem Kind.accepts_self (kind : Kind) : kind.accepts kind = true := by
  simp [Kind.accepts]

/-! ## Errors -/

/-- An error of checked arithmetic. A failed read keeps its `index` and the `length` it found; an
    error that was built by hand may hold any two numbers, `index < length` among them. -/
inductive ArithError where
  | divisionByZero (op : ArithOp)
  | indexOutOfBounds (index length : Nat)
  deriving DecidableEq, Repr, Inhabited

namespace ArithError

/-- The kind that clauses see. It is never `any`. -/
def kind : ArithError → Kind
  | .divisionByZero _ => .arithmetic
  | .indexOutOfBounds _ _ => .outOfBounds

/-- The text that is shown to a user. It leaves out the `op` of a division by zero. -/
def message : ArithError → String
  | .divisionByZero _ => "ArithmeticException: / by zero"
  | .indexOutOfBounds index length =>
    "ArrayIndexOutOfBoundsException: Index " ++ toString index ++ " out of bounds for length "
      ++ toString length

/-- The text that shows every field, the `op` included. -/
def debug : ArithError → String
  | .divisionByZero op => "DivisionByZero \x7b op: " ++ op.name ++ " \x7d"
  | .indexOutOfBounds index length =>
    "IndexOutOfBounds \x7b index: " ++ toString index ++ ", len: " ++ toString length ++ " \x7d"

theorem message_outOfBounds (index length : Nat) :
    message (.indexOutOfBounds index length) =
      "ArrayIndexOutOfBoundsException: Index " ++ toString index ++ " out of bounds for length "
        ++ toString length := rfl

theorem debug_outOfBounds (index length : Nat) :
    debug (.indexOutOfBounds index length) =
      "IndexOutOfBounds \x7b index: " ++ toString index ++ ", len: " ++ toString length
        ++ " \x7d" := rfl

/-- The kinds of clause that would catch the error, in the order of `Kind.all`. -/
def caughtBy (error : ArithError) : List Kind :=
  Kind.all.filter (·.accepts error.kind)

theorem kind_ne_any (error : ArithError) : error.kind ≠ .any := by
  cases error <;> simp [kind]

end ArithError

end Guarded
