import Guarded.Script.Memory

set_option autoImplicit false

/-! # Expressions

Operands are evaluated from left to right, and the first operation that fails ends the evaluation by
`Checked.raise`: what stands to its right, and the operations around it, do not take place. -/

namespace Guarded.Script

/-- An expression over the memory of a script. -/
inductive Expr where
  | literal (value : Int32)
  | var (name : String)
  | arith (op : ArithOp) (left right : Expr)
  /-- The difference of two words; it wraps round. -/
  | sub (left right : Expr)
  /-- The element of an array at an index that is written out. -/
  | item (array : String) (index : Nat)
  /-- The element of an array at the index that `indexOf` makes of a computed word. -/
  | itemAt (array : String) (index : Expr)
  deriving DecidableEq, Repr, Inhabited

/-- The index that a word denotes: its bits, read without a sign, so that `-1` is `2 ^ 32 - 1`. -/
def indexOf (word : Int32) : Nat := word.toUInt32.toNat

/-- Read `array[index]` as a checked computation, which reports nothing. -/
def readItem (memory : Memory) (array : String) (index : Nat) : Checked Int32 :=
  match elementAt (memory.array array) index with
  | .ok value => pure value
  | .error error => Checked.raise error

theorem readItem_of_lt {memory : Memory} {array : String} {index : Nat}
    (h : index < (memory.array array).size) :
    readItem memory array index = ⟨[], .ok (memory.array array)[index]⟩ := by
  rw [readItem, elementAt_of_lt _ h]
  rfl

theorem readItem_of_ge {memory : Memory} {array : String} {index : Nat}
    (h : (memory.array array).size ≤ index) :
    readItem memory array index =
      ⟨[], .error (.indexOutOfBounds index (memory.array array).size)⟩ := by
  rw [readItem, elementAt_of_ge _ h]
  rfl

/-- The value of an expression, in words that wrap round. Only `arith`, `item` and `itemAt` raise
    errors, and only `arith` reports events. -/
def Expr.eval (memory : Memory) : Expr → Checked Int32
  | .literal value => pure value
  | .var name => pure (memory.value name)
  | .arith op left right => do
    let dividend ← left.eval memory
    let divisor ← right.eval memory
    op.checked dividend divisor
  | .sub left right => do
    let minuend ← left.eval memory
    let subtrahend ← right.eval memory
    return minuend - subtrahend
  | .item array index => readItem memory array index
  | .itemAt array index => do readItem memory array (indexOf (← index.eval memory))

end Guarded.Script
