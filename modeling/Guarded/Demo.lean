import Guarded.Arith
import Guarded.Block
import Guarded.Sink

set_option autoImplicit false

/-! # The demonstration

A variable that starts at `initialValue` is divided by zero and then reduced modulo zero, each in a
guarded block that catches the error and prints it: `division` and `remainder`. Neither attempt
changes the variable, whose value is printed last. -/

namespace Guarded.Demo

/-- An action of the demonstration: it remembers one variable, of type `Int32`, and makes no
    notes. -/
abbrev Step (α : Type) : Type := Action Empty (Machine Int32) α

def initialValue : Int32 := 10

def divisor : Int32 := 0

def value : Step Int32 := do return (← Action.look).memory

/-- The first block: the variable is assigned `value / divisor`, and a line is printed. With a
    `divisor` of zero neither takes place. -/
def division : Block Empty (Machine Int32) Unit where
  body := do
    let quotient ← Action.ofChecked (ArithOp.div.checked (← value) divisor)
    Machine.remember fun _ => quotient
    Machine.printLine "100"
  clauses :=
    [{ kind := .arithmetic
       handler := fun error => do
        Machine.printLine "Caught exception ;)"
        Machine.printLine error.message }]

/-- The second block: `value % divisor`, with a second clause for `outOfBounds`, which `rem` never
    raises. -/
def remainder : Block Empty (Machine Int32) Int32 where
  body := do Action.ofChecked (ArithOp.rem.checked (← value) divisor)
  clauses :=
    [{ kind := .arithmetic
       handler := fun error => do
        Machine.printLine "err"
        Machine.printLine error.message },
     { kind := .outOfBounds
       handler := fun _ => Machine.printLine "index exception" }]

/-- The demonstration: set the variable to `initialValue`, run `division` and `remainder`, print the
    variable, and report `finished`. -/
def program : Step Int32 := do
  Machine.remember fun _ => initialValue
  let _ ← division.run
  let _ ← remainder.run
  let final ← value
  Machine.printLine (toString final.toInt)
  Action.report (.finished final)
  return final

/-- One run of the demonstration: how it ended, what it wrote and what it reported. -/
structure Report where
  result : Except Fault Int32
  output : List UInt8
  events : List Event

/-- Run `program` once on a sink. The `output` is what the sink holds after the run and did not hold
    before it. -/
def run (sink : Sink) : Report × Sink :=
  let done := program ⟨initialValue, sink⟩
  let after := done.context.sink
  (⟨done.result, after.held.toList.drop sink.held.size, done.events⟩, after)

/-- Run the demonstration `count` times on one sink, each on the sink that the run before left,
    whether or not a run fails. -/
def runAll (sink : Sink) : Nat → List Report
  | 0 => []
  | count + 1 =>
    let (report, after) := run sink
    report :: runAll after count

end Guarded.Demo
