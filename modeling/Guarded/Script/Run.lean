import Guarded.Block
import Guarded.Sink
import Guarded.Script.Statement
import Guarded.Script.Trace

set_option autoImplicit false

/-! # Running a script

The meaning of a statement, `Statement.step`, is an action on a memory and a sink. A guarded block
becomes a `Block` whose body and handlers are the actions of its lists, so what is said of blocks in
general holds of scripts. The error that was caught is handed down to the statements of a handler,
and to the bodies of the blocks in it; it is no part of the memory. -/

namespace Guarded.Script

/-- A step of a script: an action on a `Memory` and a sink that leaves `Note`s between its
    events. -/
abbrev Step (α : Type) : Type := Action Note (Machine Memory) α

namespace Step

/-- The value of an expression, in the memory as it is now. -/
def eval (expr : Expr) : Step Int32 := do
  let machine ← Action.look
  Action.ofChecked (expr.eval machine.memory)

def setVar (name : String) (value : Int32) : Step Unit :=
  Machine.remember (·.setVar name value)

/-- Compound assignment `name op= operand`: the operand is evaluated first, and the variable is
    written only when the operation succeeds. -/
def assign (op : ArithOp) (name : String) (operand : Expr) : Step Unit := do
  let divisor ← eval operand
  let machine ← Action.look
  let report := Assignment.run ⟨op, divisor⟩ (machine.memory.value name)
  Action.ofChecked report.outcome
  setVar name report.value

/-- Run a step and leave a `Note` of how it ended, with the variables at its end. -/
def noting (path : Path) (step : Step Flow) : Step Flow :=
  Action.noting step fun outcome machine => ⟨path, outcome, machine.memory.vars⟩

/-- Run `round` some times, first with `number` and then with the numbers after it. A round that
    `gaveBack` a value ends them. -/
def rounds (round : Nat → Step Flow) (number : Nat) : Nat → Step Flow
  | 0 => pure .next
  | count + 1 => do
    match ← round number with
    | .next => rounds round (number + 1) count
    | .gaveBack value => pure (.gaveBack value)

/-! ## What each operation leaves -/

@[simp] theorem eval_run (expr : Expr) (machine : Machine Memory) :
    eval expr machine =
      ⟨(expr.eval machine.memory).events.map .event, machine,
        (expr.eval machine.memory).result.mapError .thrown⟩ := by
  simp [eval, Action.bind_run]

@[simp] theorem setVar_run (name : String) (value : Int32) (machine : Machine Memory) :
    setVar name value machine =
      ⟨[], { machine with memory := machine.memory.setVar name value }, .ok ()⟩ := rfl

@[simp] theorem noting_run (path : Path) (step : Step Flow) (machine : Machine Memory) :
    noting path step machine =
      ⟨(step machine).log ++
          [.note ⟨path, (step machine).result, (step machine).context.memory.vars⟩],
        (step machine).context, (step machine).result⟩ := rfl

/-- The compound assignment `x op= e` is the assignment `x = x op e`. -/
theorem assign_eq (op : ArithOp) (name : String) (operand : Expr) :
    assign op name operand = (do setVar name (← eval (.arith op (.var name) operand))) := by
  funext machine
  have read : (Expr.arith op (.var name) operand).eval machine.memory =
      operand.eval machine.memory >>= op.checked (machine.memory.value name) := rfl
  cases h : (operand.eval machine.memory).result with
  | error error =>
    rw [Checked.bind_of_error h] at read
    simp only [assign, Action.bind_run, eval_run, read, h]
    rfl
  | ok divisor =>
    rw [Checked.bind_of_ok h] at read
    simp only [assign, Action.bind_run, Action.look_run, Action.ofChecked_run, eval_run, read, h,
      Fault.mapError_ok]
    by_cases zero : divisor = 0
    · subst zero
      simp [Assignment.run_zero, ArithOp.checked_zero]
    · simp [Assignment.run_of_ne_zero op _ zero, ArithOp.checked_of_ne_zero op _ zero]

end Step

/-! ## Statements -/

mutual

/-- What a statement does. The `path` is its own, and `caught` is the error that the innermost
    handler around it caught. -/
def Statement.step (caught : Option ArithError) (path : Path) : Statement → Step Flow
  | .set name value => do
    Step.setVar name (← Step.eval value)
    return .next
  | .assign op name divisor => do
    Step.assign op name divisor
    return .next
  | .print value => do
    let number ← Step.eval value
    Machine.printLine (toString number.toInt)
    return .next
  | .text line => do
    Machine.printLine line
    return .next
  | .printCaught =>
    match caught with
    | some error => do
      Machine.printLine error.message
      return .next
    | none => return .next
  | .rethrow =>
    match caught with
    | some error => Action.fail (.thrown error)
    | none => return .next
  | .throwError error => Action.fail (.thrown error)
  | .failIo error => Action.fail (.io error)
  | .giveBack none => return .gaveBack none
  | .giveBack (some value) => do return .gaveBack (some (← Step.eval value))
  | .loop count body => Step.rounds (fun number => steps caught path (.round number) 0 body) 0 count
  | .guarded body clauses into => do
    let ending ← Block.run
      { body := do return (← steps caught path .body 0 body).value
        clauses := handlers path 0 clauses }
    match into, ending with
    | some name, .completed (some value) => Step.setVar name value
    | _, _ => pure ()
    return .next

/-- What a list of statements does. The `path` is that of the block or loop that holds the list, and
    `index` is that of the first statement. -/
def steps (caught : Option ArithError) (path : Path) (site : Site) (index : Nat) :
    List Statement → Step Flow
  | [] => return .next
  | statement :: rest => do
    let own := path ++ [⟨site, index⟩]
    match ← Step.noting own (statement.step caught own) with
    | .next => steps caught path site (index + 1) rest
    | .gaveBack value => return .gaveBack value

/-- The clauses of a block, the first at `position`. What a handler gives back is dropped. -/
def handlers (path : Path) (position : Nat) :
    List (Kind × List Statement) → List (Clause Note (Machine Memory))
  | [] => []
  | (kind, handler) :: rest =>
    { kind
      handler := fun error => do
        let _ ← steps (some error) path (.handler position) 0 handler } ::
      handlers path (position + 1) rest

end

/-- The block that a `guarded` statement at `path` runs. -/
def blockAt (caught : Option ArithError) (path : Path) (body : List Statement)
    (clauses : List (Kind × List Statement)) : Block Note (Machine Memory) (Option Int32) where
  body := do return (← steps caught path .body 0 body).value
  clauses := handlers path 0 clauses

/-! ## Scripts -/

def block (script : Script) : Block Note (Machine Memory) (Option Int32) where
  body := do return (← steps none [] .body 0 script.body).value
  clauses := handlers [] 0 script.clauses

/-- The block that a script is stands at the empty path, and no error is caught around it; what is
    said of `blockAt` holds of whole scripts. -/
theorem block_eq (script : Script) : script.block = blockAt none [] script.body script.clauses :=
  rfl

/-- Run a script. -/
def run (script : Script) (memory : Memory) (sink : Sink) :
    Run Note (Machine Memory) (Ending (Option Int32)) :=
  script.block.run ⟨memory, sink⟩

/-- What is seen of a script that has ended: how it ended, its variables, its output, and its
    trace. -/
structure Answer where
  result : Except Fault (Ending (Option Int32))
  vars : Table Int32
  output : List UInt8
  trace : List (Entry Note)

/-- The events of the `trace`, in order, without the notes. -/
def Answer.events (answer : Answer) : List Event :=
  answer.trace.filterMap Entry.event?

/-- What is seen of a script after it ran on a memory and a sink. -/
def answer (script : Script) (memory : Memory) (sink : Sink) : Answer :=
  let run := script.run memory sink
  ⟨run.result, run.context.memory.vars, run.context.sink.held.toList, run.log⟩

end Guarded.Script
