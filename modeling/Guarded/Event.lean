import Guarded.Error

set_option autoImplicit false

/-! # Events

What a computation reports while it runs, and how an event reads as a `LogRecord`. Events carry the
values themselves; their wording is in `Event.record` and nowhere else. -/

namespace Guarded

/-! ## Log records -/

/-- How grave a record is, from `error`, the gravest, to `trace`. -/
inductive Level where
  | error
  | warn
  | info
  | debug
  | trace
  deriving DecidableEq, Repr, Inhabited

namespace Level

def name : Level → String
  | .error => "ERROR"
  | .warn => "WARN"
  | .info => "INFO"
  | .debug => "DEBUG"
  | .trace => "TRACE"

/-- How much detail one has to ask for to see the level: a record is shown where its `rank` is at
    most that of the level asked for. -/
def rank : Level → Nat
  | .error => 1
  | .warn => 2
  | .info => 3
  | .debug => 4
  | .trace => 5

end Level

/-- The value of a field of a `LogRecord`. -/
inductive FieldValue where
  | int (value : Int)
  | text (value : String)
  deriving DecidableEq, Repr, Inhabited

/-- The value as it is printed: a number in decimal, a text as it stands. -/
def FieldValue.render : FieldValue → String
  | .int value => toString value
  | .text value => value

/-- One entry of a log. The `target` names the part of the program that wrote it, as
    `zerodiv::program`. -/
structure LogRecord where
  level : Level
  target : String
  message : String
  fields : List (String × FieldValue)
  deriving DecidableEq, Repr, Inhabited

/-! ## Events -/

/-- Something that a computation reports. What it reads like is said by `Event.record`. -/
inductive Event where
  /-- An operation met a zero divisor. -/
  | zeroDivisor (op : ArithOp) (dividend : Int32)
  /-- The body of a guarded block threw. -/
  | exceptionThrown (error : ArithError)
  /-- The block has a clause for the error: its position among all clauses. -/
  | handlerFound (clause : Nat)
  /-- The block has no clause for the error. -/
  | noHandler
  /-- The demonstration reached its end. -/
  | finished (value : Int32)
  deriving DecidableEq, Repr, Inhabited

/-- The record that an event leaves in the log. Only `finished` is of level `info`; the others are
    `debug`. -/
def Event.record : Event → LogRecord
  | .zeroDivisor op dividend =>
    { level := .debug
      target := "zerodiv_core::arith"
      message := match op with
        | .div => "division by zero"
        | .rem => "modulo by zero"
      fields := [("dividend", .int dividend.toInt)] }
  | .exceptionThrown error =>
    { level := .debug
      target := "zerodiv_core::guard"
      message := "exception thrown: " ++ error.message
      fields := [("kind", .text error.kind.name)] }
  | .handlerFound clause =>
    { level := .debug
      target := "zerodiv_core::guard"
      message := "found a suitable handler"
      fields := [("clause", .int clause)] }
  | .noHandler =>
    { level := .debug
      target := "zerodiv_core::guard"
      message := "no handler, propagating"
      fields := [] }
  | .finished value =>
    { level := .info
      target := "zerodiv::program"
      message := "program finished"
      fields := [("final_value", .int value.toInt)] }

end Guarded
