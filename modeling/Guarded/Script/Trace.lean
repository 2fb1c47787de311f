import Guarded.Action
import Guarded.Script.Memory

set_option autoImplicit false

/-! # The trace of a script

When a statement ends, the trace has a `Note` of where it stands, how it ended and what the
variables are. A statement is found by its `Path`: for each list of statements on the way from the
top, which list it is and the position in it. -/

namespace Guarded.Script

/-! ## Paths -/

/-- A list of statements within the block or loop that holds it: its body, the handler of a
    `clause`, or its body in a round. -/
inductive Site where
  | body
  | handler (clause : Nat)
  | round (number : Nat)
  deriving DecidableEq, Repr, Inhabited

/-- A place in a list of statements, `index` counted from zero. -/
structure Position where
  site : Site
  index : Nat
  deriving DecidableEq, Repr, Inhabited

/-- The positions from the top block to a statement. -/
abbrev Path : Type := List Position

/-- The text of a position as it stands at the start of a path: `b0`, `c1.0`, `r2.0`. -/
def Position.text (position : Position) : String :=
  match position.site with
  | .body => "b" ++ toString position.index
  | .handler clause => "c" ++ toString clause ++ "." ++ toString position.index
  | .round number => "r" ++ toString number ++ "." ++ toString position.index

/-- What separates a position from the one before it: `/`, or nothing before a round. -/
def Position.joint (position : Position) : String :=
  match position.site with
  | .round _ => ""
  | _ => "/"

/-- The text of a path, such as `b0/c1.0r2.0`. -/
def Path.text : Path → String
  | [] => ""
  | first :: rest =>
    rest.foldl (fun text position => text ++ position.joint ++ position.text) first.text

/-! ## Notes -/

/-- How a statement ended that did not fail: the `next` one follows, or the body or handler that it
    stands in ends with a value. -/
inductive Flow where
  | next
  | gaveBack (value : Option Int32)
  deriving DecidableEq, Repr, Inhabited

/-- The value of a list of statements that ended in this way; `next` has none. -/
def Flow.value : Flow → Option Int32
  | .next => none
  | .gaveBack given => given

/-- What the trace says of a statement that has ended: where it stands, how it ended, and the
    variables as they were then. -/
structure Note where
  path : Path
  outcome : Except Fault Flow
  vars : Table Int32

end Guarded.Script
