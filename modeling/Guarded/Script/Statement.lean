import Guarded.Fault
import Guarded.Script.Expr

set_option autoImplicit false

/-! # Statements

Scripts are lists of statements in guarded blocks. Blocks and loops nest to any depth, in bodies
and in handlers. Two statements speak of the error that was caught; they have a meaning inside
handlers only, which `Statement.inScope` checks. -/

namespace Guarded.Script

/-- A statement of a script. -/
inductive Statement where
  /-- Assign `value` to a variable. -/
  | set (name : String) (value : Expr)
  /-- Divide a variable in place, or take its remainder: `name /= divisor`, `name %= divisor`. -/
  | assign (op : ArithOp) (name : String) (divisor : Expr)
  /-- Print a number. -/
  | print (value : Expr)
  /-- Print a text. -/
  | text (line : String)
  /-- Print the message of the error that was caught. -/
  | printCaught
  /-- Throw the error that was caught. -/
  | rethrow
  | throwError (error : ArithError)
  | failIo (error : IoError)
  /-- End the innermost body or handler, with `value` or without one. -/
  | giveBack (value : Option Expr)
  /-- Run a list of statements `rounds` times. -/
  | loop (rounds : Nat) (body : List Statement)
  /-- Run a guarded block and, if its body completes with a value, set the variable `into` to it. -/
  | guarded (body : List Statement) (clauses : List (Kind × List Statement)) (into : Option String)

/-! ## Induction -/

/-- Whether a statement holds no statements: it is neither a `loop` nor `guarded`. -/
def Statement.isLeaf : Statement → Bool
  | .loop _ _ => false
  | .guarded _ _ _ => false
  | _ => true

/-- Induction over lists of statements: what holds of a list holds of it behind a `leaf`, behind a
    `loop` over a list of which it holds, and behind a `guarded` block of such lists. -/
@[elab_as_elim]
theorem Statement.induction {Q : List Statement → Prop} (nil : Q [])
    (leaf : ∀ statement rest, statement.isLeaf = true → Q rest → Q (statement :: rest))
    (loop : ∀ count body rest, Q body → Q rest → Q (.loop count body :: rest))
    (guarded : ∀ body clauses into rest, Q body → (∀ clause ∈ clauses, Q clause.2) → Q rest →
      Q (.guarded body clauses into :: rest)) (statements : List Statement) : Q statements := by
  refine @Statement.rec_1 (fun statement => ∀ rest, Q rest → Q (statement :: rest)) Q
    (fun clauses => ∀ clause ∈ clauses, Q clause.2) (fun clause => Q clause.2)
    ?_ ?_ ?_ ?_ ?_ ?_ ?_ ?_ ?_ ?loop ?guarded ?nil ?cons ?noClause ?clauses ?clause statements
  case loop => exact fun count body hb rest hr => loop count body rest hb hr
  case guarded =>
    exact fun body clauses into hb hc rest hr => guarded body clauses into rest hb hc hr
  case nil => exact nil
  case cons => exact fun statement rest hs hr => hs rest hr
  case noClause => exact fun clause hc => absurd hc List.not_mem_nil
  case clauses =>
    intro head rest hh hr clause hc
    rcases List.mem_cons.mp hc with rfl | hc
    · exact hh
    · exact hr clause hc
  case clause => exact fun kind handler hh => hh
  all_goals
    intros
    exact leaf _ _ rfl (by assumption)

/-! ## Scope of the caught error -/

mutual

/-- Whether the statement speaks of a caught error in handlers only; `handling` says whether the
    statement itself stands in a handler. -/
def Statement.inScope (handling : Bool) : Statement → Bool
  | .printCaught => handling
  | .rethrow => handling
  | .loop _ body => allInScope handling body
  | .guarded body clauses _ => allInScope handling body && clausesInScope clauses
  | _ => true

def allInScope (handling : Bool) : List Statement → Bool
  | [] => true
  | statement :: rest => statement.inScope handling && allInScope handling rest

/-- Whether every handler is in scope. A handler is, whatever stands around it, so no `handling` is
    asked for. -/
def clausesInScope : List (Kind × List Statement) → Bool
  | [] => true
  | (_, handler) :: rest => allInScope true handler && clausesInScope rest

end

end Guarded.Script

namespace Guarded

/-! ## Scripts -/

/-- A script: the guarded block at the top. -/
structure Script where
  body : List Script.Statement
  clauses : List (Kind × List Script.Statement)

/-- Whether a script speaks of a caught error in handlers only. What `Statement.step` does with
    `printCaught` and `rethrow` matters in such scripts only. -/
def Script.inScope (script : Script) : Bool :=
  Script.allInScope false script.body && Script.clausesInScope script.clauses

end Guarded
