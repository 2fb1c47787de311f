import Guarded.Script.Run
import Guarded.Sink.Room

set_option autoImplicit false

/-! # What statements can do

The runs of expressions and of single statements, and the runs of lists, loops and blocks, told
apart by how the part that runs first ended: `ExprCases`, `LeafRun`, `FlowCases` and `BlockCases`.
Each theorem here is about one construct and speaks of the runs of its parts, so that an argument
about scripts follows the syntax and opens no action. -/

namespace Guarded.Script

/-! ## Expressions -/

/-- What an expression reports and how it ends: a `zeroDivisor` is reported and raised, and nothing
    else is reported. -/
inductive ExprCases (outcome : Checked Int32) : Prop where
  | value (value : Int32) (same : outcome = ⟨[], .ok value⟩)
  | zeroDivisor (op : ArithOp) (dividend : Int32)
      (same : outcome = ⟨[.zeroDivisor op dividend], .error (.divisionByZero op)⟩)
  | outside (index length : Nat)
      (same : outcome = ⟨[], .error (.indexOutOfBounds index length)⟩)

theorem ExprCases.bind {first : Checked Int32} {next : Int32 → Checked Int32}
    (h : ExprCases first) (hn : ∀ value, ExprCases (next value)) : ExprCases (first >>= next) := by
  rcases h with ⟨value, rfl⟩ | ⟨op, dividend, rfl⟩ | ⟨index, length, rfl⟩
  · rw [Checked.bind_of_ok rfl]
    exact hn value
  · rw [Checked.bind_of_error rfl]
    exact .zeroDivisor op dividend rfl
  · rw [Checked.bind_of_error rfl]
    exact .outside index length rfl

theorem readItem_cases (memory : Memory) (array : String) (index : Nat) :
    ExprCases (readItem memory array index) := by
  by_cases h : index < (memory.array array).size
  · exact .value _ (readItem_of_lt h)
  · exact .outside _ _ (readItem_of_ge (Nat.not_lt.mp h))

theorem expr_cases (memory : Memory) (expr : Expr) : ExprCases (expr.eval memory) := by
  induction expr with
  | literal value => exact .value value rfl
  | var name => exact .value _ rfl
  | arith op left right hl hr =>
    refine hl.bind fun dividend => hr.bind fun divisor => ?_
    by_cases zero : divisor = 0
    · subst zero
      exact .zeroDivisor op dividend (ArithOp.checked_zero op dividend)
    · exact .value _ (ArithOp.checked_of_ne_zero op dividend zero)
  | sub left right hl hr =>
    exact hl.bind fun minuend => hr.bind fun subtrahend => .value _ rfl
  | item array index => exact readItem_cases memory array index
  | itemAt array index ih => exact ih.bind fun word => readItem_cases memory array _

/-! ## Statements without statements of their own -/

/-- Whether a statement prints: `print`, `text` or `printCaught`. -/
def Statement.prints : Statement → Bool
  | .print _ => true
  | .text _ => true
  | .printCaught => true
  | _ => false

/-- What a statement with `isLeaf` reports, and with what I/O fault it may end. -/
structure LeafRun (statement : Statement) (machine : Machine Memory)
    (run : Run Note (Machine Memory) Flow) : Prop where
  log : run.log = [] ∨ ∃ op dividend, run.log = [.event (.zeroDivisor op dividend)] ∧
    run.result = .error (.thrown (.divisionByZero op))
  io : ∀ error, run.result = .error (.io error) →
    statement = .failIo error ∨ statement.prints = true ∧ error = machine.sink.refusal

/-- Computing a value first adds what `ExprCases` allows. -/
theorem LeafRun.eval_bind {statement : Statement} {machine : Machine Memory} (expr : Expr)
    {next : Int32 → Step Flow} (h : ∀ value, LeafRun statement machine (next value machine)) :
    LeafRun statement machine ((Step.eval expr >>= next) machine) := by
  have hrun := Step.eval_run expr machine
  rcases expr_cases machine.memory expr with ⟨value, same⟩ | ⟨op, dividend, same⟩ |
    ⟨index, length, same⟩
  · rw [same] at hrun
    have hok : (Step.eval expr machine).result = .ok value := by
      rw [hrun]
      rfl
    rw [Action.bind_of_ok hok, hrun]
    exact h value
  · rw [same] at hrun
    have herr : (Step.eval expr machine).result = .error (.thrown (.divisionByZero op)) := by
      rw [hrun]
      rfl
    rw [Action.bind_of_error herr, hrun]
    exact ⟨.inr ⟨op, dividend, rfl, rfl⟩, by simp⟩
  · rw [same] at hrun
    have herr : (Step.eval expr machine).result =
        .error (.thrown (.indexOutOfBounds index length)) := by
      rw [hrun]
      rfl
    rw [Action.bind_of_error herr, hrun]
    exact ⟨.inl rfl, by simp⟩

theorem LeafRun.of_silent {statement : Statement} {machine : Machine Memory}
    {run : Run Note (Machine Memory) Flow} (h : run.log = [])
    (hr : ∀ error, run.result ≠ .error (.io error)) : LeafRun statement machine run :=
  ⟨.inl h, fun error hio => absurd hio (hr error)⟩

/-- Printing a line. A sink that is full refuses it, by `Fault.io`. -/
theorem LeafRun.printLine {statement : Statement} (h : statement.prints = true) (line : String)
    (machine : Machine Memory) :
    LeafRun statement machine ((do Machine.printLine line; return .next : Step Flow) machine) := by
  have hwrote := (Sink.wrote_writeAll machine.sink (Sink.bytesOf (line ++ "\n"))).result
  cases hr : (machine.sink.writeAll (Sink.bytesOf (line ++ "\n"))).2 with
  | ok value =>
    have hok : ((Machine.printLine line : Step Unit) machine).result = .ok value := by
      rw [Machine.printLine_run, hr]
      rfl
    rw [Action.bind_of_ok hok]
    exact .of_silent rfl (by simp)
  | error refused =>
    have herr : ((Machine.printLine line : Step Unit) machine).result =
        .error (.io refused) := by
      rw [Machine.printLine_run, hr]
      rfl
    rw [hr] at hwrote
    rw [Action.bind_of_error herr]
    refine ⟨.inl rfl, fun error hio => .inr ⟨h, ?_⟩⟩
    obtain rfl : refused = error := by simpa using hio
    -- a text for which there is room is not refused
    split at hwrote
    · simp at hwrote
    · simpa using hwrote

theorem leaf_run (caught : Option ArithError) (path : Path) {statement : Statement}
    (h : statement.isLeaf = true) (machine : Machine Memory) :
    LeafRun statement machine (statement.step caught path machine) := by
  cases statement with
  | set name value =>
    rw [Statement.step]
    exact LeafRun.eval_bind value fun number => .of_silent rfl (by simp [Action.bind_run])
  | assign op name divisor =>
    rw [Statement.step, Step.assign_eq, bind_assoc]
    exact LeafRun.eval_bind _ fun number => .of_silent rfl (by simp [Action.bind_run])
  | print value =>
    rw [Statement.step]
    exact LeafRun.eval_bind value fun number => .printLine rfl _ machine
  | text line =>
    rw [Statement.step]
    exact .printLine rfl line machine
  | printCaught =>
    rw [Statement.step.eq_def]
    cases caught with
    | none => exact .of_silent rfl (by simp)
    | some error => exact .printLine rfl _ machine
  | rethrow =>
    rw [Statement.step.eq_def]
    cases caught with
    | none => exact .of_silent rfl (by simp)
    | some error => exact .of_silent rfl (by simp)
  | «throwError» error =>
    rw [Statement.step]
    exact .of_silent rfl (by simp)
  | failIo failure =>
    rw [Statement.step]
    refine ⟨.inl rfl, fun error hio => .inl ?_⟩
    obtain rfl : failure = error := by simpa using hio
    rfl
  | giveBack value =>
    cases value with
    | none =>
      rw [Statement.step]
      exact .of_silent rfl (by simp)
    | some value =>
      rw [Statement.step]
      exact LeafRun.eval_bind value fun number => .of_silent rfl (by simp)
  | loop count body => exact absurd h Bool.false_ne_true
  | guarded body clauses into => exact absurd h Bool.false_ne_true

/-! ## Clauses -/

/-- The position of the first clause that accepts `kind`. -/
def firstClause? (kind : Kind) (clauses : List (Kind × List Statement)) : Option Nat :=
  clauses.findIdx? fun clause => clause.1.accepts kind

theorem firstClause?_lt {kind : Kind} {clauses : List (Kind × List Statement)} {position : Nat}
    (h : firstClause? kind clauses = some position) : position < clauses.length :=
  (List.findIdx?_eq_some_iff_getElem.mp h).1

/-- The clauses of a block are searched as they are written: `Clause.first?` on `handlers` is
    `firstClause?`. -/
theorem first?_handlers (kind : Kind) (path : Path) (start : Nat)
    (clauses : List (Kind × List Statement)) :
    Clause.first? kind (handlers path start clauses) =
      (firstClause? kind clauses).bind fun position =>
        clauses[position]?.map fun clause => (position,
          { kind := clause.1
            handler := fun error => do
              let _ ← steps (some error) path (.handler (start + position)) 0 clause.2 }) := by
  induction clauses generalizing start with
  | nil => rw [handlers, Clause.first?, firstClause?, List.findIdx?_nil, Option.bind_none]
  | cons head rest ih =>
    rw [handlers, Clause.first?, firstClause?, List.findIdx?_cons]
    cases ha : head.1.accepts kind with
    | true => simp
    | false =>
      rw [ih]
      simp only [firstClause?]
      cases List.findIdx? (fun clause => clause.1.accepts kind) rest with
      | none => rfl
      | some position =>
        cases hp : rest[position]? with
        | none => simp [hp]
        | some clause => simp [hp, Nat.add_assoc, Nat.add_comm 1]

/-! ## Blocks -/

/-- How the run of a block comes out: by the end of its body, which is `before`, and by the clause
    that takes what the body threw. -/
inductive BlockCases (path : Path) (clauses : List (Kind × List Statement))
    (before : Run Note (Machine Memory) Flow)
    (run : Run Note (Machine Memory) (Ending (Option Int32))) : Prop where
  | completed (flow : Flow) (ended : before.result = .ok flow)
      (same : run = ⟨before.log, before.context, .ok (.completed flow.value)⟩)
  | failed (error : IoError) (ended : before.result = .error (.io error))
      (same : run = ⟨before.log, before.context, .error (.io error)⟩)
  | caught (error : ArithError) (position : Nat) (clause : Kind × List Statement)
      (after : Run Note (Machine Memory) Flow) (ended : before.result = .error (.thrown error))
      (first : firstClause? error.kind clauses = some position)
      (found : clauses[position]? = some clause)
      (handled : steps (some error) path (.handler position) 0 clause.2 before.context = after)
      (same : run = ⟨before.log ++
          .event (.exceptionThrown error) :: .event (.handlerFound position) :: after.log,
        after.context, after.result.map fun _ => .caught⟩)
  | uncaught (error : ArithError) (ended : before.result = .error (.thrown error))
      (missing : firstClause? error.kind clauses = none)
      (same : run = ⟨before.log ++ [.event (.exceptionThrown error), .event .noHandler],
        before.context, .error (.thrown error)⟩)

theorem bind_pure_run {α β : Type} (step : Step α) (f : α → β) (machine : Machine Memory) :
    (do return f (← step) : Step β) machine =
      ⟨(step machine).log, (step machine).context, (step machine).result.map f⟩ := by
  simp only [Action.bind_run, Action.pure_run, List.append_nil]
  cases (step machine).result <;> rfl

theorem blockAt_cases (caught : Option ArithError) (path : Path) (body : List Statement)
    (clauses : List (Kind × List Statement)) (machine : Machine Memory) :
    BlockCases path clauses (steps caught path .body 0 body machine)
      ((blockAt caught path body clauses).run machine) := by
  have hbody : (blockAt caught path body clauses).body machine = _ := bind_pure_run _ _ _
  generalize steps caught path .body 0 body machine = before at hbody ⊢
  cases h : before.result with
  | ok flow =>
    rw [h] at hbody
    have hok : ((blockAt caught path body clauses).body machine).result = .ok flow.value := by
      rw [hbody]
      rfl
    exact .completed flow h (by rw [Block.run_of_ok hok, hbody])
  | error fault =>
    rw [h] at hbody
    have hfault : ((blockAt caught path body clauses).body machine).result = .error fault := by
      rw [hbody]
      rfl
    cases fault with
    | io error => exact .failed error h (by rw [Block.run_of_io hfault, hbody])
    | thrown error =>
      -- the block searches its clauses as actions, the cases speak of them as they are written
      have hfirst := first?_handlers error.kind path 0 clauses
      cases hsel : firstClause? error.kind clauses with
      | none =>
        rw [hsel, Option.bind_none] at hfirst
        exact .uncaught error h hsel (by rw [Block.run_of_uncaught hfault hfirst, hbody])
      | some position =>
        have hlt := firstClause?_lt hsel
        rw [hsel, Option.bind_some, List.getElem?_eq_getElem hlt, Option.map_some,
          Nat.zero_add] at hfirst
        refine .caught error position clauses[position] _ h hsel (List.getElem?_eq_getElem hlt)
          rfl ?_
        rw [Block.run_of_caught hfault hfirst, hbody]
        simp only [bind_pure_run]
        cases (steps (some error) path (.handler position) 0 clauses[position].2
          before.context).result <;> rfl

theorem blockAt_of_caught {caught : Option ArithError} {path : Path} {body : List Statement}
    {clauses : List (Kind × List Statement)} {machine : Machine Memory} {error : ArithError}
    {position : Nat} {clause : Kind × List Statement} {after : Run Note (Machine Memory) Flow}
    (threw : (steps caught path .body 0 body machine).result = .error (.thrown error))
    (first : firstClause? error.kind clauses = some position)
    (found : clauses[position]? = some clause)
    (handled : steps (some error) path (.handler position) 0 clause.2
      (steps caught path .body 0 body machine).context = after) :
    (blockAt caught path body clauses).run machine =
      ⟨(steps caught path .body 0 body machine).log ++
          .event (.exceptionThrown error) :: .event (.handlerFound position) :: after.log,
        after.context, after.result.map fun _ => .caught⟩ := by
  rcases blockAt_cases caught path body clauses machine with
    ⟨_, ended, _⟩ | ⟨_, ended, _⟩ | ⟨other, place, taken, _, ended, first', found', handled', hr⟩ |
    ⟨other, ended, missing, _⟩
  · simp [threw] at ended
  · simp [threw] at ended
  · obtain rfl : error = other := by simpa [threw] using ended
    obtain rfl : position = place := by simpa [first] using first'
    obtain rfl : clause = taken := by simpa [found] using found'
    rw [hr, ← handled', handled]
  · obtain rfl : error = other := by simpa [threw] using ended
    simp [first] at missing

/-- A `guarded` statement ends as its block does. Its variable is all that it may set besides. -/
theorem step_guarded_run (caught : Option ArithError) (path : Path) (body : List Statement)
    (clauses : List (Kind × List Statement)) (into : Option String) (machine : Machine Memory) :
    ((Statement.guarded body clauses into).step caught path machine).log =
        ((blockAt caught path body clauses).run machine).log ∧
      ((Statement.guarded body clauses into).step caught path machine).result =
        ((blockAt caught path body clauses).run machine).result.map fun _ => .next := by
  rw [Statement.step, ← blockAt]
  cases h : ((blockAt caught path body clauses).run machine).result with
  | ok ending =>
    rw [Action.bind_of_ok h]
    split
    · simp [Action.bind_run, Except.map]
    · simp [Except.map]
  | error fault =>
    rw [Action.bind_of_error h]
    exact ⟨rfl, rfl⟩

/-- What a `guarded` statement leaves: where its body completed with a value, the variable `into` is
    set. -/
theorem step_guarded_context (caught : Option ArithError) (path : Path) (body : List Statement)
    (clauses : List (Kind × List Statement)) (into : Option String) (machine : Machine Memory) :
    ((Statement.guarded body clauses into).step caught path machine).context =
      let run := (blockAt caught path body clauses).run machine
      match into, run.result with
      | some name, .ok (.completed (some value)) =>
        { run.context with memory := run.context.memory.setVar name value }
      | _, _ => run.context := by
  rw [Statement.step, ← blockAt]
  cases h : ((blockAt caught path body clauses).run machine).result with
  | ok ending =>
    rw [Action.bind_of_ok h]
    cases into with
    | none => rfl
    | some name =>
      simp only [h]
      cases ending with
      | caught => rfl
      | completed value => cases value <;> rfl
  | error fault =>
    rw [Action.bind_of_error h]
    simp only [h]

/-! ## Lists and loops -/

/-- How a run comes out of which the part `first` may be the last: by the way in which that part
    ended. Lists and loops are such runs. -/
inductive FlowCases (first : Run Note (Machine Memory) Flow) (rest : Step Flow)
    (run : Run Note (Machine Memory) Flow) : Prop where
  | next (ended : first.result = .ok .next)
      (same : run = ⟨first.log ++ (rest first.context).log, (rest first.context).context,
        (rest first.context).result⟩)
  | stopped (ended : first.result ≠ .ok .next) (same : run = first)

theorem flow_cases (first rest : Step Flow) (machine : Machine Memory) :
    FlowCases (first machine) rest ((do
      match ← first with
      | .next => rest
      | .gaveBack value => return .gaveBack value : Step Flow) machine) := by
  cases h : (first machine).result with
  | ok flow =>
    rw [Action.bind_of_ok h]
    cases flow with
    | next => exact .next h rfl
    | gaveBack value =>
      refine .stopped (by simp [h]) ?_
      simp only [Action.pure_run, List.append_nil, ← h]
  | error fault =>
    rw [Action.bind_of_error h]
    exact .stopped (by simp [h]) (by rw [← h])

theorem steps_cons_cases (caught : Option ArithError) (path : Path) (site : Site) (index : Nat)
    (statement : Statement) (rest : List Statement) (machine : Machine Memory) :
    FlowCases (Step.noting (path ++ [⟨site, index⟩])
        (statement.step caught (path ++ [⟨site, index⟩])) machine)
      (steps caught path site (index + 1) rest)
      (steps caught path site index (statement :: rest) machine) := by
  rw [steps]
  exact flow_cases _ _ _

/-- The last entry that a list leaves is the note of the statement that ended it, which ended as the
    list does. -/
theorem log_of_steps (caught : Option ArithError) (path : Path) (site : Site) (index : Nat)
    {statements : List Statement} (h : statements ≠ []) (machine : Machine Memory) :
    ∃ log offset vars, offset < statements.length ∧
      (steps caught path site index statements machine).log = log ++ [.note
        ⟨path ++ [⟨site, index + offset⟩], (steps caught path site index statements machine).result,
          vars⟩] := by
  induction statements generalizing index machine with
  | nil => exact absurd rfl h
  | cons statement rest ih =>
    rcases steps_cons_cases caught path site index statement rest machine with
      ⟨ended, hr⟩ | ⟨_, hr⟩
    · cases rest with
      | nil =>
        have ended : (statement.step caught (path ++ [⟨site, index⟩]) machine).result = .ok .next :=
          ended
        have hnil : steps caught path site (index + 1) [] = pure .next := by
          rw [steps]
        refine ⟨(statement.step caught (path ++ [⟨site, index⟩]) machine).log, 0,
          (statement.step caught (path ++ [⟨site, index⟩]) machine).context.memory.vars,
          Nat.zero_lt_one, ?_⟩
        rw [hr, hnil]
        simp only [Step.noting_run, Action.pure_run, List.append_nil, Nat.add_zero, ended]
      | cons second rest =>
        generalize Step.noting (path ++ [⟨site, index⟩])
          (statement.step caught (path ++ [⟨site, index⟩])) machine = first at hr
        obtain ⟨log, offset, vars, hlt, hlog⟩ := ih (index + 1) (by simp) first.context
        have hindex : index + 1 + offset = index + (offset + 1) := by omega
        rw [hindex] at hlog
        refine ⟨first.log ++ log, offset + 1, vars, Nat.succ_lt_succ hlt, ?_⟩
        rw [hr, List.append_assoc, ← hlog]
    · rw [hr, Step.noting_run]
      exact ⟨_, 0, _, Nat.succ_pos _, rfl⟩

theorem rounds_succ_cases (round : Nat → Step Flow) (number count : Nat)
    (machine : Machine Memory) :
    FlowCases (round number machine) (Step.rounds round (number + 1) count)
      (Step.rounds round number (count + 1) machine) := by
  rw [Step.rounds]
  exact flow_cases _ _ _

end Guarded.Script
