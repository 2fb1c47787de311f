import Guarded.Action

set_option autoImplicit false

/-! # Guarded blocks

A guarded block is a body with catch clauses. When the body throws, the first clause that accepts
the kind of the error, `Clause.first?`, handles it, and the block ends as `Ending.caught`. An error
that no clause accepts, a fault of the handler and every `Fault.io` leave the block; a handler's
fault is not offered to the other clauses of its block. -/

namespace Guarded

/-- A catch clause: the `kind` that it asks for, and what it does with the error that it caught. -/
structure Clause (N C : Type) where
  kind : Kind
  handler : ArithError → Action N C Unit

/-- A `body` with its catch clauses, tried from the first to the last. -/
structure Block (N C α : Type) where
  body : Action N C α
  clauses : List (Clause N C)

/-- How a block ended that did not fail: its body `completed` with a value, or a clause `caught`
    what the body threw. -/
inductive Ending (α : Type) where
  | completed (value : α)
  | caught
  deriving DecidableEq, Repr, Inhabited

/-- The first clause with `clause.kind.accepts kind`, and its position among all clauses. -/
def Clause.first? {N C : Type} (kind : Kind) : List (Clause N C) → Option (Nat × Clause N C)
  | [] => none
  | clause :: rest =>
    if clause.kind.accepts kind then some (0, clause)
    else (first? kind rest).map fun (position, found) => (position + 1, found)

theorem Clause.first?_mem {N C : Type} {kind : Kind} {clauses : List (Clause N C)}
    {position : Nat} {clause : Clause N C} (h : first? kind clauses = some (position, clause)) :
    clause ∈ clauses := by
  induction clauses generalizing position with
  | nil => simp [first?] at h
  | cons head rest ih =>
    rw [first?] at h
    split at h
    · simp only [Option.some.injEq, Prod.mk.injEq] at h
      rw [h.2]
      exact List.mem_cons_self
    · obtain ⟨⟨_, _⟩, found, same⟩ := Option.map_eq_some_iff.mp h
      simp only [Prod.mk.injEq] at same
      rw [same.2] at found
      exact List.mem_cons_of_mem _ (ih found)

/-- The search `first?` finds nothing exactly when no clause accepts `kind`. -/
theorem Clause.first?_eq_none_iff {N C : Type} {kind : Kind} {clauses : List (Clause N C)} :
    first? kind clauses = none ↔ ∀ clause ∈ clauses, clause.kind.accepts kind = false := by
  induction clauses with
  | nil => simp [first?]
  | cons head rest ih =>
    rw [first?]
    split
    · rename_i accepted
      simp [accepted]
    · rename_i accepted
      simp [ih, accepted]

namespace Block

variable {N C α : Type}

/-- Offer `error` to the clauses. `exceptionThrown` and the decision, `handlerFound` or `noHandler`,
    are reported before the handler starts. -/
def dispatch (clauses : List (Clause N C)) (error : ArithError) : Action N C (Ending α) := do
  Action.report (.exceptionThrown error)
  match Clause.first? error.kind clauses with
  | some (position, clause) =>
    Action.report (.handlerFound position)
    clause.handler error
    pure .caught
  | none =>
    Action.report .noHandler
    Action.fail (.thrown error)

/-- The body, with its value `v` as the ending `completed v`. -/
def completion (block : Block N C α) : Action N C (Ending α) := do
  return .completed (← block.body)

/-- Run the body and, if it throws, the clause that `first?` finds. A fault of the handler leaves
    the block, since `recover` does not run `dispatch` again. -/
def run (block : Block N C α) : Action N C (Ending α) :=
  block.completion.recover (dispatch block.clauses)

/-! ## What each case leaves -/

theorem dispatch_of_found {clauses : List (Clause N C)} {error : ArithError} {position : Nat}
    {clause : Clause N C} (h : Clause.first? error.kind clauses = some (position, clause))
    (context : C) :
    (dispatch clauses error : Action N C (Ending α)) context =
      ⟨.event (.exceptionThrown error) :: .event (.handlerFound position) ::
          (clause.handler error context).log,
        (clause.handler error context).context,
        (clause.handler error context).result.map fun _ => .caught⟩ := by
  simp only [dispatch, Action.bind_run, Action.report_run, h]
  cases (clause.handler error context).result <;> simp [Except.map]

theorem dispatch_of_none {clauses : List (Clause N C)} {error : ArithError}
    (h : Clause.first? error.kind clauses = none) (context : C) :
    (dispatch clauses error : Action N C (Ending α)) context =
      ⟨[.event (.exceptionThrown error), .event .noHandler], context, .error (.thrown error)⟩ := by
  simp only [dispatch, Action.bind_run, Action.report_run, h, Action.fail_run]
  rfl

theorem completion_run (block : Block N C α) (context : C) :
    block.completion context =
      ⟨(block.body context).log, (block.body context).context,
        (block.body context).result.map .completed⟩ := by
  simp only [completion, Action.bind_run, Action.pure_run]
  cases (block.body context).result <;> simp [Except.map]

theorem run_of_ok {block : Block N C α} {context : C} {value : α}
    (h : (block.body context).result = .ok value) :
    block.run context =
      ⟨(block.body context).log, (block.body context).context, .ok (.completed value)⟩ := by
  have completed : (block.completion context).result = .ok (.completed value) := by
    rw [completion_run, h]
    rfl
  rw [run, Action.recover_of_ok completed, completion_run, h]
  rfl

theorem run_of_io {block : Block N C α} {context : C} {error : IoError}
    (h : (block.body context).result = .error (.io error)) :
    block.run context =
      ⟨(block.body context).log, (block.body context).context, .error (.io error)⟩ := by
  have failed : (block.completion context).result = .error (.io error) := by
    rw [completion_run, h]
    rfl
  rw [run, Action.recover_of_io failed, completion_run, h]
  rfl

theorem run_of_thrown {block : Block N C α} {context : C} {error : ArithError}
    (h : (block.body context).result = .error (.thrown error)) :
    block.run context =
      let dispatched := dispatch block.clauses error (block.body context).context
      ⟨(block.body context).log ++ dispatched.log, dispatched.context, dispatched.result⟩ := by
  have thrown : (block.completion context).result = .error (.thrown error) := by
    rw [completion_run, h]
    rfl
  rw [run, Action.recover_of_thrown thrown, completion_run]

theorem run_of_caught {block : Block N C α} {context : C} {error : ArithError} {position : Nat}
    {clause : Clause N C} (h : (block.body context).result = .error (.thrown error))
    (found : Clause.first? error.kind block.clauses = some (position, clause)) :
    block.run context =
      let handled := clause.handler error (block.body context).context
      ⟨(block.body context).log ++
          .event (.exceptionThrown error) :: .event (.handlerFound position) :: handled.log,
        handled.context, handled.result.map fun _ => .caught⟩ := by
  rw [run_of_thrown h, dispatch_of_found found]

theorem run_of_uncaught {block : Block N C α} {context : C} {error : ArithError}
    (h : (block.body context).result = .error (.thrown error))
    (missing : Clause.first? error.kind block.clauses = none) :
    block.run context =
      ⟨(block.body context).log ++ [.event (.exceptionThrown error), .event .noHandler],
        (block.body context).context, .error (.thrown error)⟩ := by
  rw [run_of_thrown h, dispatch_of_none missing]

/-- All that a block can do: complete, fail with a `Fault.io`, catch what its body threw, or let it
    pass. Proofs about blocks split on this instead of opening `run`. -/
theorem run_cases (block : Block N C α) (context : C) :
    (∃ value, (block.body context).result = .ok value ∧ block.run context =
        ⟨(block.body context).log, (block.body context).context, .ok (.completed value)⟩) ∨
      (∃ error, (block.body context).result = .error (.io error) ∧ block.run context =
        ⟨(block.body context).log, (block.body context).context, .error (.io error)⟩) ∨
      (∃ error position clause, (block.body context).result = .error (.thrown error) ∧
        Clause.first? error.kind block.clauses = some (position, clause) ∧ block.run context =
          let handled := clause.handler error (block.body context).context
          ⟨(block.body context).log ++
              .event (.exceptionThrown error) :: .event (.handlerFound position) :: handled.log,
            handled.context, handled.result.map fun _ => .caught⟩) ∨
      (∃ error, (block.body context).result = .error (.thrown error) ∧
        Clause.first? error.kind block.clauses = none ∧ block.run context =
          ⟨(block.body context).log ++ [.event (.exceptionThrown error), .event .noHandler],
            (block.body context).context, .error (.thrown error)⟩) := by
  cases h : (block.body context).result with
  | ok value => exact .inl ⟨value, rfl, run_of_ok h⟩
  | error fault =>
    cases fault with
    | io error => exact .inr (.inl ⟨error, rfl, run_of_io h⟩)
    | thrown error =>
      cases found : Clause.first? error.kind block.clauses with
      | none => exact .inr (.inr (.inr ⟨error, rfl, found, run_of_uncaught h found⟩))
      | some pair =>
        obtain ⟨position, clause⟩ := pair
        exact .inr (.inr (.inl ⟨error, position, clause, rfl, found, run_of_caught h found⟩))

end Block

end Guarded
