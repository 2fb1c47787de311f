import Guarded.Proofs.Script.CaughtError
import Guarded.Proofs.Script.Order
import Guarded.Proofs.Script.Silent

set_option autoImplicit false

/-! # Errors that are thrown again

A handler may end by throwing again what it caught. Then the block ends as if it had caught nothing,
and the block around it has the same error to deal with. In a nest of blocks, each of which has the
next one for its body, such an error passes through all of them as it is. And if the handlers do
nothing else, then all that shows of the nest is in the log: variables, output and fault are those
of the innermost body in a block without clauses.

Main statement: `caught_error_is_lexical`. -/

namespace Guarded.Script

/-! ## Nests of blocks -/

/-- A block of a nest, but for its body: its clauses, and the variable `into` for its value. -/
structure Layer where
  clauses : List (Kind × List Statement)
  into : Option String

/-- Blocks around `body`, from the outermost to the innermost. The body of each is the next one and
    nothing else. -/
def nested (body : List Statement) : List Layer → List Statement
  | [] => body
  | layer :: inner => [.guarded (nested body inner) layer.clauses layer.into]

/-! ## Handlers that end by throwing again -/

/-- Whether every handler that is chosen in a nest passes on the error that it caught: it is a list
    of statements that go on to the next one, up to a `rethrow`. The path is that of the outermost
    block, and all blocks start on `machine`. -/
def PassesOn (caught : Option ArithError) (body : List Statement) (machine : Machine Memory) :
    Path → List Layer → Prop
  | _, [] => True
  | path, layer :: inner =>
    (∀ error position handler,
      (steps caught path .body 0 (nested body inner) machine).result = .error (.thrown error) →
      responsible? error.kind layer.clauses = some (position, handler) →
      ∃ before rest, handler = before ++ .rethrow :: rest ∧
        (steps (some error) path (.handler position) 0 before
          (steps caught path .body 0 (nested body inner) machine).context).result = .ok .next) ∧
    PassesOn caught body machine (path ++ [⟨.body, 0⟩]) inner

theorem silent_rethrow (error : ArithError) (path : Path) (site : Site) (index : Nat)
    (rest : List Statement) :
    (steps (some error) path site index (.rethrow :: rest)).silent =
      Action.fail (.thrown error) := by
  rw [silent_steps_cons, Statement.step.eq_def]
  rfl

theorem steps_throws_again {error : ArithError} {path : Path} {site : Site} {index : Nat}
    {before : List Statement} {machine : Machine Memory}
    (h : (steps (some error) path site index before machine).result = .ok .next)
    (rest : List Statement) :
    (steps (some error) path site index (before ++ .rethrow :: rest) machine).result =
      .error (.thrown error) := by
  have hsilent := congrFun
    (silent_steps_append (some error) path site index before (.rethrow :: rest)) machine
  have hbefore :
      ((steps (some error) path site index before).silent machine).result = .ok .next := h
  rw [Action.bind_of_ok hbefore, silent_rethrow] at hsilent
  exact (Run.silent_inj.mp hsilent).2

/-- A block whose chosen handler passes its error on ends as its body does. -/
theorem blockAt_throws {caught : Option ArithError} {path : Path} {body : List Statement}
    {clauses : List (Kind × List Statement)} {machine : Machine Memory} {error : ArithError}
    (threw : (steps caught path .body 0 body machine).result = .error (.thrown error))
    (h : ∀ position handler, responsible? error.kind clauses = some (position, handler) →
      ∃ before rest, handler = before ++ .rethrow :: rest ∧
        (steps (some error) path (.handler position) 0 before
          (steps caught path .body 0 body machine).context).result = .ok .next) :
    ((blockAt caught path body clauses).run machine).result = .error (.thrown error) := by
  rcases blockAt_cases caught path body clauses machine with
    ⟨_, ended, _⟩ | ⟨_, ended, _⟩ |
    ⟨other, position, clause, after, ended, first, found, handled, hr⟩ | ⟨other, ended, _, hr⟩
  · simp [threw] at ended
  · simp [threw] at ended
  · obtain rfl : error = other := by simpa [threw] using ended
    obtain ⟨before, rest, hhandler, hnext⟩ :=
      h position clause.2 (by simp [responsible?, first, found])
    have hagain := steps_throws_again hnext rest
    rw [← hhandler, handled] at hagain
    rw [hr, hagain]
    rfl
  · obtain rfl : error = other := by simpa [threw] using ended
    rw [hr]

/-- An error that every chosen handler of a nest passes on is the error with which the nest ends. -/
theorem nest_throws {caught : Option ArithError} {body : List Statement} {machine : Machine Memory}
    {error : ArithError} (first : Layer) (inner : List Layer) (path : Path)
    (threw : (steps caught path .body 0 body machine).result = .error (.thrown error))
    (h : PassesOn caught body machine path (first :: inner)) :
    ((blockAt caught path (nested body inner) first.clauses).run machine).result =
      .error (.thrown error) := by
  induction inner generalizing first path with
  | nil => exact blockAt_throws threw fun position handler => h.1 error position handler threw
  | cons second rest ih =>
    have hinner : (steps caught path .body 0 (nested body (second :: rest)) machine).result =
        .error (.thrown error) := by
      have hplace := congrFun (silent_steps body caught (path ++ [⟨.body, 0⟩]) path .body .body 0 0)
        machine
      have hblock := ih second (path ++ [⟨.body, 0⟩]) ((Run.silent_inj.mp hplace).2.trans threw) h.2
      have hsingle := congrFun (silent_steps_single caught path .body 0
        (.guarded (nested body rest) second.clauses second.into)) machine
      rw [nested, (Run.silent_inj.mp hsingle).2, (step_guarded_run ..).2, hblock]
      rfl
    exact blockAt_throws hinner fun position handler => h.1 error position handler hinner

/-! ## Handlers that do nothing else -/

/-- Whether every handler of a block is `[.rethrow]`. -/
def OnlyRethrow (clauses : List (Kind × List Statement)) : Prop :=
  ∀ clause ∈ clauses, clause.2 = [.rethrow]

theorem onlyRethrow_nil : OnlyRethrow [] := fun _ hc => absurd hc List.not_mem_nil

theorem silent_blockAt_of_onlyRethrow {clauses : List (Kind × List Statement)}
    (h : OnlyRethrow clauses) (caught : Option ArithError) (path : Path) (body : List Statement) :
    (blockAt caught path body clauses).run.silent =
      (do return .completed (← (steps caught path .body 0 body).silent).value) := by
  have hagain : dispatched path clauses = fun error => Action.fail (.thrown error) := by
    funext error
    unfold dispatched
    cases found : responsible? error.kind clauses with
    | none => rfl
    | some pair =>
      obtain ⟨position, handler⟩ := pair
      obtain ⟨clause, hclause, rfl⟩ := mem_of_responsible? found
      simp only [h clause hclause, silent_rethrow]
      rfl
  rw [silent_blockAt, hagain, Action.recover_fail]

theorem result_of_noClauses (caught : Option ArithError) (path : Path) (body : List Statement)
    (machine : Machine Memory) :
    ((blockAt caught path body []).run machine).result =
      (steps caught path .body 0 body machine).result.map fun flow => .completed flow.value := by
  rcases blockAt_cases caught path body [] machine with
    ⟨_, ended, hr⟩ | ⟨_, ended, hr⟩ | ⟨_, _, _, _, _, first, _, _, _⟩ | ⟨_, ended, _, hr⟩
  · rw [hr, ended]
    rfl
  · rw [hr, ended]
    rfl
  · simp [firstClause?] at first
  · rw [hr, ended]
    rfl

theorem receive_nothing (into : Option String) : receive into (.completed none) = pure () := by
  cases into <;> rfl

/-- A statement whose handlers are `[.rethrow]` does what its body does, and then sets its variable
    by `receive`. -/
theorem silent_guarded_of_onlyRethrow {clauses : List (Kind × List Statement)}
    (h : OnlyRethrow clauses) (caught : Option ArithError) (path : Path) (body : List Statement)
    (into : Option String) :
    (steps caught path .body 0 [.guarded body clauses into]).silent = (do
      let flow ← (steps caught path .body 0 body).silent
      receive into (.completed flow.value)
      return .next) := by
  rw [silent_steps_single, silent_guarded, silent_blockAt_of_onlyRethrow h, bind_assoc,
    silent_steps body caught _ path .body .body 0 0]
  simp only [pure_bind]

/-- Of the variables of a nest with `OnlyRethrow`, only that of the innermost block is ever set: the
    bodies around it complete without a value. -/
theorem silent_nested (caught : Option ArithError) (path : Path) (body : List Statement)
    (first : Layer) (inner : List Layer) (h : ∀ layer ∈ first :: inner, OnlyRethrow layer.clauses) :
    (steps caught path .body 0 (nested body (first :: inner))).silent = (do
      let flow ← (steps caught path .body 0 body).silent
      receive (inner.getLastD first).into (.completed flow.value)
      return .next) := by
  induction inner generalizing first with
  | nil => exact silent_guarded_of_onlyRethrow (h first List.mem_cons_self) caught path body _
  | cons second rest ih =>
    rw [nested, silent_guarded_of_onlyRethrow (h first List.mem_cons_self),
      ih second fun layer hlayer => h layer (List.mem_cons_of_mem _ hlayer)]
    simp only [bind_assoc, pure_bind, Flow.value, receive_nothing, List.getLastD_cons]

/-- As a statement, such a nest does what its innermost block does without its clauses. -/
theorem silent_nested_single (caught : Option ArithError) (path : Path) (site : Site) (index : Nat)
    (body : List Statement) (first : Layer) (inner : List Layer)
    (h : ∀ layer ∈ first :: inner, OnlyRethrow layer.clauses) :
    (steps caught path site index (nested body (first :: inner))).silent =
      (steps caught path site index [.guarded body [] (inner.getLastD first).into]).silent := by
  rw [silent_steps _ caught path path site .body index 0,
    silent_nested caught path body first inner h,
    silent_steps [.guarded _ _ _] caught path path site .body index 0,
    silent_guarded_of_onlyRethrow onlyRethrow_nil]

/-- The machine that a block leaves when the variable `into` is set to the value with which its body
    completed, if there is a variable and a value. -/
def stored (into : Option String) (run : Run Note (Machine Memory) (Ending (Option Int32))) :
    Machine Memory :=
  match into, run.result with
  | some name, .ok (.completed (some value)) =>
    { run.context with memory := run.context.memory.setVar name value }
  | _, _ => run.context

/-- Two runs of blocks that leave the same but for the variable `into`, which is set after the
    second, and that end with the same fault if they end with one. None of them is `caught`. -/
structure SameButStored (into : Option String)
    (nest alone : Run Note (Machine Memory) (Ending (Option Int32))) : Prop where
  context : nest.context = stored into alone
  fault : ∀ fault, nest.result = .error fault ↔ alone.result = .error fault
  notCaught : nest.result ≠ .ok .caught

theorem stored_none (run : Run Note (Machine Memory) (Ending (Option Int32))) :
    stored none run = run.context := rfl

theorem SameButStored.ended {into : Option String}
    {nest alone : Run Note (Machine Memory) (Ending (Option Int32))}
    (h : SameButStored into nest alone) :
    nest.result.map (fun _ => ()) = alone.result.map (fun _ => ()) := by
  cases hnest : nest.result with
  | error fault =>
    rw [(h.fault fault).mp hnest]
  | ok ending =>
    cases halone : alone.result with
    | error fault =>
      rw [(h.fault fault).mpr halone] at hnest
      cases hnest
    | ok ending' => rfl

/-- Where no block has a variable, the innermost has none, and `SameButStored none` is said of the
    nest. -/
theorem getLast?_bind_of_plain {layers : List Layer} (h : ∀ layer ∈ layers, layer.into = none) :
    layers.getLast?.bind (·.into) = none := by
  cases hlast : layers.getLast? with
  | none => rfl
  | some layer => exact h layer (List.mem_of_getLast? hlast)

theorem receive_of_ok {run : Run Note (Machine Memory) (Ending (Option Int32))}
    {ending : Ending (Option Int32)} (h : run.result = .ok ending) (into : Option String) :
    receive into ending run.context = ⟨[], stored into run, .ok ()⟩ := by
  unfold stored receive
  rw [h]
  cases into with
  | none => rfl
  | some name =>
    cases ending with
    | caught => rfl
    | completed value => cases value <;> rfl

theorem stored_of_error {run : Run Note (Machine Memory) (Ending (Option Int32))} {fault : Fault}
    (h : run.result = .error fault) (into : Option String) : stored into run = run.context := by
  unfold stored
  rw [h]
  cases into <;> rfl

/-- A nest of two blocks or more with `OnlyRethrow` does what its body does in a block without
    clauses, then sets the variable of the innermost block, and completes without a value. -/
theorem silent_nest (caught : Option ArithError) (path : Path) (body : List Statement)
    (first second : Layer) (rest : List Layer)
    (h : ∀ layer ∈ first :: second :: rest, OnlyRethrow layer.clauses) :
    (blockAt caught path (nested body (second :: rest)) first.clauses).run.silent = (do
      let ending ← (blockAt caught path body []).run.silent
      receive (rest.getLastD second).into ending
      return .completed none) := by
  rw [silent_blockAt_of_onlyRethrow (h first List.mem_cons_self),
    silent_blockAt_of_onlyRethrow onlyRethrow_nil,
    silent_nested caught path body second rest fun layer hl => h layer (List.mem_cons_of_mem _ hl)]
  simp only [bind_assoc, pure_bind, Flow.value]

theorem sameButStored_of_silent {nest alone : Step (Ending (Option Int32))} {into : Option String}
    (h : nest.silent = (do
      receive into (← alone.silent)
      return .completed none)) (machine : Machine Memory) :
    SameButStored into (nest machine) (alone machine) := by
  have hrun : (nest machine).silent = _ := congrFun h machine
  cases hr : (alone machine).result with
  | ok ending =>
    have hsilent : (alone.silent machine).result = .ok ending := hr
    have hreceive := receive_of_ok hsilent into
    rw [Action.bind_of_ok hsilent, Action.bind_of_ok (by rw [hreceive]), hreceive] at hrun
    obtain ⟨_, hcontext, hresult⟩ := Run.mk.inj hrun
    have hresult : (nest machine).result = .ok (.completed none) := hresult
    exact ⟨hcontext, by simp [hresult, hr], by simp [hresult]⟩
  | error fault =>
    have hsilent : (alone.silent machine).result = .error fault := hr
    rw [Action.bind_of_error hsilent] at hrun
    obtain ⟨_, hcontext, hresult⟩ := Run.mk.inj hrun
    refine ⟨?_, by simp [hresult, hr], by simp [hresult]⟩
    rw [hcontext, stored_of_error hr]
    rfl

/-- **A nest that only throws again**, whatever the kinds of its clauses, leaves what its body
    leaves in a block without clauses, but for the variable of the innermost block. -/
theorem sameButStored_nest (caught : Option ArithError) (path : Path) (body : List Statement)
    (first : Layer) (inner : List Layer) (h : ∀ layer ∈ first :: inner, OnlyRethrow layer.clauses)
    (machine : Machine Memory) :
    SameButStored (inner.getLast?.bind (·.into))
      ((blockAt caught path (nested body inner) first.clauses).run machine)
      ((blockAt caught path body []).run machine) := by
  cases inner with
  | nil =>
    have hfirst := silent_blockAt_of_onlyRethrow (h first List.mem_cons_self) caught path body
    have hnone := silent_blockAt_of_onlyRethrow onlyRethrow_nil caught path body
    obtain ⟨hcontext, hresult⟩ := Run.silent_inj.mp (congrFun (hfirst.trans hnone.symm) machine)
    refine ⟨hcontext, fun fault => by rw [nested, hresult], ?_⟩
    rw [nested, hresult, result_of_noClauses]
    cases (steps caught path .body 0 body machine).result <;> simp [Except.map]
  | cons second rest =>
    rw [List.getLast?_cons, Option.bind_some, ← List.getLastD_eq_getLast?]
    exact sameButStored_of_silent (silent_nest caught path body first second rest h) machine

/-! ## The theorem -/

/-- How a statement that speaks of the caught error runs where that is `error`: `printCaught` prints
    its message, and `rethrow` throws it. Nothing is said of other statements. -/
def Statement.Uses (error : ArithError) (machine : Machine Memory)
    (run : Run Note (Machine Memory) Flow) : Statement → Prop
  | .printCaught => run = (do Machine.printLine error.message; return .next : Step Flow) machine
  | .rethrow => run = ⟨[], machine, .error (.thrown error)⟩
  | _ => True

theorem uses_step (error : ArithError) (path : Path) (statement : Statement)
    (machine : Machine Memory) :
    statement.Uses error machine (statement.step (some error) path machine) := by
  cases statement with
  | printCaught =>
    rw [Statement.step.eq_def]
    rfl
  | rethrow =>
    rw [Statement.step.eq_def]
    rfl
  | _ => trivial

/-- **The caught error is kept, and belongs to its handler.** When a clause `Catches` the error that
    the body threw, each statement in its handler, and in no handler within, that prints or throws
    the caught error uses that error, as `Statement.Uses` says. Every note of the trace with such a
    path is the note of a statement that ran so, on the `machine` on which it was reached.

    So, in a nest of any number of blocks, at any place, an error of the innermost body that every
    chosen handler `PassesOn` is the error with which the nest ends. If all handlers are of
    `OnlyRethrow`, the nest is as a statement no different from its innermost block without the
    clauses; and as a block, which sets no variable itself, it leaves the same machine as its body
    in one block without clauses, but for the variable of the innermost block (`SameButStored`),
    and the same fault if it ends with one, and it is not `caught`. Where no block in it has a
    variable, the machine is the same. A script is such a block, the one at the empty path. -/
theorem caught_error_is_lexical (script : Script) (memory : Memory) (sink : Sink) :
    (∀ path position error, Catches script memory sink path position error →
      (∀ caught outer site index statement rest machine,
        Reached script memory sink caught (.list outer site index (statement :: rest)) machine →
        Path.handler? (outer ++ [⟨site, index⟩]) = some (path, position) →
        statement.Uses error machine
          (statement.step caught (outer ++ [⟨site, index⟩]) machine)) ∧
      ∀ note, .note note ∈ (script.answer memory sink).trace →
        Path.handler? note.path = some (path, position) →
        ∃ outer site index statement rest machine,
          let run := statement.step (some error) note.path machine
          note.path = outer ++ [⟨site, index⟩] ∧
          Reached script memory sink (some error) (.list outer site index (statement :: rest))
            machine ∧
          script.statementAt? note.path = some statement ∧
          note.outcome = run.result ∧ note.vars = run.context.memory.vars ∧
          statement.Uses error machine run) ∧
    ∀ caught path body first inner machine,
      let nest := (blockAt caught path (nested body inner) first.clauses).run machine
      let alone := (blockAt caught path body []).run machine
      (∀ error, alone.result = .error (.thrown error) →
        PassesOn caught body machine path (first :: inner) →
        nest.result = .error (.thrown error)) ∧
      ((∀ layer ∈ first :: inner, OnlyRethrow layer.clauses) →
        SameButStored (inner.getLast?.bind (·.into)) nest alone ∧
        ((∀ layer ∈ inner, layer.into = none) →
          nest.context = alone.context ∧
            nest.result.map (fun _ => ()) = alone.result.map (fun _ => ()) ∧
            nest.result ≠ .ok .caught) ∧
        ∀ site index,
          let whole := steps caught path site index (nested body (first :: inner)) machine
          let single := steps caught path site index
            [.guarded body [] (inner.getLastD first).into] machine
          whole.context = single.context ∧ whole.result = single.result) := by
  refine ⟨fun path position error catches => ⟨?_, ?_⟩,
    fun caught path body first inner machine => ⟨fun error threw passes => ?_, fun h => ?_⟩⟩
  · intro caught outer site index statement rest machine list inside
    obtain rfl := list.caught_eq catches inside
    exact uses_step error _ statement machine
  · intro note hnote inside
    obtain ⟨before, after, htrace⟩ := List.append_of_mem hnote
    cases trace_accounted script memory sink before _ after htrace with
    | note list _ =>
      obtain rfl := list.caught_eq catches inside
      exact ⟨_, _, _, _, _, _, rfl, list, list.isOf.head, rfl, rfl, uses_step error _ _ _⟩
  · rw [result_of_noClauses, Fault.map_eq_error_iff] at threw
    exact nest_throws first inner path threw passes
  · have same := sameButStored_nest caught path body first inner h machine
    refine ⟨same, fun plain => ?_, fun site index => ?_⟩
    · rw [getLast?_bind_of_plain plain] at same
      exact ⟨same.context.trans (stored_none _), same.ended, same.notCaught⟩
    have hsingle := silent_nested_single caught path site index body first inner h
    exact Run.silent_inj.mp (congrFun hsingle machine)

/-- A block in the handler catches an error of its own, and then the first one is thrown again. -/
example :
    (run ⟨[.throwError (.divisionByZero .div)], [(.arithmetic,
      [.guarded [.throwError (.indexOutOfBounds 3 2)] [(.any, [])] none, .rethrow])]⟩
      ⟨.empty, .empty⟩ {}).result = .error (.thrown (.divisionByZero .div)) := by rfl

end Guarded.Script
