import Guarded.Proofs.Script.Cases

set_option autoImplicit false

/-! # The variables of a trace

The trace notes the variables at the end of every statement. From one note to the next they change
only where a statement assigned to a variable and ended well, and then only in that variable. A
statement that fails, the way of a fault up to the block that catches it, the start of a handler and
the end of a loop change nothing, and nothing is ever undone.

So the trace accounts for the variables: they are what its assignments make of those at the start,
one after another, as `replay` does. Which assignment a note stands for, `Statement.assigned?`, can
be read off the script at the path of the note, the variables before it, and the entry before it,
which says what a block completed with.

Main statement: `vars_of_trace`. -/

namespace Guarded

/-- The value of a block that did not fail, if it has one; a block that is `caught` has none. -/
def Ending.value? {α : Type} : Ending (Option α) → Option α
  | .completed value => value
  | .caught => none

end Guarded

namespace Guarded.Script

/-! ## Where statements stand -/

/-- The list of statements at a `Site` that a statement holds. -/
def Statement.list? : Statement → Site → Option (List Statement)
  | .loop _ body, .round _ => some body
  | .guarded body _ _, .body => some body
  | .guarded _ clauses _, .handler position => clauses[position]?.map (·.2)
  | _, _ => none

/-- The statement at `position` of a list that a statement holds. -/
def Statement.inner? (statement : Statement) (position : Position) : Option Statement := do
  (← statement.list? position.site)[position.index]?

/-- The statement at a path, by `Statement.inner?` from the top. At the empty path stands the
    script, as a block. -/
def statementAt? (script : Script) (path : Path) : Option Statement :=
  path.foldlM Statement.inner? (.guarded script.body script.clauses none)

theorem statementAt?_concat (script : Script) (path : Path) (position : Position) :
    script.statementAt? (path ++ [position]) =
      (script.statementAt? path).bind fun statement => statement.inner? position := by
  rw [statementAt?, List.foldlM_append, ← statementAt?]
  simp [List.foldlM_cons]

/-- Whether `statements` stand in a script at `site` of what `path` leads to, from `index` on. -/
def Stands (script : Script) (path : Path) (site : Site) (index : Nat)
    (statements : List Statement) : Prop :=
  ∀ offset, script.statementAt? (path ++ [⟨site, index + offset⟩]) = statements[offset]?

theorem stands_list {script : Script} {path : Path} {site : Site} {statement : Statement}
    {statements : List Statement} (h : script.statementAt? path = some statement)
    (hlist : statement.list? site = some statements) : Stands script path site 0 statements := by
  intro offset
  rw [statementAt?_concat, h, Option.bind_some, Statement.inner?, hlist, Nat.zero_add]
  rfl

theorem Stands.head {script : Script} {path : Path} {site : Site} {index : Nat}
    {statement : Statement} {rest : List Statement}
    (h : Stands script path site index (statement :: rest)) :
    script.statementAt? (path ++ [⟨site, index⟩]) = some statement := h 0

theorem Stands.tail {script : Script} {path : Path} {site : Site} {index : Nat}
    {statement : Statement} {rest : List Statement}
    (h : Stands script path site index (statement :: rest)) :
    Stands script path site (index + 1) rest := by
  intro offset
  rw [Nat.add_assoc, Nat.add_comm 1]
  exact h (offset + 1)

/-! ## What a trace says of the variables -/

/-- The variables after an entry of a trace: those of a note, or `vars` as they were before an
    event. -/
def Entry.varsAfter (vars : Table Int32) : Entry Note → Table Int32
  | .event _ => vars
  | .note note => note.vars

/-- The variables after a part of a trace: those of its last note, or `vars` if it has none. -/
def varsAfter (vars : Table Int32) (log : List (Entry Note)) : Table Int32 :=
  log.foldl Entry.varsAfter vars

/-- The last entry of `last` and a part of a trace after it. -/
def lastEntry (last : Option (Entry Note)) (log : List (Entry Note)) : Option (Entry Note) :=
  log.getLast?.or last

theorem varsAfter_append (vars : Table Int32) (log more : List (Entry Note)) :
    varsAfter vars (log ++ more) = varsAfter (varsAfter vars log) more :=
  List.foldl_append

theorem lastEntry_append (last : Option (Entry Note)) (log more : List (Entry Note)) :
    lastEntry last (log ++ more) = lastEntry (lastEntry last log) more := by
  rw [lastEntry, lastEntry, lastEntry, List.getLast?_append, Option.or_assoc]

/-! ## Assignments -/

/-- The value with which the body of the block at `path` completed, by the entry before the note of
    the block: a statement of the body gave it back. -/
def completedValue? (path : Path) (body : List Statement) : Option (Entry Note) → Option Int32
  | some (.note ⟨own, .ok flow, _⟩) =>
    if own ∈ (List.range body.length).map fun index => path ++ [⟨.body, index⟩] then flow.value
    else none
  | _ => none

/-- The assignment of a computed value to a variable, by how the statement ended that is to make it:
    only one that ended as `.ok .next` made it. -/
def assignment? (name : String) (value : Checked Int32) :
    Except Fault Flow → Option (String × Int32)
  | .ok .next =>
    match value.result with
    | .ok number => some (name, number)
    | .error _ => none
  | _ => none

/-- The variable that the statement at a path set, and its new value, if it set one: by the memory
    before it, the entry before its note, and how it ended. Of `x /= e` and `x %= e` the value is
    the result of the operation on the entry for `x`, or on `0` if there is none, and on the value
    of `e`. -/
def Statement.assigned? (memory : Memory) (path : Path) (last : Option (Entry Note))
    (outcome : Except Fault Flow) : Statement → Option (String × Int32)
  | .set name value => assignment? name (value.eval memory) outcome
  | .assign op name divisor =>
    assignment? name (divisor.eval memory >>=
      op.checked ((memory.vars.entries.lookup name).getD 0)) outcome
  | .guarded body _ (some name) =>
    match outcome with
    | .ok .next => (completedValue? path body last).map (name, ·)
    | _ => none
  | _ => none

/-- Whether a statement is there to set a variable: it is `set` or `assign`. -/
def Statement.assigns : Statement → Bool
  | .set _ _ => true
  | .assign _ _ _ => true
  | _ => false

/-- The table with an assignment made by `Table.set`, if there is one. -/
def Table.assign (vars : Table Int32) : Option (String × Int32) → Table Int32
  | some (name, value) => vars.set name value
  | none => vars

/-- What an assignment does, by `List.lookup` on the entries of the tables before and after it: the
    variable has its new value, and every other name has what it had. -/
structure Table.IsAssigned (before after : Table Int32) (assigned : Option (String × Int32)) :
    Prop where
  target : ∀ name value, assigned = some (name, value) → after.entries.lookup name = some value
  others : ∀ other, (∀ value, assigned ≠ some (other, value)) →
    after.entries.lookup other = before.entries.lookup other

theorem Table.isAssigned_assign (vars : Table Int32) (assigned : Option (String × Int32)) :
    vars.IsAssigned (vars.assign assigned) assigned := by
  cases assigned with
  | none => exact ⟨nofun, fun _ _ => rfl⟩
  | some entry =>
    obtain ⟨name, value⟩ := entry
    constructor
    · rintro _ _ ⟨⟩
      exact lookup_put_self vars.entries name value
    · intro other hother
      refine lookup_put_of_ne vars.entries ?_ value
      rintro rfl
      exact hother value rfl

/-- What a note says when the statement at its path ran on `memory`: the variables are those of the
    memory, with the assignment `Statement.assigned?` made if there is one. A statement that
    `assigns` and ended well did make one. -/
def Note.Accounts (script : Script) (memory : Memory) (last : Option (Entry Note)) (note : Note) :
    Prop :=
  ∃ statement, script.statementAt? note.path = some statement ∧
    note.vars = memory.vars.assign
      (statement.assigned? memory note.path last note.outcome) ∧
    (statement.assigns = true → note.outcome = .ok .next →
      (statement.assigned? memory note.path last note.outcome).isSome = true)

/-- A part of a trace in which every note `Accounts` for its variables. -/
def Told (script : Script) (arrays : Table (Array Int32)) :
    Table Int32 → Option (Entry Note) → List (Entry Note) → Prop
  | _, _, [] => True
  | vars, _, .event event :: rest => Told script arrays vars (some (.event event)) rest
  | vars, last, .note note :: rest =>
    note.Accounts script ⟨vars, arrays⟩ last ∧
      Told script arrays note.vars (some (.note note)) rest

theorem told_append {script : Script} {arrays : Table (Array Int32)}
    (log more : List (Entry Note)) (vars : Table Int32) (last : Option (Entry Note)) :
    Told script arrays vars last (log ++ more) ↔
      Told script arrays vars last log ∧
        Told script arrays (varsAfter vars log) (lastEntry last log) more := by
  induction log generalizing vars last with
  | nil => simp [Told, varsAfter, lastEntry]
  | cons entry rest ih =>
    have hlast : lastEntry last (entry :: rest) = lastEntry (some entry) rest :=
      lastEntry_append last [entry] rest
    cases entry with
    | event event =>
      rw [List.cons_append, Told, Told, ih, hlast]
      rfl
    | note note =>
      rw [List.cons_append, Told, Told, ih, hlast, and_assoc]
      rfl

theorem told_events (script : Script) (arrays : Table (Array Int32)) (events : List Event)
    (vars : Table Int32) (last : Option (Entry Note)) :
    Told script arrays vars last (events.map .event) := by
  induction events generalizing last with
  | nil => trivial
  | cons event rest ih => exact ih _

theorem varsAfter_events (events : List Event) (vars : Table Int32) :
    varsAfter vars (events.map .event) = vars := by
  induction events with
  | nil => rfl
  | cons event rest ih => exact ih

/-- A run from a machine and an entry before it that accounts for the variables that it leaves: its
    log is `Told`, and the variables at the end are those of its last note. -/
structure Faithful (script : Script) (machine : Machine Memory) (last : Option (Entry Note))
    {α : Type} (run : Run Note (Machine Memory) α) : Prop where
  told : Told script machine.memory.arrays machine.memory.vars last run.log
  vars : run.context.memory.vars = varsAfter machine.memory.vars run.log
  arrays : run.context.memory.arrays = machine.memory.arrays

namespace Faithful

variable {script : Script} {α β γ : Type}

/-- A run that reports events and no more is `Faithful`. -/
theorem of_events {machine : Machine Memory} (last : Option (Entry Note))
    {run : Run Note (Machine Memory) α} (events : List Event) (hlog : run.log = events.map .event)
    (hmemory : run.context.memory = machine.memory) : Faithful script machine last run where
  told := by
    rw [hlog]
    exact told_events script _ events _ last
  vars := by
    rw [hlog, varsAfter_events, hmemory]
  arrays := by rw [hmemory]

/-- One run and then another, each on what was left before it. -/
theorem append {machine : Machine Memory} {last : Option (Entry Note)}
    {first : Run Note (Machine Memory) α} {second : Run Note (Machine Memory) β}
    {run : Run Note (Machine Memory) γ} (hf : Faithful script machine last first)
    (hs : ∀ last, Faithful script first.context last second)
    (hlog : run.log = first.log ++ second.log)
    (hmemory : run.context.memory = second.context.memory) : Faithful script machine last run where
  told := by
    have hsecond := (hs (lastEntry last first.log)).told
    rw [hf.arrays, hf.vars] at hsecond
    rw [hlog, told_append]
    exact ⟨hf.told, hsecond⟩
  vars := by
    rw [hlog, varsAfter_append, ← hf.vars, hmemory]
    exact (hs last).vars
  arrays := by
    rw [hmemory]
    exact (hs last).arrays.trans hf.arrays

/-- Reports before a run. -/
theorem reports {machine : Machine Memory} {run : Run Note (Machine Memory) α}
    (h : ∀ last, Faithful script machine last run) (events : List Event)
    (last : Option (Entry Note)) :
    Faithful script machine last { run with log := events.map .event ++ run.log } := by
  have hevents : Faithful script machine last ⟨events.map .event, machine, Except.ok ()⟩ :=
    of_events last events rfl rfl
  exact hevents.append h rfl rfl

/-- Another value or fault, on the same log and the same memory. -/
theorem congr {machine : Machine Memory} {last : Option (Entry Note)}
    {run : Run Note (Machine Memory) α} {other : Run Note (Machine Memory) β}
    (h : Faithful script machine last run) (hlog : other.log = run.log)
    (hmemory : other.context.memory = run.context.memory) :
    Faithful script machine last other where
  told := by
    rw [hlog]
    exact h.told
  vars := by
    rw [hlog, hmemory]
    exact h.vars
  arrays := by
    rw [hmemory]
    exact h.arrays

end Faithful

/-! ## Statements -/

/-- The run of a statement up to its note: besides what the statements in it did, it makes the
    assignment `Statement.assigned?` that the note will stand for. -/
structure Effected (script : Script) (machine : Machine Memory) (last : Option (Entry Note))
    (path : Path) (statement : Statement) (run : Run Note (Machine Memory) Flow) : Prop where
  told : Told script machine.memory.arrays machine.memory.vars last run.log
  vars : run.context.memory.vars = (varsAfter machine.memory.vars run.log).assign
    (statement.assigned? ⟨varsAfter machine.memory.vars run.log, machine.memory.arrays⟩ path
      (lastEntry last run.log) run.result)
  arrays : run.context.memory.arrays = machine.memory.arrays
  assigns : statement.assigns = true → run.result = .ok .next →
    (statement.assigned? ⟨varsAfter machine.memory.vars run.log, machine.memory.arrays⟩ path
      (lastEntry last run.log) run.result).isSome = true

variable {script : Script}

theorem faithful_noting {machine : Machine Memory} {last : Option (Entry Note)} {path : Path}
    {statement : Statement} {step : Step Flow} (hat : script.statementAt? path = some statement)
    (h : Effected script machine last path statement (step machine)) :
    Faithful script machine last (Step.noting path step machine) := by
  rw [Step.noting_run]
  refine ⟨?_, ?_, h.arrays⟩
  · rw [told_append]
    exact ⟨h.told, ⟨statement, hat, h.vars, h.assigns⟩, trivial⟩
  · rw [varsAfter_append]
    rfl

/-- A statement that leaves the memory to the statements in it. -/
theorem Faithful.effected {machine : Machine Memory} {last : Option (Entry Note)} {path : Path}
    {statement : Statement} {run : Run Note (Machine Memory) Flow}
    (h : Faithful script machine last run) (hassigns : statement.assigns = false)
    (hnone : ∀ memory last, statement.assigned? memory path last run.result = none) :
    Effected script machine last path statement run where
  told := h.told
  vars := by
    rw [hnone]
    exact h.vars
  arrays := h.arrays
  assigns := fun ha => by simp [hassigns] at ha

/-- A statement that computes the value of `expr` and sets the variable `name` to it. -/
theorem effected_setVar {machine : Machine Memory} {path : Path} {statement : Statement}
    (name : String) (expr : Expr) (last : Option (Entry Note))
    (hassigned : ∀ memory last outcome, statement.assigned? memory path last outcome =
      assignment? name (expr.eval memory) outcome) :
    Effected script machine last path statement ((do
      Step.setVar name (← Step.eval expr)
      return .next : Step Flow) machine) := by
  have hrun := Step.eval_run expr machine
  cases h : (expr.eval machine.memory).result with
  | ok value =>
    have hok : (Step.eval expr machine).result = .ok value := by
      rw [hrun, h]
      rfl
    rw [Action.bind_of_ok hok, hrun]
    have hlog := varsAfter_events (expr.eval machine.memory).events machine.memory.vars
    refine ⟨?_, ?_, rfl, ?_⟩
    · simp [Action.bind_run, told_events]
    · simp [Action.bind_run, hlog, hassigned, assignment?, h, Table.assign, Memory.setVar]
    · intro _ _
      simp [Action.bind_run, hlog, hassigned, assignment?, h]
  | error error =>
    have herr : (Step.eval expr machine).result = .error (.thrown error) := by
      rw [hrun, h]
      rfl
    rw [Action.bind_of_error herr, hrun]
    have hlog := varsAfter_events (expr.eval machine.memory).events machine.memory.vars
    refine ⟨told_events _ _ _ _ _, ?_, rfl, ?_⟩
    · simp [hlog, hassigned, assignment?, Table.assign]
    · simp

/-- Two steps of which neither touches the memory. -/
theorem memory_of_bind {α β : Type} {first : Step α} {next : α → Step β}
    (hf : ∀ machine, (first machine).context.memory = machine.memory)
    (hn : ∀ value machine, (next value machine).context.memory = machine.memory)
    (machine : Machine Memory) : ((first >>= next) machine).context.memory = machine.memory := by
  cases h : (first machine).result with
  | ok value =>
    rw [Action.bind_of_ok h]
    exact (hn value _).trans (hf machine)
  | error fault =>
    rw [Action.bind_of_error h]
    exact hf machine

/-- A statement with `isLeaf` and without `assigns` sets no variable. -/
theorem memory_of_leaf {statement : Statement} (h : statement.isLeaf = true)
    (hassigns : statement.assigns = false) (caught : Option ArithError) (path : Path)
    (machine : Machine Memory) :
    (statement.step caught path machine).context.memory = machine.memory := by
  cases statement with
  | set name value => exact absurd hassigns Bool.noConfusion
  | assign op name divisor => exact absurd hassigns Bool.noConfusion
  | print value =>
    rw [Statement.step]
    refine memory_of_bind (fun _ => rfl) (fun number => ?_) machine
    exact memory_of_bind (fun _ => rfl) fun _ _ => rfl
  | text line =>
    rw [Statement.step]
    exact memory_of_bind (fun _ => rfl) (fun _ _ => rfl) machine
  | printCaught =>
    rw [Statement.step.eq_def]
    cases caught with
    | none => rfl
    | some error => exact memory_of_bind (fun _ => rfl) (fun _ _ => rfl) machine
  | rethrow =>
    rw [Statement.step.eq_def]
    cases caught <;> rfl
  | «throwError» error =>
    rw [Statement.step]
    rfl
  | failIo failure =>
    rw [Statement.step]
    rfl
  | giveBack value =>
    cases value with
    | none =>
      rw [Statement.step]
      rfl
    | some value =>
      rw [Statement.step]
      exact memory_of_bind (fun _ => rfl) (fun _ _ => rfl) machine
  | loop count body => exact absurd h Bool.false_ne_true
  | guarded body clauses into => exact absurd h Bool.false_ne_true

theorem effected_leaf {machine : Machine Memory} {statement : Statement}
    (h : statement.isLeaf = true) (caught : Option ArithError) (path : Path)
    (last : Option (Entry Note)) :
    Effected script machine last path statement (statement.step caught path machine) := by
  by_cases hassigns : statement.assigns
  · cases statement with
    | set name value =>
      rw [Statement.step]
      exact effected_setVar name value last fun _ _ _ => rfl
    | assign op name divisor =>
      rw [Statement.step, Step.assign_eq, bind_assoc]
      exact effected_setVar name (.arith op (.var name) divisor) last fun _ _ _ => rfl
    | _ => exact absurd hassigns Bool.false_ne_true
  · have hassigns : statement.assigns = false := Bool.eq_false_iff.mpr hassigns
    have hmemory := memory_of_leaf h hassigns caught path machine
    have hfaithful : Faithful script machine last (statement.step caught path machine) := by
      rcases (leaf_run caught path h machine).log with hlog | ⟨op, dividend, hlog, _⟩
      · exact .of_events last [] hlog hmemory
      · exact .of_events last [.zeroDivisor op dividend] hlog hmemory
    refine hfaithful.effected hassigns fun memory last => ?_
    cases statement with
    | set name value => exact absurd hassigns Bool.noConfusion
    | assign op name divisor => exact absurd hassigns Bool.noConfusion
    | guarded body clauses into => exact absurd h Bool.false_ne_true
    | _ => rfl

/-! ## Loops and blocks -/

/-- A list of statements that is `Faithful` wherever it stands in the script. -/
def FaithfulList (script : Script) (statements : List Statement) : Prop :=
  ∀ caught path site index, Stands script path site index statements →
    ∀ machine last, Faithful script machine last (steps caught path site index statements machine)

theorem faithful_rounds {round : Nat → Step Flow}
    (h : ∀ number machine last, Faithful script machine last (round number machine))
    (number count : Nat) (machine : Machine Memory) (last : Option (Entry Note)) :
    Faithful script machine last (Step.rounds round number count machine) := by
  induction count generalizing number machine last with
  | zero => exact .of_events last [] rfl rfl
  | succ count ih =>
    rcases rounds_succ_cases round number count machine with ⟨_, hr⟩ | ⟨_, hr⟩
    · rw [hr]
      exact (h number machine last).append (ih _ _) rfl rfl
    · rw [hr]
      exact h number machine last

theorem faithful_block {path : Path} {body : List Statement}
    {clauses : List (Kind × List Statement)} {into : Option String}
    (hat : script.statementAt? path = some (.guarded body clauses into))
    (hb : FaithfulList script body) (hc : ∀ clause ∈ clauses, FaithfulList script clause.2)
    (caught : Option ArithError) (machine : Machine Memory) (last : Option (Entry Note)) :
    Faithful script machine last ((blockAt caught path body clauses).run machine) := by
  have hbody := hb caught path .body 0 (stands_list hat rfl) machine last
  rcases blockAt_cases caught path body clauses machine with
    ⟨_, _, hr⟩ | ⟨_, _, hr⟩ | ⟨error, position, clause, _, _, _, found, handled, hr⟩ |
    ⟨error, _, _, hr⟩
  · rw [hr]
    exact hbody.congr rfl rfl
  · rw [hr]
    exact hbody.congr rfl rfl
  · -- the handler goes on with the variables that the body left
    have hsite : (Statement.guarded body clauses into).list? (.handler position) =
        some clause.2 := by
      rw [Statement.list?, found, Option.map_some]
    have hhandler := hc clause (List.mem_of_getElem? found) (some error) path (.handler position) 0
      (stands_list hat hsite)
    rw [hr, ← handled]
    exact hbody.append (Faithful.reports (hhandler _)
      [.exceptionThrown error, .handlerFound position]) rfl rfl
  · have hreports : ∀ last, Faithful script (steps caught path .body 0 body machine).context last
        ⟨[.event (.exceptionThrown error), .event .noHandler], _, Except.ok ()⟩ :=
      fun last => .of_events last [.exceptionThrown error, .noHandler] rfl rfl
    rw [hr]
    exact hbody.append hreports rfl rfl

/-! ## The value of a block -/

theorem completedValue?_note (path : Path) (body : List Statement) (site : Site) (index : Nat)
    (flow : Flow) (vars : Table Int32) :
    completedValue? path body (some (.note ⟨path ++ [⟨site, index⟩], .ok flow, vars⟩)) =
      if site = .body ∧ index < body.length then flow.value else none := by
  have hmem : path ++ [⟨site, index⟩] ∈ (List.range body.length).map
      (fun index => path ++ [⟨.body, index⟩]) ↔ site = .body ∧ index < body.length := by
    simp only [List.mem_map, List.mem_range, List.append_cancel_left_eq, List.cons.injEq,
      Position.mk.injEq, and_true]
    constructor
    · rintro ⟨other, hlt, rfl, rfl⟩
      exact ⟨rfl, hlt⟩
    · rintro ⟨rfl, hlt⟩
      exact ⟨index, hlt, rfl, rfl⟩
  simp only [completedValue?, hmem]

/-- The trace says, by `completedValue?`, with which value a block completed that did not fail. -/
theorem completedValue?_of_block {caught : Option ArithError} {path : Path} {body : List Statement}
    {clauses : List (Kind × List Statement)} {machine : Machine Memory}
    {ending : Ending (Option Int32)} (last : Option (Entry Note))
    (h : ((blockAt caught path body clauses).run machine).result = .ok ending) :
    completedValue? path body
        (lastEntry last ((blockAt caught path body clauses).run machine).log) =
      ending.value? := by
  rcases blockAt_cases caught path body clauses machine with
    ⟨flow, ended, hr⟩ | ⟨_, _, hr⟩ | ⟨error, position, clause, after, _, _, found, handled, hr⟩ |
    ⟨error, _, _, hr⟩
  · rw [hr] at h ⊢
    obtain rfl : Ending.completed flow.value = ending := by simpa using h
    by_cases hempty : body = []
    · -- whatever came before, it is no note of a statement of an empty body
      subst hempty
      obtain rfl : flow = .next := by simpa [steps] using ended.symm
      unfold completedValue?
      split <;> simp [Ending.value?, Flow.value]
    · obtain ⟨log, offset, vars, hlt, hlog⟩ := log_of_steps caught path .body 0 hempty machine
      rw [hlog, ended, Nat.zero_add, lastEntry, List.getLast?_concat, Option.some_or,
        completedValue?_note, if_pos ⟨rfl, hlt⟩, Ending.value?]
  · simp [hr] at h
  · rw [hr] at h ⊢
    cases hafter : after.result with
    | error fault => simp [hafter, Except.map] at h
    | ok flow =>
      obtain rfl : Ending.caught = ending := by simpa [hafter, Except.map] using h
      -- the last entry is of the handler, or it says that the handler was found
      by_cases hempty : clause.2 = []
      · have hlog : after.log = [] := by
          rw [← handled, hempty, steps]
          rfl
        rw [hlog, List.append_cons, lastEntry, List.getLast?_concat]
        rfl
      · obtain ⟨log, offset, vars, _, hlog⟩ := log_of_steps (some error) path (.handler position) 0
          hempty (steps caught path .body 0 body machine).context
        rw [handled, hafter] at hlog
        rw [hlog, List.append_cons, List.append_cons, ← List.append_assoc, lastEntry,
          List.getLast?_concat, Option.some_or, completedValue?_note, if_neg (by simp)]
        rfl
  · simp [hr] at h

theorem effected_guarded {path : Path} {body : List Statement}
    {clauses : List (Kind × List Statement)} {into : Option String} {caught : Option ArithError}
    {machine : Machine Memory} {last : Option (Entry Note)}
    (h : Faithful script machine last ((blockAt caught path body clauses).run machine)) :
    Effected script machine last path (.guarded body clauses into)
      ((Statement.guarded body clauses into).step caught path machine) := by
  obtain ⟨hlog, hresult⟩ := step_guarded_run caught path body clauses into machine
  have hcontext := step_guarded_context caught path body clauses into machine
  cases hended : ((blockAt caught path body clauses).run machine).result with
  | error fault =>
    rw [hended] at hresult
    simp only [hended] at hcontext
    exact (h.congr hlog (congrArg Machine.memory hcontext)).effected rfl fun memory last => by
      rw [hresult]
      cases into <;> rfl
  | ok ending =>
    cases into with
    | none => exact (h.congr hlog (congrArg Machine.memory hcontext)).effected rfl fun _ _ => rfl
    | some name =>
      have hvalue := completedValue?_of_block last hended
      rw [hended] at hresult
      simp only [hended] at hcontext
      refine ⟨hlog ▸ h.told, ?_, ?_, fun hassigns => absurd hassigns Bool.false_ne_true⟩
      · rw [hlog, hresult, hcontext, ← h.vars]
        show _ = Table.assign _ (Option.map _ (completedValue? path body _))
        rw [hvalue]
        cases ending with
        | caught => rfl
        | completed value => cases value <;> rfl
      · rw [hcontext]
        cases ending with
        | caught => exact h.arrays
        | completed value => cases value <;> exact h.arrays

/-! ## The induction over the syntax -/

/-- A list is `FaithfulList` whose first statement is `Effected` and whose rest is. -/
theorem faithful_cons {statement : Statement} {rest : List Statement}
    (hs : ∀ caught path machine last, script.statementAt? path = some statement →
      Effected script machine last path statement (statement.step caught path machine))
    (hr : FaithfulList script rest) : FaithfulList script (statement :: rest) := by
  intro caught path site index hstands machine last
  have hfirst := fun last => faithful_noting hstands.head (hs caught _ machine last hstands.head)
  rcases steps_cons_cases caught path site index statement rest machine with
    ⟨_, hrun⟩ | ⟨_, hrun⟩
  · rw [hrun]
    exact (hfirst last).append (hr caught path site (index + 1) hstands.tail _) rfl rfl
  · rw [hrun]
    exact hfirst last

theorem faithful_list (script : Script) (statements : List Statement) :
    FaithfulList script statements := by
  induction statements using Statement.induction with
  | nil =>
    intro caught path site index _ machine last
    rw [steps]
    exact .of_events last [] rfl rfl
  | leaf statement rest h ih =>
    exact faithful_cons (fun caught path machine last _ => effected_leaf h caught path last) ih
  | loop count body rest hb ih =>
    refine faithful_cons (fun caught path machine last hat => ?_) ih
    rw [Statement.step]
    have hrounds := faithful_rounds (fun number =>
      hb caught path (.round number) 0 (stands_list hat rfl)) 0 count machine last
    exact hrounds.effected rfl fun _ _ => rfl
  | guarded body clauses into rest hb hc ih =>
    exact faithful_cons (fun caught path machine last hat =>
      effected_guarded (faithful_block hat hb hc caught machine last)) ih

/-! ## The theorem -/

/-- The variables that the assignments of a trace make of `vars`. The variables that the trace notes
    are not looked at. -/
def replay (script : Script) (arrays : Table (Array Int32)) :
    Table Int32 → Option (Entry Note) → List (Entry Note) → Table Int32
  | vars, _, [] => vars
  | vars, _, .event event :: rest => replay script arrays vars (some (.event event)) rest
  | vars, last, .note note :: rest =>
    let assigned := (script.statementAt? note.path).bind fun statement =>
      statement.assigned? ⟨vars, arrays⟩ note.path last note.outcome
    replay script arrays (vars.assign assigned) (some (.note note)) rest

theorem replay_of_told {script : Script} {arrays : Table (Array Int32)} {log : List (Entry Note)}
    {vars : Table Int32} {last : Option (Entry Note)} (h : Told script arrays vars last log) :
    replay script arrays vars last log = varsAfter vars log := by
  induction log generalizing vars last with
  | nil => rfl
  | cons entry rest ih =>
    cases entry with
    | event event => exact ih h
    | note note =>
      obtain ⟨⟨statement, hat, hvars, _⟩, hrest⟩ := h
      rw [replay, hat, Option.bind_some, ← hvars]
      exact ih hrest

/-- A part of a trace that is `Told`, at one of its notes. -/
theorem accounts_of_told {script : Script} {arrays : Table (Array Int32)}
    {before after : List (Entry Note)} {note : Note} {vars : Table Int32}
    {last : Option (Entry Note)}
    (h : Told script arrays vars last (before ++ .note note :: after)) :
    note.Accounts script ⟨varsAfter vars before, arrays⟩ (lastEntry last before) :=
  ((told_append _ _ _ _).mp h).2.1

/-- **Only successful assignments change variables, and nothing is undone.** Every note of the trace
    stands for a statement of the script. Its variables are those of the note before it, or those at
    the start, with one change at most: that of a statement that is there to set a variable and
    ended well, or that of a block whose body completed with a value for its variable. By the
    entries of the tables (`Table.IsAssigned`) the variable then has the value of
    `Statement.assigned?`, and all others have what they had. The variables at the end are those of
    the last note, and they are what the assignments of the trace, and nothing else, make of those
    at the start. -/
theorem vars_of_trace (script : Script) (memory : Memory) (sink : Sink) :
    let answer := script.answer memory sink
    (∀ before note after, answer.trace = before ++ .note note :: after →
        let old : Memory := ⟨varsAfter memory.vars before, memory.arrays⟩
        ∃ statement, script.statementAt? note.path = some statement ∧
          let assigned := statement.assigned? old note.path before.getLast? note.outcome
          note.vars = old.vars.assign assigned ∧
          old.vars.IsAssigned note.vars assigned ∧
          (assigned = none → note.vars = old.vars) ∧
          (statement.assigns = true → note.outcome = .ok .next → assigned.isSome = true)) ∧
      answer.vars = varsAfter memory.vars answer.trace ∧
      answer.vars = replay script memory.arrays memory.vars none answer.trace := by
  intro answer
  have hrun : Faithful script ⟨memory, sink⟩ none (script.run memory sink) :=
    faithful_block rfl (faithful_list script script.body)
      (fun clause _ => faithful_list script clause.2) none ⟨memory, sink⟩ none
  refine ⟨?_, hrun.vars, hrun.vars.trans (replay_of_told hrun.told).symm⟩
  intro before note after htrace
  have htold : Told script memory.arrays memory.vars none (before ++ .note note :: after) :=
    htrace ▸ hrun.told
  have haccounts := accounts_of_told htold
  rw [lastEntry, Option.or_none] at haccounts
  obtain ⟨statement, hat, hvars, hassigns⟩ := haccounts
  refine ⟨statement, hat, hvars, ?_, fun hnone => ?_, hassigns⟩
  · rw [hvars]
    exact Table.isAssigned_assign _ _
  · rw [hvars, hnone]
    rfl

end Guarded.Script
