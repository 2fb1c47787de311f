import Guarded.Proofs.Script.Cases

set_option autoImplicit false

/-! # Scripts without their log

What a statement notes tells where it stands; what it does to the memory and the sink, and how it
ends, does not depend on that. To compare two scripts in this respect, forget the log of both.
`Action.silent` forgets it, and goes along with every way to put actions together, so it is enough
to compare the parts.

Main result: `silent_steps`, a list of statements does the same wherever it stands. -/

namespace Guarded

variable {N C α β : Type}

/-! ## Actions without their log -/

/-- The run without its log; context and result stay. -/
def Run.silent (run : Run N C α) : Run N C α := { run with log := [] }

theorem Run.silent_inj {run other : Run N C α} :
    run.silent = other.silent ↔ run.context = other.context ∧ run.result = other.result := by
  simp [silent]

namespace Action

/-- The action that leaves what `action` does, but no log. -/
def silent (action : Action N C α) : Action N C α := fun context => (action context).silent

@[simp] theorem silent_pure (value : α) : (pure value : Action N C α).silent = pure value := rfl

@[simp] theorem silent_report (event : Event) :
    (report event : Action N C Unit).silent = pure () := rfl

@[simp] theorem silent_noting (action : Action N C α) (note : Except Fault α → C → N) :
    (action.noting note).silent = action.silent := rfl

@[simp] theorem silent_bind (first : Action N C α) (next : α → Action N C β) :
    (first >>= next).silent = first.silent >>= fun value => (next value).silent := by
  funext context
  show ((first >>= next) context).silent = _
  cases h : (first context).result with
  | ok value =>
    have hsilent : (first.silent context).result = .ok value := h
    rw [bind_of_ok h, bind_of_ok hsilent]
    rfl
  | error fault =>
    have hsilent : (first.silent context).result = .error fault := h
    rw [bind_of_error h, bind_of_error hsilent]
    rfl

@[simp] theorem silent_recover (first : Action N C α) (handle : ArithError → Action N C α) :
    (first.recover handle).silent = first.silent.recover fun error => (handle error).silent := by
  funext context
  show (first.recover handle context).silent = _
  cases h : (first context).result with
  | ok value =>
    have hsilent : (first.silent context).result = .ok value := h
    rw [recover_of_ok h, recover_of_ok hsilent]
    rfl
  | error fault =>
    have hsilent : (first.silent context).result = .error fault := h
    cases fault with
    | io error =>
      rw [recover_of_io h, recover_of_io hsilent]
      rfl
    | thrown error =>
      rw [recover_of_thrown h, recover_of_thrown hsilent]
      rfl

/-- Throwing again what was thrown, by `Action.fail`, is as if nothing had been done about it. -/
theorem recover_fail (action : Action N C α) :
    (action.recover fun error => fail (.thrown error)) = action := by
  funext context
  cases h : (action context).result with
  | ok value => exact recover_of_ok h _
  | error fault =>
    cases fault with
    | io error => exact recover_of_io h _
    | thrown error => rw [recover_of_thrown h, fail_run, List.append_nil, ← h]

end Action

namespace Script

/-! ## Where a list stands makes no difference -/

/-- The clause that takes an error of `kind`: its position and its statements. -/
def responsible? (kind : Kind) (clauses : List (Kind × List Statement)) :
    Option (Nat × List Statement) :=
  (firstClause? kind clauses).bind fun position =>
    clauses[position]?.map fun clause => (position, clause.2)

theorem mem_of_responsible? {kind : Kind} {clauses : List (Kind × List Statement)}
    {position : Nat} {handler : List Statement}
    (h : responsible? kind clauses = some (position, handler)) :
    ∃ clause ∈ clauses, clause.2 = handler := by
  obtain ⟨place, _, hmap⟩ := Option.bind_eq_some_iff.mp h
  obtain ⟨clause, hclause, hpair⟩ := Option.map_eq_some_iff.mp hmap
  exact ⟨clause, List.mem_of_getElem? hclause, (Prod.mk.inj hpair).2⟩

/-- What the clauses of a block do about an error, without the log: `Block.dispatch` by
    `responsible?`. -/
def dispatched (path : Path) (clauses : List (Kind × List Statement)) (error : ArithError) :
    Step (Ending (Option Int32)) :=
  match responsible? error.kind clauses with
  | some (position, handler) => do
    let _ ← (steps (some error) path (.handler position) 0 handler).silent
    return .caught
  | none => Action.fail (.thrown error)

theorem silent_dispatch (path : Path) (clauses : List (Kind × List Statement))
    (error : ArithError) :
    (Block.dispatch (handlers path 0 clauses) error : Step (Ending (Option Int32))).silent =
      dispatched path clauses error := by
  rw [Block.dispatch, first?_handlers, dispatched, responsible?]
  cases firstClause? error.kind clauses with
  | none => rfl
  | some position =>
    simp only [Option.bind_some]
    cases clauses[position]? with
    | none => rfl
    | some clause =>
      simp only [Option.map_some, Nat.zero_add, Action.silent_bind, Action.silent_report,
        Action.silent_pure, bind_assoc, pure_bind]

/-- Handlers that do the same at `path` and at `path'` make no difference between the two. -/
theorem dispatched_congr {path path' : Path} {clauses : List (Kind × List Statement)}
    (h : ∀ clause ∈ clauses, ∀ caught site,
      (steps caught path site 0 clause.2).silent = (steps caught path' site 0 clause.2).silent) :
    dispatched path clauses = dispatched path' clauses := by
  funext error
  unfold dispatched
  cases found : responsible? error.kind clauses with
  | none => rfl
  | some pair =>
    obtain ⟨position, handler⟩ := pair
    obtain ⟨clause, hclause, rfl⟩ := mem_of_responsible? found
    simp only [h clause hclause]

theorem silent_blockAt (caught : Option ArithError) (path : Path) (body : List Statement)
    (clauses : List (Kind × List Statement)) :
    (blockAt caught path body clauses).run.silent =
      Action.recover (do return .completed (← (steps caught path .body 0 body).silent).value)
        (dispatched path clauses) := by
  rw [Block.run, Action.silent_recover]
  simp only [blockAt, silent_dispatch, Block.completion, Action.silent_bind, Action.silent_pure,
    bind_assoc, pure_bind]

/-- Set the variable `into` of a block, if it has one, to the value with which its body completed,
    if there is one. -/
def receive (into : Option String) (ending : Ending (Option Int32)) : Step Unit :=
  match into, ending with
  | some name, .completed (some value) => Step.setVar name value
  | _, _ => pure ()

@[simp] theorem silent_receive (into : Option String) (ending : Ending (Option Int32)) :
    (receive into ending).silent = receive into ending := by
  unfold receive
  split <;> rfl

theorem silent_guarded (caught : Option ArithError) (path : Path) (body : List Statement)
    (clauses : List (Kind × List Statement)) (into : Option String) :
    ((Statement.guarded body clauses into).step caught path).silent = (do
      receive into (← (blockAt caught path body clauses).run.silent)
      return .next) := by
  have hstep : (Statement.guarded body clauses into).step caught path = (do
      receive into (← (blockAt caught path body clauses).run)
      return .next) := by
    rw [Statement.step, ← blockAt]
    refine bind_congr fun ending => ?_
    cases into with
    | none => rfl
    | some name =>
      cases ending with
      | caught => rfl
      | completed value => cases value <;> rfl
  simp only [hstep, Action.silent_bind, silent_receive, Action.silent_pure]

/-- Of what a statement with `isLeaf` does, nothing has to do with where it stands. -/
theorem step_of_leaf {statement : Statement} (h : statement.isLeaf = true)
    (caught : Option ArithError) (path path' : Path) :
    statement.step caught path = statement.step caught path' := by
  cases statement with
  | loop count body => exact absurd h Bool.false_ne_true
  | guarded body clauses into => exact absurd h Bool.false_ne_true
  | giveBack value => cases value <;> rw [Statement.step, Statement.step]
  | _ => rw [Statement.step.eq_def, Statement.step.eq_def]

theorem silent_rounds {round round' : Nat → Step Flow}
    (h : ∀ number, (round number).silent = (round' number).silent) (number count : Nat) :
    (Step.rounds round number count).silent = (Step.rounds round' number count).silent := by
  induction count generalizing number with
  | zero => rfl
  | succ count ih =>
    rw [Step.rounds, Step.rounds, Action.silent_bind, Action.silent_bind, h]
    refine bind_congr fun flow => ?_
    cases flow with
    | next => exact ih (number + 1)
    | gaveBack value => rfl

theorem silent_steps_cons (caught : Option ArithError) (path : Path) (site : Site) (index : Nat)
    (statement : Statement) (rest : List Statement) :
    (steps caught path site index (statement :: rest)).silent = (do
      match ← (statement.step caught (path ++ [⟨site, index⟩])).silent with
      | .next => (steps caught path site (index + 1) rest).silent
      | .gaveBack value => return .gaveBack value) := by
  rw [steps, Action.silent_bind, Step.noting, Action.silent_noting]
  refine bind_congr fun flow => ?_
  cases flow <;> rfl

/-- **Without its log, a list does the same wherever it stands**: `path`, `site` and `index` are in
    its notes only. -/
theorem silent_steps (statements : List Statement) :
    ∀ caught path path' site site' index index',
      (steps caught path site index statements).silent =
        (steps caught path' site' index' statements).silent := by
  induction statements using Statement.induction with
  | nil =>
    intro caught path path' site site' index index'
    rw [steps, steps]
  | leaf statement rest h ih =>
    intro caught path path' site site' index index'
    rw [silent_steps_cons, silent_steps_cons, step_of_leaf h,
      ih caught path path' site site' (index + 1) (index' + 1)]
  | loop count body rest hb ih =>
    intro caught path path' site site' index index'
    have hround := fun number => hb caught (path ++ [⟨site, index⟩]) (path' ++ [⟨site', index'⟩])
      (.round number) (.round number) 0 0
    rw [silent_steps_cons, silent_steps_cons, Statement.step, Statement.step,
      silent_rounds hround, ih caught path path' site site' (index + 1) (index' + 1)]
  | guarded body clauses into rest hb hc ih =>
    intro caught path path' site site' index index'
    have hdispatch : dispatched (path ++ [⟨site, index⟩]) clauses =
        dispatched (path' ++ [⟨site', index'⟩]) clauses :=
      dispatched_congr fun clause hclause caught site => hc clause hclause caught _ _ site site 0 0
    have hbody := hb caught (path ++ [⟨site, index⟩]) (path' ++ [⟨site', index'⟩]) .body .body 0 0
    rw [silent_steps_cons, silent_steps_cons, silent_guarded, silent_guarded, silent_blockAt,
      silent_blockAt, hbody, hdispatch,
      ih caught path path' site site' (index + 1) (index' + 1)]

/-- A list goes on after `before` as if it started there, if it goes on at all. -/
theorem silent_steps_append (caught : Option ArithError) (path : Path) (site : Site) (index : Nat)
    (before rest : List Statement) :
    (steps caught path site index (before ++ rest)).silent = (do
      match ← (steps caught path site index before).silent with
      | .next => (steps caught path site index rest).silent
      | .gaveBack value => return .gaveBack value) := by
  induction before generalizing index with
  | nil =>
    rw [List.nil_append, steps]
    rfl
  | cons statement before ih =>
    rw [List.cons_append, silent_steps_cons, silent_steps_cons, bind_assoc, ih,
      silent_steps rest caught path path site site (index + 1) index]
    refine bind_congr fun flow => ?_
    cases flow <;> rfl

theorem silent_steps_single (caught : Option ArithError) (path : Path) (site : Site) (index : Nat)
    (statement : Statement) :
    (steps caught path site index [statement]).silent =
      (statement.step caught (path ++ [⟨site, index⟩])).silent := by
  rw [silent_steps_cons]
  refine Eq.trans (bind_congr fun flow => ?_) (bind_pure _)
  cases flow with
  | next =>
    rw [steps]
    rfl
  | gaveBack value => rfl

end Script

end Guarded
