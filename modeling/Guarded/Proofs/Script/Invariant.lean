import Guarded.Script.Run

set_option autoImplicit false

/-! # Invariants of scripts

A script is put together from a handful of actions: computing a value, setting a variable, printing
a line, failing, noting the end of a statement, guarding a block, and doing one thing after another.
A property of steps that each of these keeps is a property of every statement, of every list of
statements and of every handler, however deep they nest. `Invariant` lists what there is to check of
a property, and `Invariant.steps` and `Invariant.script` say what follows, by the induction over the
syntax, made once.

The property may depend on a path: that of the block or loop whose statements the step runs. What
a single statement does is done at the path of the statement, which is never the empty one. -/

namespace Guarded.Script

/-- A property `P path` of steps that every way to build a step keeps. -/
structure Invariant (P : Path → ∀ {α : Type}, Step α → Prop) : Prop where
  pure : ∀ (path : Path) {α : Type} (value : α), P path (pure value : Step α)
  bind : ∀ {path : Path} {α β : Type} {first : Step α} {next : α → Step β},
    P path first → (∀ value, P path (next value)) → P path (first >>= next)
  fail : ∀ (path : Path) (position : Position) {α : Type} (fault : Fault),
    P (path ++ [position]) (Action.fail fault : Step α)
  eval : ∀ (path : Path) (position : Position) (expr : Expr),
    P (path ++ [position]) (Step.eval expr)
  setVar : ∀ (path : Path) (position : Position) (name : String) (value : Int32),
    P (path ++ [position]) (Step.setVar name value)
  printLine : ∀ (path : Path) (position : Position) (line : String),
    P (path ++ [position]) (Machine.printLine line : Step Unit)
  /-- Here the path grows: what holds below a statement becomes a fact about its surroundings. -/
  noting : ∀ {path : Path} (position : Position) {step : Step Flow},
    P (path ++ [position]) step → P path (Step.noting (path ++ [position]) step)
  guarded : ∀ {path : Path} {α : Type} {block : Block Note (Machine Memory) α},
    P path block.body → (∀ clause ∈ block.clauses, ∀ error, P path (clause.handler error)) →
    P path block.run

namespace Invariant

variable {P : Path → ∀ {α : Type}, Step α → Prop}

theorem assign (inv : Invariant P) (path : Path) (position : Position) (op : ArithOp)
    (name : String) (operand : Expr) : P (path ++ [position]) (Step.assign op name operand) := by
  rw [Step.assign_eq]
  exact inv.bind (inv.eval path position _) fun value => inv.setVar path position name value

theorem rounds (inv : Invariant P) {path : Path} {round : Nat → Step Flow}
    (h : ∀ number, P path (round number)) (number count : Nat) :
    P path (Step.rounds round number count) := by
  induction count generalizing number with
  | zero => exact inv.pure path _
  | succ count ih =>
    refine inv.bind (h number) ?_
    intro flow
    cases flow with
    | next => exact ih (number + 1)
    | gaveBack value => exact inv.pure path _

/-- A statement with `isLeaf`. -/
theorem leaf (inv : Invariant P) (caught : Option ArithError) (path : Path) (position : Position)
    {statement : Statement} (h : statement.isLeaf = true) :
    P (path ++ [position]) (statement.step caught (path ++ [position])) := by
  cases statement with
  | set name value =>
    rw [Statement.step]
    refine inv.bind (inv.eval path position value) fun result => ?_
    exact inv.bind (inv.setVar path position name result) fun _ => inv.pure _ _
  | assign op name divisor =>
    rw [Statement.step]
    exact inv.bind (inv.assign path position op name divisor) fun _ => inv.pure _ _
  | print value =>
    rw [Statement.step]
    refine inv.bind (inv.eval path position value) fun number => ?_
    exact inv.bind (inv.printLine path position _) fun _ => inv.pure _ _
  | text line =>
    rw [Statement.step]
    exact inv.bind (inv.printLine path position line) fun _ => inv.pure _ _
  | printCaught =>
    rw [Statement.step.eq_def]
    cases caught with
    | none => exact inv.pure _ _
    | some error => exact inv.bind (inv.printLine path position _) fun _ => inv.pure _ _
  | rethrow =>
    rw [Statement.step.eq_def]
    cases caught with
    | none => exact inv.pure _ _
    | some error => exact inv.fail path position _
  | «throwError» error =>
    rw [Statement.step]
    exact inv.fail path position _
  | failIo error =>
    rw [Statement.step]
    exact inv.fail path position _
  | giveBack value =>
    cases value with
    | none =>
      rw [Statement.step]
      exact inv.pure _ _
    | some value =>
      rw [Statement.step]
      exact inv.bind (inv.eval path position value) fun _ => inv.pure _ _
  | loop count body => exact absurd h Bool.false_ne_true
  | guarded body clauses into => exact absurd h Bool.false_ne_true

theorem handlers (inv : Invariant P) {path : Path} {clauses : List (Kind × List Statement)}
    (h : ∀ clause ∈ clauses, ∀ caught site index, P path (steps caught path site index clause.2))
    (position : Nat) :
    ∀ clause ∈ handlers path position clauses, ∀ error, P path (clause.handler error) := by
  induction clauses generalizing position with
  | nil =>
    intro clause hc
    rw [Script.handlers] at hc
    exact absurd hc List.not_mem_nil
  | cons head rest ih =>
    intro clause hc error
    rw [Script.handlers] at hc
    rcases List.mem_cons.mp hc with rfl | hc
    · exact inv.bind (h head List.mem_cons_self _ _ _) fun _ => inv.pure _ _
    · exact ih (fun clause hc => h clause (List.mem_cons_of_mem _ hc)) _ clause hc error

theorem blockAt (inv : Invariant P) {caught : Option ArithError} {path : Path}
    {body : List Statement} {clauses : List (Kind × List Statement)}
    (hb : P path (steps caught path .body 0 body))
    (hc : ∀ clause ∈ clauses, ∀ caught site index, P path (steps caught path site index clause.2)) :
    P path (blockAt caught path body clauses).run :=
  inv.guarded (inv.bind hb fun _ => inv.pure _ _) (inv.handlers hc 0)

/-- A loop whose rounds have the property. -/
theorem loop (inv : Invariant P) {caught : Option ArithError} {path : Path} {body : List Statement}
    (hb : ∀ number, P path (steps caught path (.round number) 0 body)) (count : Nat) :
    P path ((Statement.loop count body).step caught path) := by
  rw [Statement.step]
  exact inv.rounds hb 0 count

/-- A guarded statement whose body and handlers have the property. -/
theorem guardedStep (inv : Invariant P) {caught : Option ArithError} {path : Path}
    {position : Position} {body : List Statement} {clauses : List (Kind × List Statement)}
    (into : Option String)
    (hb : P (path ++ [position]) (steps caught (path ++ [position]) .body 0 body))
    (hc : ∀ clause ∈ clauses, ∀ caught site index,
      P (path ++ [position]) (steps caught (path ++ [position]) site index clause.2)) :
    P (path ++ [position])
      ((Statement.guarded body clauses into).step caught (path ++ [position])) := by
  rw [Statement.step]
  refine inv.bind (inv.blockAt hb hc) ?_
  intro ending
  split
  · exact inv.bind (inv.setVar path _ _ _) fun _ => inv.pure _ _
  · exact inv.pure _ _

/-! ## The induction over the syntax -/

/-- A list whose first statement and whose rest have the property. -/
theorem cons (inv : Invariant P) {caught : Option ArithError} {path : Path} {site : Site}
    {index : Nat} {statement : Statement} {rest : List Statement}
    (hs : P (path ++ [⟨site, index⟩]) (statement.step caught (path ++ [⟨site, index⟩])))
    (hr : P path (steps caught path site (index + 1) rest)) :
    P path (steps caught path site index (statement :: rest)) := by
  rw [Script.steps]
  refine inv.bind (inv.noting ⟨site, index⟩ hs) ?_
  intro flow
  cases flow with
  | next => exact hr
  | gaveBack value => exact inv.pure path _

theorem steps (inv : Invariant P) (statements : List Statement) :
    ∀ caught path site index, P path (steps caught path site index statements) := by
  induction statements using Statement.induction with
  | nil =>
    intro caught path site index
    rw [Script.steps]
    exact inv.pure path _
  | leaf statement rest h ih =>
    intro caught path site index
    exact inv.cons (inv.leaf caught path _ h) (ih caught path site _)
  | loop count body rest hb ih =>
    intro caught path site index
    exact inv.cons (inv.loop (fun number => hb caught _ (.round number) 0) count)
      (ih caught path site _)
  | guarded body clauses into rest hb hc ih =>
    intro caught path site index
    refine inv.cons (inv.guardedStep into (hb caught _ .body 0) ?_) (ih caught path site _)
    exact fun clause h caught => hc clause h caught _

/-- A single statement, at its own path `path ++ [position]`. -/
theorem statement (inv : Invariant P) (statement : Statement) (caught : Option ArithError)
    (path : Path) (position : Position) :
    P (path ++ [position]) (statement.step caught (path ++ [position])) := by
  cases statement with
  | loop count body =>
    exact inv.loop (fun number => inv.steps body caught _ (.round number) 0) count
  | guarded body clauses into =>
    exact inv.guardedStep into (inv.steps body caught _ .body 0) fun clause _ caught =>
      inv.steps clause.2 caught _
  | _ => exact inv.leaf caught path position rfl

/-- An `Invariant` holds of a whole script, at the path of the top block. -/
theorem script (inv : Invariant P) (script : Script) : P [] script.block.run := by
  rw [block_eq]
  exact inv.blockAt (inv.steps script.body none [] .body 0) fun clause _ caught =>
    inv.steps clause.2 caught []

end Invariant

end Guarded.Script
