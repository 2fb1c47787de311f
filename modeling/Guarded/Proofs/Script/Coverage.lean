import Mathlib.Data.Finset.Basic
import Mathlib.Data.Finset.Filter
import Guarded.Proofs.Script.Reached

set_option autoImplicit false

/-! # Which errors a handler may see

An analysis of scripts, `mayThrow`: the kinds of error that a statement may throw, given the kinds
that the error caught around it may have. A block passes on the kinds that none of its clauses
accepts, and adds what its handlers may throw; a handler that no error can reach adds nothing.

The analysis is sound. No script throws an error of any other kind, and no handler is entered with
one.

Main statement: `thrown_kinds_covered`. -/

namespace Guarded.Script

/-! ## The analysis -/

/-- The kinds of error that an expression may raise: `arith` an arithmetic one, a read one that is
    out of bounds. -/
def Expr.mayThrow : Expr → Finset Kind
  | .literal _ => ∅
  | .var _ => ∅
  | .arith _ left right => insert .arithmetic (left.mayThrow ∪ right.mayThrow)
  | .sub left right => left.mayThrow ∪ right.mayThrow
  | .item _ _ => {.outOfBounds}
  | .itemAt _ index => insert .outOfBounds index.mayThrow

/-- Of the kinds `offered` by a body, those for which the clause at `position` is the first that
    accepts them. -/
def taken (offered : Finset Kind) (clauses : List (Kind × List Statement)) (position : Nat) :
    Finset Kind :=
  offered.filter fun kind => firstClause? kind clauses = some position

/-- Of the kinds `offered` by a body, those that no clause accepts. -/
def passed (offered : Finset Kind) (clauses : List (Kind × List Statement)) : Finset Kind :=
  offered.filter fun kind => firstClause? kind clauses = none

mutual

/-- The kinds of error that a statement may throw, where the error caught around it has one of the
    kinds `caught`. -/
def Statement.mayThrow (caught : Finset Kind) : Statement → Finset Kind
  | .set _ value => value.mayThrow
  | .assign _ _ divisor => insert .arithmetic divisor.mayThrow
  | .print value => value.mayThrow
  | .text _ => ∅
  | .printCaught => ∅
  | .rethrow => caught
  | .throwError error => {error.kind}
  | .failIo _ => ∅
  | .giveBack none => ∅
  | .giveBack (some value) => value.mayThrow
  | .loop _ body => anyMayThrow caught body
  | .guarded body clauses _ =>
    passed (anyMayThrow caught body) clauses ∪
      handlersMayThrow (anyMayThrow caught body) clauses 0 clauses

/-- The kinds of error that some statement of a list may throw, by `Statement.mayThrow`. -/
def anyMayThrow (caught : Finset Kind) : List Statement → Finset Kind
  | [] => ∅
  | statement :: rest => statement.mayThrow caught ∪ anyMayThrow caught rest

/-- The kinds of error that the handlers of a block may throw, from `position` on. A handler for
    which nothing is `taken` adds none. -/
def handlersMayThrow (offered : Finset Kind) (clauses : List (Kind × List Statement))
    (position : Nat) : List (Kind × List Statement) → Finset Kind
  | [] => ∅
  | (_, handler) :: rest =>
    (if taken offered clauses position = ∅ then ∅
      else anyMayThrow (taken offered clauses position) handler) ∪
      handlersMayThrow offered clauses (position + 1) rest

end

/-- The kinds of error that a block may throw: those that it lets pass, and those of its
    handlers. -/
def blockMayThrow (caught : Finset Kind) (body : List Statement)
    (clauses : List (Kind × List Statement)) : Finset Kind :=
  passed (anyMayThrow caught body) clauses ∪
    handlersMayThrow (anyMayThrow caught body) clauses 0 clauses

/-- The kinds of error that a script may throw. No error is caught around it, so `caught` is `∅`. -/
def mayThrow (script : Script) : Finset Kind :=
  blockMayThrow ∅ script.body script.clauses

/-- A kind is in `handlersMayThrow` if it is one of a handler for which something is `taken`. -/
theorem mem_handlersMayThrow {kind : Kind} {offered : Finset Kind}
    {clauses : List (Kind × List Statement)} (rest : List (Kind × List Statement)) (start : Nat) :
    kind ∈ handlersMayThrow offered clauses start rest ↔
      ∃ position clause, rest[position]? = some clause ∧
        (taken offered clauses (start + position)).Nonempty ∧
        kind ∈ anyMayThrow (taken offered clauses (start + position)) clause.2 := by
  induction rest generalizing start with
  | nil => simp [handlersMayThrow]
  | cons head rest ih =>
    have shift : ∀ position, start + 1 + position = start + (position + 1) := fun position => by
      omega
    simp only [handlersMayThrow, Finset.mem_union, ih, shift]
    constructor
    · rintro (h | ⟨position, clause, hfound, hne, h⟩)
      · split at h
        · exact absurd h (Finset.notMem_empty kind)
        · rename_i hne
          exact ⟨0, head, rfl, Finset.nonempty_iff_ne_empty.mpr hne, h⟩
      · exact ⟨position + 1, clause, hfound, hne, h⟩
    · rintro ⟨position, clause, hfound, hne, h⟩
      cases position with
      | zero =>
        obtain rfl := Option.some.inj hfound
        rw [Nat.add_zero] at hne h
        left
        rwa [if_neg (Finset.nonempty_iff_ne_empty.mp hne)]
      | succ position => exact .inr ⟨position, clause, hfound, hne, h⟩

/-- What a handler throws is not offered to the clauses that follow it. -/
example : mayThrow ⟨[.throwError (.divisionByZero .div)], [(.arithmetic, [.rethrow]), (.any, [])]⟩ =
    {.arithmetic} := by decide

/-! ## Kinds of errors only -/

theorem any_notMem_expr (expr : Expr) : Kind.any ∉ expr.mayThrow := by
  induction expr with
  | literal value => simp [Expr.mayThrow]
  | var name => simp [Expr.mayThrow]
  | arith op left right hl hr => simp [Expr.mayThrow, hl, hr]
  | sub left right hl hr => simp [Expr.mayThrow, hl, hr]
  | item array index => simp [Expr.mayThrow]
  | itemAt array index ih => simp [Expr.mayThrow, ih]

theorem any_notMem_leaf {kinds : Finset Kind} (h : Kind.any ∉ kinds) {statement : Statement}
    (hleaf : statement.isLeaf = true) : Kind.any ∉ statement.mayThrow kinds := by
  cases statement with
  | set name value => exact any_notMem_expr value
  | assign op name divisor => simp [Statement.mayThrow, any_notMem_expr]
  | print value => exact any_notMem_expr value
  | rethrow => exact h
  | «throwError» error => simpa [Statement.mayThrow] using error.kind_ne_any.symm
  | giveBack value =>
    cases value with
    | none => exact Finset.notMem_empty _
    | some value => exact any_notMem_expr value
  | loop count body => exact absurd hleaf Bool.false_ne_true
  | guarded body clauses into => exact absurd hleaf Bool.false_ne_true
  | _ => exact Finset.notMem_empty _

theorem any_notMem_block {kinds : Finset Kind} {body : List Statement}
    {clauses : List (Kind × List Statement)} (hb : Kind.any ∉ anyMayThrow kinds body)
    (hc : ∀ clause ∈ clauses, ∀ kinds, Kind.any ∉ kinds → Kind.any ∉ anyMayThrow kinds clause.2) :
    Kind.any ∉ blockMayThrow kinds body clauses := by
  have offered : ∀ {kind : Kind → Prop} [DecidablePred kind],
      Kind.any ∉ (anyMayThrow kinds body).filter kind := fun hmem =>
    hb (Finset.mem_filter.mp hmem).1
  intro h
  rcases Finset.mem_union.mp h with h | h
  · exact offered h
  · obtain ⟨position, clause, hfound, _, h⟩ := (mem_handlersMayThrow clauses 0).mp h
    exact hc clause (List.mem_of_getElem? hfound) _ offered h

/-- A statement throws errors, and no error is of the kind `any`. -/
theorem any_notMem (statements : List Statement) :
    ∀ kinds, Kind.any ∉ kinds → Kind.any ∉ anyMayThrow kinds statements := by
  induction statements using Statement.induction with
  | nil =>
    intro kinds h
    exact Finset.notMem_empty _
  | leaf statement rest hleaf ih =>
    intro kinds h
    rw [anyMayThrow, Finset.notMem_union]
    exact ⟨any_notMem_leaf h hleaf, ih kinds h⟩
  | loop count body rest hb ih =>
    intro kinds h
    rw [anyMayThrow, Finset.notMem_union]
    exact ⟨hb kinds h, ih kinds h⟩
  | guarded body clauses into rest hb hc ih =>
    intro kinds h
    rw [anyMayThrow, Finset.notMem_union]
    exact ⟨any_notMem_block (hb kinds h) hc, ih kinds h⟩

/-! ## What is thrown -/

theorem kind_of_readItem {memory : Memory} {array : String} {index : Nat} {error : ArithError}
    (h : (readItem memory array index).result = .error error) : error.kind = .outOfBounds := by
  by_cases hlt : index < (memory.array array).size
  · rw [readItem_of_lt hlt] at h
    cases h
  · rw [readItem_of_ge (Nat.not_lt.mp hlt)] at h
    cases h
    rfl

theorem kind_mem_of_eval {memory : Memory} {error : ArithError} {expr : Expr}
    (h : (expr.eval memory).result = .error error) : error.kind ∈ expr.mayThrow := by
  induction expr with
  | literal value => cases h
  | var name => cases h
  | arith op left right hl hr =>
    rw [Expr.mayThrow, Finset.mem_insert, Finset.mem_union]
    rcases Checked.error_of_bind h with h | ⟨dividend, h⟩
    · exact .inr (.inl (hl h))
    rcases Checked.error_of_bind h with h | ⟨divisor, h⟩
    · exact .inr (.inr (hr h))
    left
    by_cases zero : divisor = 0
    · rw [zero, ArithOp.checked_zero] at h
      cases h
      rfl
    · rw [ArithOp.checked_of_ne_zero _ _ zero] at h
      cases h
  | sub left right hl hr =>
    rw [Expr.mayThrow, Finset.mem_union]
    rcases Checked.error_of_bind h with h | ⟨minuend, h⟩
    · exact .inl (hl h)
    rcases Checked.error_of_bind h with h | ⟨subtrahend, h⟩
    · exact .inr (hr h)
    · cases h
  | item array index =>
    rw [Expr.mayThrow, Finset.mem_singleton]
    exact kind_of_readItem h
  | itemAt array index ih =>
    rw [Expr.mayThrow, Finset.mem_insert]
    rcases Checked.error_of_bind h with h | ⟨word, h⟩
    · exact .inr (ih h)
    · exact .inl (kind_of_readItem h)

theorem kind_mem_of_evalStep {expr : Expr} {machine : Machine Memory} {error : ArithError}
    (h : (Step.eval expr machine).result = .error (.thrown error)) :
    error.kind ∈ expr.mayThrow := by
  rw [Step.eval_run] at h
  cases hr : (expr.eval machine.memory).result with
  | ok value => simp [hr] at h
  | error raised =>
    obtain rfl : raised = error := by simpa [hr] using h
    exact kind_mem_of_eval hr

/-- The error that is `caught`, if there is one, has one of the `kinds`. -/
def Covers (kinds : Finset Kind) (caught : Option ArithError) : Prop :=
  ∀ error, caught = some error → error.kind ∈ kinds

theorem covers_none (kinds : Finset Kind) : Covers kinds none := by
  intro error h
  cases h

theorem covers_some {kinds : Finset Kind} {error : ArithError} (h : error.kind ∈ kinds) :
    Covers kinds (some error) := by
  rintro _ ⟨rfl⟩
  exact h

/-- What is printed or set after a value was computed throws nothing, so a thrown error is that of
    `expr`. -/
theorem kind_mem_of_eval_bind {expr : Expr} {next : Int32 → Step Flow} {machine : Machine Memory}
    {error : ArithError}
    (h : ((Step.eval expr >>= next) machine).result = .error (.thrown error))
    (hn : ∀ value, (next value machine).result ≠ .error (.thrown error)) :
    error.kind ∈ expr.mayThrow := by
  rcases Action.fault_of_bind h with h | ⟨value, _, h⟩
  · exact kind_mem_of_evalStep h
  · exact absurd h (hn value)

theorem printLine_ne_thrown (line : String) (machine : Machine Memory) (error : ArithError) :
    ((do Machine.printLine line; return .next : Step Flow) machine).result ≠
      .error (.thrown error) := by
  intro h
  rcases Action.fault_of_bind h with h | ⟨_, _, h⟩
  · rw [Machine.printLine_run] at h
    cases hr : (machine.sink.writeAll (Sink.bytesOf (line ++ "\n"))).2 <;> simp [hr] at h
  · cases h

theorem kind_mem_of_leaf {kinds : Finset Kind} {caught : Option ArithError} {path : Path}
    {statement : Statement} {machine : Machine Memory} {error : ArithError}
    (hcaught : Covers kinds caught) (hleaf : statement.isLeaf = true)
    (h : (statement.step caught path machine).result = .error (.thrown error)) :
    error.kind ∈ statement.mayThrow kinds := by
  cases statement with
  | set name value =>
    rw [Statement.step] at h
    exact kind_mem_of_eval_bind h fun number => by simp [Action.bind_run]
  | assign op name divisor =>
    rw [Statement.step, Step.assign_eq, bind_assoc] at h
    have hmem := kind_mem_of_eval_bind h fun number => by simp [Action.bind_run]
    simpa [Expr.mayThrow, Statement.mayThrow] using hmem
  | print value =>
    rw [Statement.step] at h
    exact kind_mem_of_eval_bind h fun number => printLine_ne_thrown _ machine error
  | text line =>
    rw [Statement.step] at h
    exact absurd h (printLine_ne_thrown line machine error)
  | printCaught =>
    rw [Statement.step.eq_def] at h
    cases caught with
    | none => cases h
    | some thrown => exact absurd h (printLine_ne_thrown _ machine error)
  | rethrow =>
    rw [Statement.step.eq_def] at h
    cases caught with
    | none => cases h
    | some thrown =>
      obtain rfl : thrown = error := by simpa using h
      exact hcaught thrown rfl
  | «throwError» thrown =>
    rw [Statement.step] at h
    obtain rfl : thrown = error := by simpa using h
    exact Finset.mem_singleton_self _
  | failIo failure =>
    rw [Statement.step] at h
    simp at h
  | giveBack value =>
    cases value with
    | none =>
      rw [Statement.step] at h
      cases h
    | some value =>
      rw [Statement.step] at h
      exact kind_mem_of_eval_bind h fun number => by simp
  | loop count body => exact absurd hleaf Bool.false_ne_true
  | guarded body clauses into => exact absurd hleaf Bool.false_ne_true

/-- The soundness of `anyMayThrow` for a list of statements, wherever the list stands. -/
def Sound (statements : List Statement) : Prop :=
  ∀ kinds caught path site index machine error, Covers kinds caught →
    (steps caught path site index statements machine).result = .error (.thrown error) →
      error.kind ∈ anyMayThrow kinds statements

/-- What the body throws is `taken` by the clause that is responsible. -/
theorem kind_mem_taken {kinds : Finset Kind} {caught : Option ArithError} {path : Path}
    {body : List Statement} {clauses : List (Kind × List Statement)} {machine : Machine Memory}
    {error : ArithError} {position : Nat} (hb : Sound body) (hcaught : Covers kinds caught)
    (threw : (steps caught path .body 0 body machine).result = .error (.thrown error))
    (first : firstClause? error.kind clauses = some position) :
    error.kind ∈ taken (anyMayThrow kinds body) clauses position :=
  Finset.mem_filter.mpr ⟨hb kinds caught path .body 0 machine error hcaught threw, first⟩

theorem kind_mem_of_block {kinds : Finset Kind} {caught : Option ArithError} {path : Path}
    {body : List Statement} {clauses : List (Kind × List Statement)} {machine : Machine Memory}
    {error : ArithError} (hb : Sound body) (hc : ∀ clause ∈ clauses, Sound clause.2)
    (hcaught : Covers kinds caught)
    (h : ((blockAt caught path body clauses).run machine).result = .error (.thrown error)) :
    error.kind ∈ blockMayThrow kinds body clauses := by
  rw [blockMayThrow, Finset.mem_union]
  rcases blockAt_cases caught path body clauses machine with
    ⟨_, _, hr⟩ | ⟨_, _, hr⟩ | ⟨thrown, position, clause, _, threw, first, found, handled, hr⟩ |
    ⟨thrown, threw, missing, hr⟩
  · simp [hr] at h
  · simp [hr] at h
  · rw [hr, ← handled] at h
    -- the handler is judged by the kinds that its clause is the first to accept
    have hmem := kind_mem_taken hb hcaught threw first
    have hhandler := hc clause (List.mem_of_getElem? found) _ _ _ _ _ _ _ (covers_some hmem)
      (Fault.map_eq_error_iff.mp h)
    right
    rw [mem_handlersMayThrow]
    refine ⟨position, clause, found, ?_⟩
    rw [Nat.zero_add]
    exact ⟨⟨_, hmem⟩, hhandler⟩
  · obtain rfl : thrown = error := by simpa [hr] using h
    left
    exact Finset.mem_filter.mpr ⟨hb kinds caught path .body 0 machine thrown hcaught threw, missing⟩

theorem kind_mem_of_rounds {kinds : Finset Kind} {caught : Option ArithError} {path : Path}
    {body : List Statement} {error : ArithError} (hb : Sound body) (hcaught : Covers kinds caught)
    (number count : Nat) (machine : Machine Memory)
    (h : (Step.rounds (fun number => steps caught path (.round number) 0 body) number count
      machine).result = .error (.thrown error)) : error.kind ∈ anyMayThrow kinds body := by
  induction count generalizing number machine with
  | zero => cases h
  | succ count ih =>
    rcases rounds_succ_cases (fun number => steps caught path (.round number) 0 body) number count
      machine with ⟨_, hr⟩ | ⟨_, hr⟩
    · rw [hr] at h
      exact ih _ _ h
    · rw [hr] at h
      exact hb kinds caught path _ 0 machine error hcaught h

/-- A list is `Sound` whose first statement is settled and whose rest is. -/
theorem sound_cons {statement : Statement} {rest : List Statement}
    (hs : ∀ kinds caught path machine error, Covers kinds caught →
      (statement.step caught path machine).result = .error (.thrown error) →
        error.kind ∈ statement.mayThrow kinds) (hr : Sound rest) : Sound (statement :: rest) := by
  intro kinds caught path site index machine error hcaught h
  rw [anyMayThrow, Finset.mem_union]
  rcases steps_cons_cases caught path site index statement rest machine with ⟨_, hrun⟩ | ⟨_, hrun⟩
  · rw [hrun] at h
    exact .inr (hr kinds caught path site _ _ error hcaught h)
  · rw [hrun] at h
    exact .inl (hs kinds caught _ machine error hcaught h)

theorem sound (statements : List Statement) : Sound statements := by
  -- the error caught around a list and the kinds that it may have change from handler to handler,
  -- so `Sound` speaks of all of them
  induction statements using Statement.induction with
  | nil =>
    intro kinds caught path site index machine error _ h
    rw [steps] at h
    cases h
  | leaf statement rest hleaf ih =>
    exact sound_cons (fun _ _ _ _ _ hcaught h => kind_mem_of_leaf hcaught hleaf h) ih
  | loop count body rest hb ih =>
    refine sound_cons (fun kinds caught path machine error hcaught h => ?_) ih
    rw [Statement.step] at h
    exact kind_mem_of_rounds hb hcaught 0 count machine h
  | guarded body clauses into rest hb hc ih =>
    refine sound_cons (fun kinds caught path machine error hcaught h => ?_) ih
    rw [(step_guarded_run caught path body clauses into machine).2, Fault.map_eq_error_iff] at h
    exact kind_mem_of_block hb hc hcaught h

/-! ## What reaches a handler -/

/-- A block or a loop: what holds lists of statements. -/
inductive Holder where
  | block (body : List Statement) (clauses : List (Kind × List Statement))
  | loop (body : List Statement)

/-- The block or loop that a statement is, if it is one. -/
def Statement.holder? : Statement → Option Holder
  | .loop _ body => some (.loop body)
  | .guarded body clauses _ => some (.block body clauses)
  | _ => none

/-- The list at a `Site` of a block or loop, and the kinds that the error caught around the list may
    have. For a handler these are those that are `taken`. -/
def Holder.list? (caught : Finset Kind) : Holder → Site → Option (Finset Kind × List Statement)
  | .block body _, .body => some (caught, body)
  | .block body clauses, .handler position =>
    clauses[position]?.map fun clause =>
      (taken (anyMayThrow caught body) clauses position, clause.2)
  | .loop body, .round _ => some (caught, body)
  | _, _ => none

/-- Go from a block or loop to the one that it holds at `position`. -/
def Holder.enter? (place : Finset Kind × Holder) (position : Position) :
    Option (Finset Kind × Holder) := do
  let (kinds, statements) ← place.2.list? place.1 position.site
  let statement ← statements[position.index]?
  let inner ← statement.holder?
  return (kinds, inner)

/-- The block or loop at `path`, and the kinds that the error caught around it may have. -/
def holderAt? (script : Script) (path : Path) : Option (Finset Kind × Holder) :=
  path.foldlM Holder.enter? (∅, .block script.body script.clauses)

/-- The kinds of error that may reach the handler at `position` of the block at `path`. -/
def handlerKinds? (script : Script) (path : Path) (position : Nat) : Option (Finset Kind) := do
  let (caught, holder) ← script.holderAt? path
  let (kinds, _) ← holder.list? caught (.handler position)
  return kinds

theorem holderAt?_concat (script : Script) (path : Path) (position : Position) :
    script.holderAt? (path ++ [position]) =
      (script.holderAt? path).bind fun place => Holder.enter? place position := by
  rw [holderAt?, List.foldlM_append, ← holderAt?]
  simp [List.foldlM_cons]

/-- What is reached stands in the script where its path says, and the error caught around it has a
    kind that `holderAt?` allows there. -/
def Item.Fits (script : Script) (caught : Option ArithError) : Item → Prop
  | .block path body clauses =>
    ∃ kinds, script.holderAt? path = some (kinds, .block body clauses) ∧ Covers kinds caught
  | .rounds path _ _ body =>
    ∃ kinds, script.holderAt? path = some (kinds, .loop body) ∧ Covers kinds caught
  | .list path site index statements =>
    ∃ outer holder kinds all, script.holderAt? path = some (outer, holder) ∧
      holder.list? outer site = some (kinds, all) ∧ all.drop index = statements ∧
      Covers kinds caught ∧ ∀ position, site = .handler position → caught.isSome = true

/-- The block or loop that stands next in a list, by `holderAt?`. -/
theorem holderAt?_of_list {script : Script} {outer kinds : Finset Kind} {holder inner : Holder}
    {all rest : List Statement} {statement : Statement} {path : Path} {site : Site} {index : Nat}
    (hpath : script.holderAt? path = some (outer, holder))
    (hlist : holder.list? outer site = some (kinds, all))
    (hdrop : all.drop index = statement :: rest) (hinner : statement.holder? = some inner) :
    script.holderAt? (path ++ [⟨site, index⟩]) = some (kinds, inner) := by
  have hget : all[index]? = some statement := by
    rw [← List.head?_drop, hdrop, List.head?_cons]
  rw [holderAt?_concat, hpath, Option.bind_some]
  simp [Holder.enter?, hlist, hget, hinner]

theorem Reached.fits {script : Script} {memory : Memory} {sink : Sink} {caught : Option ArithError}
    {item : Item} {machine : Machine Memory}
    (h : Reached script memory sink caught item machine) : item.Fits script caught := by
  induction h with
  | top => exact ⟨∅, rfl, covers_none ∅⟩
  | body block ih =>
    obtain ⟨kinds, hpath, hcaught⟩ := ih
    exact ⟨kinds, _, kinds, _, hpath, rfl, rfl, hcaught, by simp⟩
  | handler block threw first found ih =>
    -- here the caught error changes, and it is the only place where it does
    obtain ⟨kinds, hpath, hcaught⟩ := ih
    have hmem := kind_mem_taken (sound _) hcaught threw first
    exact ⟨kinds, _, _, _, hpath, by simp [Holder.list?, found], rfl,
      covers_some hmem, fun _ _ => rfl⟩
  | nested list ih =>
    obtain ⟨outer, holder, kinds, all, hpath, hlist, hdrop, hcaught, _⟩ := ih
    exact ⟨kinds, holderAt?_of_list hpath hlist hdrop rfl, hcaught⟩
  | loop list ih =>
    obtain ⟨outer, holder, kinds, all, hpath, hlist, hdrop, hcaught, _⟩ := ih
    exact ⟨kinds, holderAt?_of_list hpath hlist hdrop rfl, hcaught⟩
  | round rounds ih =>
    obtain ⟨kinds, hpath, hcaught⟩ := ih
    exact ⟨kinds, _, kinds, _, hpath, rfl, rfl, hcaught, by simp⟩
  | again rounds ended ih => exact ih
  | next list ended ih =>
    obtain ⟨outer, holder, kinds, all, hpath, hlist, hdrop, hcaught, hhandler⟩ := ih
    refine ⟨outer, holder, kinds, all, hpath, hlist, ?_, hcaught, hhandler⟩
    rw [← List.drop_drop, hdrop, List.drop_one, List.tail_cons]

/-- Whatever runs in a handler runs for an error of one of its `handlerKinds?`. -/
theorem Reached.kind_mem_handlerKinds {script : Script} {memory : Memory} {sink : Sink}
    {caught : Option ArithError} {path : Path} {position index : Nat} {statements : List Statement}
    {machine : Machine Memory}
    (h : Reached script memory sink caught (.list path (.handler position) index statements)
      machine) :
    ∃ error kinds, caught = some error ∧ script.handlerKinds? path position = some kinds ∧
      error.kind ∈ kinds := by
  obtain ⟨outer, holder, kinds, all, hpath, hlist, _, hcaught, hsome⟩ := h.fits
  obtain ⟨error, rfl⟩ := Option.isSome_iff_exists.mp (hsome position rfl)
  exact ⟨error, kinds, rfl, by simp [handlerKinds?, hpath, hlist], hcaught error rfl⟩

/-- The last thing that a list of statements notes when it throws is the statement that threw. -/
theorem log_of_threw {caught : Option ArithError} {path : Path} {body : List Statement}
    {machine : Machine Memory} {error : ArithError}
    (threw : (steps caught path .body 0 body machine).result = .error (.thrown error)) :
    ∃ log index vars, (steps caught path .body 0 body machine).log =
      log ++ [.note ⟨path ++ [⟨.body, index⟩], .error (.thrown error), vars⟩] := by
  have hne : body ≠ [] := by
    rintro rfl
    rw [steps] at threw
    cases threw
  obtain ⟨log, offset, vars, _, hlog⟩ := log_of_steps caught path .body 0 hne machine
  rw [threw] at hlog
  exact ⟨log, _, vars, hlog⟩

/-! ## The theorem -/

/-- **No kind escapes or reaches a handler that the clauses rule out.** The error that a script
    throws has a kind in `mayThrow`. What runs in a handler runs for an error of a kind in
    `handlerKinds?`, so that no statement of a handler which nothing can reach is ever run. And each
    time a block reports `handlerFound`, it is the block at the `path` of the note before, that of
    the statement which threw: the body of this block threw the error that is reported in between,
    on the `machine` on which the block was reached, and its handler was entered with this error on
    what the body left. -/
theorem thrown_kinds_covered (script : Script) (memory : Memory) (sink : Sink) :
    let answer := script.answer memory sink
    Kind.any ∉ script.mayThrow ∧
      (∀ error, answer.result = .error (.thrown error) → error.kind ∈ script.mayThrow) ∧
      (∀ caught path position index statements machine,
        Reached script memory sink caught (.list path (.handler position) index statements)
          machine →
        ∃ error kinds, caught = some error ∧ script.handlerKinds? path position = some kinds ∧
          error.kind ∈ kinds) ∧
      (∀ note, .note note ∈ answer.trace → ∀ path position index,
        note.path = path ++ [⟨.handler position, index⟩] →
        ∃ kinds, script.handlerKinds? path position = some kinds ∧ kinds.Nonempty) ∧
      ∀ before position after, answer.trace = before ++ .event (.handlerFound position) :: after →
        ∃ earlier error path index vars caught body clauses machine kind handler kinds,
          before = earlier ++ [.note ⟨path ++ [⟨.body, index⟩], .error (.thrown error), vars⟩,
              .event (.exceptionThrown error)] ∧
            Reached script memory sink caught (.block path body clauses) machine ∧
            (steps caught path .body 0 body machine).log ++ [.event (.exceptionThrown error)] <:+
              before ∧
            (steps caught path .body 0 body machine).result = .error (.thrown error) ∧
            firstClause? error.kind clauses = some position ∧
            clauses[position]? = some (kind, handler) ∧
            Reached script memory sink (some error) (.list path (.handler position) 0 handler)
              (steps caught path .body 0 body machine).context ∧
            script.handlerKinds? path position = some kinds ∧ error.kind ∈ kinds := by
  intro answer
  have hnone : Kind.any ∉ (∅ : Finset Kind) := Finset.notMem_empty _
  refine ⟨?_, ?_, ?_, ?_, ?_⟩
  · exact any_notMem_block (any_notMem script.body ∅ hnone) fun clause _ => any_notMem clause.2
  · intro error h
    exact kind_mem_of_block (sound script.body) (fun clause _ => sound clause.2) (covers_none ∅) h
  · intro caught path position index statements machine h
    exact h.kind_mem_handlerKinds
  · intro note hnote path position index hpath
    obtain ⟨before, after, htrace⟩ := List.append_of_mem hnote
    have origin := trace_accounted script memory sink before (.note note) after htrace
    cases origin with
    | note list hlog =>
      obtain ⟨rfl, hposition⟩ := List.append_inj' hpath rfl
      obtain ⟨rfl, rfl⟩ := Position.mk.inj (List.cons.inj hposition).1
      obtain ⟨error, kinds, _, hkinds, hmem⟩ := list.kind_mem_handlerKinds
      exact ⟨kinds, hkinds, error.kind, hmem⟩
  · intro before position after htrace
    have origin := trace_accounted script memory sink before _ after htrace
    cases origin with
    | @handlerFound caught path body clauses machine error _ block threw first hlog =>
      have found := List.getElem?_eq_getElem (firstClause?_lt first)
      have hentered := Reached.handler block threw first found
      obtain ⟨_, kinds, ⟨rfl⟩, hkinds, hmem⟩ := hentered.kind_mem_handlerKinds
      obtain ⟨log, index, vars, hbody⟩ := log_of_threw threw
      obtain ⟨earlier, hbefore⟩ := hlog
      refine ⟨earlier ++ log, error, path, index, vars, caught, body, clauses, machine, _, _, kinds,
        ?_, block, ⟨earlier, hbefore⟩, threw, first, found, hentered, hkinds, hmem⟩
      rw [← hbefore, hbody]
      simp only [List.append_assoc, List.cons_append, List.nil_append]

end Guarded.Script
