import Mathlib.Algebra.Group.Int.Defs
import Mathlib.Algebra.Group.Nat.Defs
import Guarded.Script.Run

set_option autoImplicit false

/-! # The order of evaluation

An expression is a list of operations, each of which takes its operands from what the operations
before it left: first those of the left operand, then those of the right one, then the operation on
the two. Evaluating the expression is performing this list. The first operation that fails decides
the error and the report, and what comes after it is not even looked at.

Main statement: `eval_stops_at_first_failure`. -/

namespace Guarded.Script

/-! ## Operations -/

/-- The elements of an array, by the entries of `memory.arrays`. -/
def Memory.elements (memory : Memory) (array : String) : Array Int32 :=
  (memory.arrays.entries.lookup array).getD #[]

/-- A single operation. Its operands are the values that were computed last, the right one on
    top. -/
inductive Operation where
  | literal (value : Int32)
  | var (name : String)
  | arith (op : ArithOp)
  | sub
  | item (array : String) (index : Nat)
  | itemAt (array : String)
  deriving DecidableEq, Repr

/-- The operations of an expression: those of its operands from left to right, then its own. -/
def Expr.operations : Expr → List Operation
  | .literal value => [.literal value]
  | .var name => [.var name]
  | .arith op left right => left.operations ++ (right.operations ++ [.arith op])
  | .sub left right => left.operations ++ (right.operations ++ [.sub])
  | .item array index => [.item array index]
  | .itemAt array index => index.operations ++ [.itemAt array]

/-- An operation on the values that wait to be used, the last one first. A variable is looked up
    among the entries of the memory, and is `0` if it is not there. There is no result where the
    operation fails or lacks an operand. -/
def Operation.outcome? (memory : Memory) : Operation → List Int32 → Option (List Int32)
  | .literal value, values => some (value :: values)
  | .var name, values => some ((memory.vars.entries.lookup name).getD 0 :: values)
  | .arith op, divisor :: dividend :: values =>
    if divisor = 0 then none else some (op.apply dividend divisor :: values)
  | .sub, subtrahend :: minuend :: values => some ((minuend - subtrahend) :: values)
  | .item array index, values => (memory.elements array)[index]?.map (· :: values)
  | .itemAt array, word :: values => (memory.elements array)[indexOf word]?.map (· :: values)
  | _, _ => none

/-- One operation after another on a stack of `values`, each by `Operation.outcome?`; `none` if one
    has no outcome. -/
def perform? (memory : Memory) (operations : List Operation) (values : List Int32) :
    Option (List Int32) :=
  operations.foldlM (fun values operation => operation.outcome? memory values) values

/-- How an operation fails on the values that wait to be used: what it reports, and its error. -/
inductive Operation.Fails (memory : Memory) :
    Operation → List Int32 → List Event → ArithError → Prop where
  | zeroDivisor {op dividend values} :
      Fails memory (.arith op) (0 :: dividend :: values) [.zeroDivisor op dividend]
        (.divisionByZero op)
  | outside {array index values} (beyond : (memory.elements array).size ≤ index) :
      Fails memory (.item array index) values []
        (.indexOutOfBounds index (memory.elements array).size)
  | outsideAt {array word values} (beyond : (memory.elements array).size ≤ indexOf word) :
      Fails memory (.itemAt array) (word :: values) []
        (.indexOutOfBounds (indexOf word) (memory.elements array).size)

variable {memory : Memory}

theorem outcome?_arith (op : ArithOp) (divisor dividend : Int32) (values : List Int32) :
    (Operation.arith op).outcome? memory (divisor :: dividend :: values) =
      if divisor = 0 then none else some (op.apply dividend divisor :: values) := rfl

theorem outcome?_item (array : String) (index : Nat) (values : List Int32) :
    (Operation.item array index).outcome? memory values =
      (memory.elements array)[index]?.map (· :: values) := rfl

theorem outcome?_itemAt (array : String) (word : Int32) (values : List Int32) :
    (Operation.itemAt array).outcome? memory (word :: values) =
      (memory.elements array)[indexOf word]?.map (· :: values) := rfl

theorem perform?_append (operations more : List Operation) (values : List Int32) :
    perform? memory (operations ++ more) values =
      (perform? memory operations values).bind (perform? memory more) :=
  List.foldlM_append

theorem perform?_cons (operation : Operation) (more : List Operation) (values : List Int32) :
    perform? memory (operation :: more) values =
      (operation.outcome? memory values).bind (perform? memory more) :=
  List.foldlM_cons

theorem Operation.Fails.outcome?_eq_none {operation : Operation} {values : List Int32}
    {report : List Event} {error : ArithError} (h : operation.Fails memory values report error) :
    operation.outcome? memory values = none := by
  cases h with
  | zeroDivisor => rw [outcome?_arith, if_pos rfl]
  | outside beyond => rw [outcome?_item, Array.getElem?_eq_none beyond, Option.map_none]
  | outsideAt beyond => rw [outcome?_itemAt, Array.getElem?_eq_none beyond, Option.map_none]

theorem Operation.Fails.unique {operation : Operation} {values : List Int32}
    {report report' : List Event} {error error' : ArithError}
    (h : operation.Fails memory values report error)
    (h' : operation.Fails memory values report' error') : report = report' ∧ error = error' := by
  cases h <;> cases h' <;> exact ⟨rfl, rfl⟩

/-! ## Reading elements -/

/-- The outcome of reading an element: `elements[index]`, or an error with the index and the length
    of the array. -/
structure Reads (memory : Memory) (array : String) (index : Nat) (outcome : Checked Int32) :
    Prop where
  inside : ∀ h : index < (memory.elements array).size,
    outcome = ⟨[], .ok (memory.elements array)[index]⟩
  outside : (memory.elements array).size ≤ index →
    outcome = ⟨[], .error (.indexOutOfBounds index (memory.elements array).size)⟩

theorem reads_readItem (memory : Memory) (array : String) (index : Nat) :
    Reads memory array index (readItem memory array index) :=
  ⟨readItem_of_lt, readItem_of_ge⟩

/-! ## The course of an evaluation -/

/-- Operations that stop at one of them: those `before` it leave values on which it `Fails`. -/
structure Stops (memory : Memory) (operations : List Operation) (start : List Int32)
    (before : List Operation) (operation : Operation) (report : List Event) (error : ArithError) :
    Prop where
  reached : before ++ [operation] <+: operations
  fails : ∃ values, perform? memory before start = some values ∧
    operation.Fails memory values report error

/-- Operations that stop are not all performed: `perform?` has no outcome. -/
theorem Stops.perform?_eq_none {operations before : List Operation} {operation : Operation}
    {start : List Int32} {report : List Event} {error : ArithError}
    (h : Stops memory operations start before operation report error) :
    perform? memory operations start = none := by
  obtain ⟨⟨after, rfl⟩, values, hvalues, hfails⟩ := h
  rw [List.append_assoc, perform?_append, hvalues, Option.bind_some, List.singleton_append,
    perform?_cons, hfails.outcome?_eq_none, Option.bind_none]

/-- What becomes of operations: all are performed, and leave one value on top of `rest`, or they
    stop at one that fails. -/
inductive Course (memory : Memory) (operations : List Operation) (start rest : List Int32)
    (outcome : Checked Int32) : Prop where
  | ended (value : Int32) (performed : perform? memory operations start = some (value :: rest))
      (same : outcome = ⟨[], .ok value⟩)
  | stopped (before : List Operation) (operation : Operation) (report : List Event)
      (error : ArithError) (stops : Stops memory operations start before operation report error)
      (same : outcome = ⟨report, .error error⟩)

theorem Course.bind {operations more : List Operation} {start rest rest' : List Int32}
    {first : Checked Int32} {next : Int32 → Checked Int32}
    (h : Course memory operations start rest first)
    (hn : ∀ value, Course memory more (value :: rest) rest' (next value)) :
    Course memory (operations ++ more) start rest' (first >>= next) := by
  rcases h with ⟨value, performed, rfl⟩ | ⟨before, operation, report, error, stops, rfl⟩
  · rw [Checked.bind_of_ok rfl]
    have hall : perform? memory operations start = some (value :: rest) := performed
    rcases hn value with ⟨last, performed, same⟩ | ⟨before, operation, report, error, stops, same⟩
    · refine .ended last ?_ (by rw [same]; rfl)
      rw [perform?_append, hall, Option.bind_some, performed]
    · obtain ⟨values, hvalues, hfails⟩ := stops.fails
      refine .stopped (operations ++ before) operation report error ⟨?_, values, ?_, hfails⟩ ?_
      · rw [List.append_assoc]
        exact (List.prefix_append_right_inj operations).mpr stops.reached
      · rw [perform?_append, hall, Option.bind_some, hvalues]
      · rw [same]
        rfl
  · rw [Checked.bind_of_error rfl]
    exact .stopped before operation report error
      ⟨stops.reached.trans (List.prefix_append _ _), stops.fails⟩ rfl

theorem Course.of_apply {operation : Operation} {start rest : List Int32} {value : Int32}
    (h : operation.outcome? memory start = some (value :: rest)) :
    Course memory [operation] start rest ⟨[], .ok value⟩ :=
  .ended value (by rw [perform?_cons, h]; rfl) rfl

theorem Course.of_fails {operation : Operation} {start rest : List Int32} {report : List Event}
    {error : ArithError} (h : operation.Fails memory start report error) :
    Course memory [operation] start rest ⟨report, .error error⟩ :=
  .stopped [] operation report error ⟨List.prefix_rfl, start, rfl, h⟩ rfl

theorem course_arith (op : ArithOp) (dividend divisor : Int32) (rest : List Int32) :
    Course memory [.arith op] (divisor :: dividend :: rest) rest (op.checked dividend divisor) := by
  by_cases hzero : divisor = 0
  · subst hzero
    rw [ArithOp.checked_zero]
    exact .of_fails .zeroDivisor
  · rw [ArithOp.checked_of_ne_zero op dividend hzero]
    exact .of_apply (by rw [outcome?_arith, if_neg hzero])

theorem course_item (array : String) (index : Nat) (start : List Int32) :
    Course memory [.item array index] start start (readItem memory array index) := by
  have reads := reads_readItem memory array index
  by_cases h : index < (memory.elements array).size
  · rw [reads.inside h]
    exact .of_apply (by rw [outcome?_item, Array.getElem?_eq_getElem h, Option.map_some])
  · have hge := Nat.le_of_not_lt h
    rw [reads.outside hge]
    exact .of_fails (.outside hge)

theorem course_itemAt (array : String) (word : Int32) (rest : List Int32) :
    Course memory [.itemAt array] (word :: rest) rest (readItem memory array (indexOf word)) := by
  have reads := reads_readItem memory array (indexOf word)
  by_cases h : indexOf word < (memory.elements array).size
  · rw [reads.inside h]
    exact .of_apply (by rw [outcome?_itemAt, Array.getElem?_eq_getElem h, Option.map_some])
  · have hge := Nat.le_of_not_lt h
    rw [reads.outside hge]
    exact .of_fails (.outsideAt hge)

/-- Evaluating an expression is performing its `operations`, whatever waits to be used in `rest`. -/
theorem course_eval (memory : Memory) (expr : Expr) (rest : List Int32) :
    Course memory expr.operations rest rest (expr.eval memory) := by
  induction expr generalizing rest with
  | literal value => exact .of_apply rfl
  | var name => exact .of_apply rfl
  | arith op left right hl hr =>
    exact (hl rest).bind fun dividend => (hr _).bind fun divisor =>
      course_arith op dividend divisor rest
  | sub left right hl hr =>
    exact (hl rest).bind fun minuend => (hr _).bind fun subtrahend => .of_apply rfl
  | item array index => exact course_item array index rest
  | itemAt array index ih => exact (ih rest).bind fun word => course_itemAt array word rest

/-- What follows the operations of an expression, `more`, finds its value, and nothing follows where
    it has none. -/
theorem perform?_operations (expr : Expr) (more : List Operation) (values : List Int32) :
    perform? memory (expr.operations ++ more) values =
      (expr.eval memory).result.toOption.bind fun value =>
        perform? memory more (value :: values) := by
  rw [perform?_append]
  rcases course_eval memory expr values with
    ⟨value, performed, same⟩ | ⟨before, operation, report, error, stops, same⟩
  · rw [performed, same]
    rfl
  · rw [stops.perform?_eq_none, same]
    rfl

/-! ## What comes after a failure -/

/-- Operations that stop do so at one place, with one report and one error. -/
theorem Stops.unique {operations before before' : List Operation}
    {operation operation' : Operation} {start : List Int32} {report report' : List Event}
    {error error' : ArithError}
    (h : Stops memory operations start before operation report error)
    (h' : Stops memory operations start before' operation' report' error') :
    report = report' ∧ error = error' := by
  -- what is performed before one of the two holds nothing that fails
  have apart : ∀ {before before' : List Operation} {operation operation' : Operation}
      {report report' : List Event} {error error' : ArithError},
      Stops memory operations start before operation report error →
      Stops memory operations start before' operation' report' error' →
      ¬ before ++ [operation] <+: before' := by
    intro before before' operation operation' report report' error error' h h' hbegins
    have hnone := Stops.perform?_eq_none ⟨hbegins, h.fails⟩
    obtain ⟨values, hvalues, _⟩ := h'.fails
    rw [hnone] at hvalues
    cases hvalues
  have hsame : before ++ [operation] = before' ++ [operation'] := by
    rcases List.prefix_or_prefix_of_prefix h.reached h'.reached with hle | hle
    · exact (List.prefix_concat_iff.mp hle).resolve_right (apart h h')
    · exact ((List.prefix_concat_iff.mp hle).resolve_right (apart h' h)).symm
  obtain ⟨rfl, hlast⟩ := List.append_inj' hsame rfl
  obtain rfl : operation = operation' := by simpa using hlast
  obtain ⟨values, hvalues, hfails⟩ := h.fails
  obtain ⟨values', hvalues', hfails'⟩ := h'.fails
  obtain rfl : values = values' := Option.some.inj (hvalues.symm.trans hvalues')
  exact hfails.unique hfails'

/-- Where operations stop, every expression ends that begins with them. -/
theorem Stops.eval_eq {before : List Operation} {operation : Operation} {report : List Event}
    {error : ArithError} {expr : Expr}
    (h : Stops memory expr.operations [] before operation report error) :
    expr.eval memory = ⟨report, .error error⟩ := by
  rcases course_eval memory expr [] with
    ⟨value, performed, _⟩ | ⟨before', operation', report', error', stops, same⟩
  · rw [h.perform?_eq_none] at performed
    cases performed
  · obtain ⟨rfl, rfl⟩ := h.unique stops
    exact same

/-! ## Indices -/

/-- The bits of a word without a sign: a negative word is the index `2 ^ 32 + word`. -/
theorem indexOf_eq (word : Int32) :
    (indexOf word : Int) = if word.toInt < 0 then 2 ^ 32 + word.toInt else word.toInt := by
  have hword : word.toInt = word.toBitVec.toInt := rfl
  have hindex : indexOf word = word.toBitVec.toNat := rfl
  have hlt := word.toBitVec.isLt
  rw [hword, hindex, BitVec.toInt_eq_toNat_cond]
  split <;> split <;> omega

theorem eval_itemAt {expr : Expr} {word : Int32} (h : expr.eval memory = ⟨[], .ok word⟩)
    (array : String) :
    (Expr.itemAt array expr).eval memory = readItem memory array (indexOf word) := by
  rw [Expr.eval, h, Checked.bind_of_ok rfl]
  rfl

/-- A negative index is beyond every array of at most `2 ^ 31` elements. -/
theorem eval_itemAt_of_neg {expr : Expr} {word : Int32} (h : expr.eval memory = ⟨[], .ok word⟩)
    (hneg : word.toInt < 0) {array : String} (hsize : (memory.elements array).size ≤ 2 ^ 31) :
    ∃ index : Nat, (index : Int) = 2 ^ 32 + word.toInt ∧ (Expr.itemAt array expr).eval memory =
      ⟨[], .error (.indexOutOfBounds index (memory.elements array).size)⟩ := by
  have hindex := indexOf_eq word
  rw [if_pos hneg] at hindex
  have hlow := word.le_toInt
  refine ⟨indexOf word, hindex, ?_⟩
  rw [eval_itemAt h]
  exact (reads_readItem memory array _).outside (by omega)

/-! ## The theorem -/

/-- **Evaluation stops at the first operation that fails.** By `perform?` the operations of an
    expression leave its value for what follows, or nothing follows. So either all operations are
    performed, and then nothing is reported; or they stop at the first that fails, in the sense of
    `Stops`, and the expression has the error and the report of that operation, as has every
    expression that begins with the same operations. The machine on which an expression is evaluated
    stays as it is. Reading an element gives what `Reads` says: the element where the index is
    inside the array and an error with the index where it is not. The index is the number that is
    written out, or the computed word by `indexOf`; a negative word is then outside every array of
    at most `2 ^ 31` elements. -/
theorem eval_stops_at_first_failure (memory : Memory) (expr : Expr) :
    (∀ more values, perform? memory (expr.operations ++ more) values =
        (expr.eval memory).result.toOption.bind fun value =>
          perform? memory more (value :: values)) ∧
      ((∃ value, perform? memory expr.operations [] = some [value] ∧
          expr.eval memory = ⟨[], .ok value⟩) ∨
        ∃ before operation report error,
          Stops memory expr.operations [] before operation report error ∧
          expr.eval memory = ⟨report, .error error⟩ ∧
          ∀ other : Expr, before ++ [operation] <+: other.operations →
            other.eval memory = expr.eval memory) ∧
      (∀ sink, Step.eval expr ⟨memory, sink⟩ = ⟨(expr.eval memory).events.map .event,
        ⟨memory, sink⟩, (expr.eval memory).result.mapError .thrown⟩) ∧
      (∀ array index, Reads memory array index ((Expr.item array index).eval memory)) ∧
      ∀ word, expr.eval memory = ⟨[], .ok word⟩ →
        (indexOf word : Int) = (if word.toInt < 0 then 2 ^ 32 + word.toInt else word.toInt) ∧
        ∀ array, Reads memory array (indexOf word) ((Expr.itemAt array expr).eval memory) ∧
          (word.toInt < 0 → (memory.elements array).size ≤ 2 ^ 31 → ∃ index : Nat,
            (index : Int) = 2 ^ 32 + word.toInt ∧ (Expr.itemAt array expr).eval memory =
              ⟨[], .error (.indexOutOfBounds index (memory.elements array).size)⟩) := by
  refine ⟨perform?_operations expr, ?_, fun sink => Step.eval_run expr ⟨memory, sink⟩,
    fun array index => reads_readItem memory array index, ?_⟩
  · rcases course_eval memory expr [] with
      ⟨value, performed, same⟩ | ⟨before, operation, report, error, stops, same⟩
    · exact .inl ⟨value, performed, same⟩
    · refine .inr ⟨before, operation, report, error, stops, same, fun other hbegins => ?_⟩
      have hother : Stops memory other.operations [] before operation report error :=
        ⟨hbegins, stops.fails⟩
      rw [hother.eval_eq, same]
  · intro word hword
    refine ⟨indexOf_eq word, fun array => ⟨?_, fun hneg => eval_itemAt_of_neg hword hneg⟩⟩
    rw [eval_itemAt hword]
    exact reads_readItem memory array _

/-- The left operand fails first, on an index, so the zero divisor is not met. -/
example : ((Expr.arith .div (.itemAt "a" (.literal (-1))) (.literal 0)).eval
    ⟨.empty, .empty⟩).result = .error (.indexOutOfBounds 4294967295 0) := by rfl

end Guarded.Script
