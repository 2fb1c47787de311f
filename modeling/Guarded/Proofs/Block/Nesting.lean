import Guarded.Block

set_option autoImplicit false

/-! # Blocks around blocks

A block may be the body of another block. What the inner clauses do not take, and what an inner
handler throws, is then offered to the outer clauses, and never to the inner ones again. So the two
blocks are one: its clauses are those of the inner block, each with its handler `within` the outer
clauses, and after them the outer clauses themselves. Step by step a nest of any depth becomes one
block.

What a block reports of itself does differ: one block meets an error once, where two blocks meet it
twice. Everything else in the log, `ownLog`, is the same, and so are the context and the fault.

Main statement: `nested_blocks_flatten`. -/

namespace Guarded

variable {N C α β γ : Type}

/-! ## Endings -/

/-- The ending with `f value` for its value, if it has one. -/
def Ending.map (f : α → β) : Ending α → Ending β
  | .completed value => .completed (f value)
  | .caught => .caught

/-- The ending of a block whose body is a block. It is `caught` if either of the two caught. -/
def Ending.flatten : Ending (Ending α) → Ending α
  | .completed inner => inner
  | .caught => .caught

/-! ## Runs -/

/-- Whether an entry is what a block reports of itself: `exceptionThrown`, `handlerFound` or
    `noHandler`. -/
def Entry.isOfBlock : Entry N → Bool
  | .event (.exceptionThrown _) => true
  | .event (.handlerFound _) => true
  | .event .noHandler => true
  | _ => false

namespace Run

/-- The log without the entries with `Entry.isOfBlock`. -/
def ownLog (run : Run N C α) : List (Entry N) := run.log.filter (!·.isOfBlock)

/-- Two runs that leave the same context and, up to `ownLog`, the same log; the second has the value
    of the first in the shape that `f` gives it. -/
structure Reshaped (f : α → β) (run : Run N C α) (other : Run N C β) : Prop where
  context : other.context = run.context
  result : other.result = run.result.map f
  ownLog : other.ownLog = run.ownLog

theorem Reshaped.trans {f : α → β} {g : β → γ} {first : Run N C α} {second : Run N C β}
    {third : Run N C γ} (h : first.Reshaped f second) (h' : second.Reshaped g third) :
    first.Reshaped (g ∘ f) third where
  context := h'.context.trans h.context
  result := by
    rw [h'.result, h.result]
    cases first.result <;> rfl
  ownLog := h'.ownLog.trans h.ownLog

theorem reshaped_map (run : Run N C α) (f : α → β) : run.Reshaped f (run.map f) := ⟨rfl, rfl, rfl⟩

theorem reshaped_of_comp (run : Run N C α) {f : α → β} {g : β → γ} {h : α → γ} (same : g ∘ f = h) :
    (run.map f).Reshaped g (run.map h) := by
  rw [← same, ← map_map]
  exact reshaped_map _ g

end Run

/-- The same log before both, up to `Entry.isOfBlock`, keeps them `Reshaped`. -/
theorem Run.Reshaped.prepend {f : α → β} {run : Run N C α} {other : Run N C β}
    (h : run.Reshaped f other) {log log' : List (Entry N)}
    (hlog : log'.filter (!·.isOfBlock) = log.filter (!·.isOfBlock)) :
    (run.prepend log).Reshaped f (other.prepend log') where
  context := h.context
  result := h.result
  ownLog := by
    have hown : other.log.filter (!·.isOfBlock) = run.log.filter (!·.isOfBlock) := h.ownLog
    show (log' ++ other.log).filter _ = (log ++ run.log).filter _
    rw [List.filter_append, List.filter_append, hlog, hown]

/-! ## What a block adds to the run of its body -/

namespace Block

/-- The run of a block, by the run of its body: `Block.run` is `finish` of it. -/
def finish (clauses : List (Clause N C)) (run : Run N C α) : Run N C (Ending α) :=
  match run.result with
  | .ok _ => run.map .completed
  | .error (.io error) => ⟨run.log, run.context, .error (.io error)⟩
  | .error (.thrown error) => (dispatch clauses error run.context).prepend run.log

theorem run_eq_finish (block : Block N C α) (context : C) :
    block.run context = finish block.clauses (block.body context) := by
  cases h : (block.body context).result with
  | ok value =>
    rw [run_of_ok h, finish, h]
    simp only [Run.map, h, Except.map]
  | error fault =>
    cases fault with
    | io error => rw [run_of_io h, finish, h]
    | thrown error =>
      rw [run_of_thrown h, finish, h]
      rfl

theorem finish_of_found {clauses : List (Clause N C)} {run : Run N C α} {error : ArithError}
    {position : Nat} {clause : Clause N C} (h : run.result = .error (.thrown error))
    (found : Clause.first? error.kind clauses = some (position, clause)) :
    finish clauses run = ((clause.handler error run.context).map fun _ => .caught).prepend
      (run.log ++ [.event (.exceptionThrown error), .event (.handlerFound position)]) := by
  rw [finish, h]
  simp only [dispatch_of_found found, Run.prepend, Run.map, List.append_assoc, List.cons_append,
    List.nil_append]

theorem finish_of_missing {clauses : List (Clause N C)} {run : Run N C α} {error : ArithError}
    (h : run.result = .error (.thrown error))
    (missing : Clause.first? error.kind clauses = none) :
    finish clauses run = ⟨run.log ++ [.event (.exceptionThrown error), .event .noHandler],
      run.context, .error (.thrown error)⟩ := by
  rw [finish, h]
  simp only [dispatch_of_none missing, Run.prepend]

/-- What was logged before makes no difference to `finish`. -/
theorem finish_prepend (clauses : List (Clause N C)) (run : Run N C α) (log : List (Entry N)) :
    finish clauses (run.prepend log) = (finish clauses run).prepend log := by
  cases h : run.result with
  | ok value => simp [finish, Run.prepend, Run.map, h]
  | error fault => cases fault <;> simp [finish, Run.prepend, h]

/-- The value of the body makes no difference to `finish` but that it is the value of the block. -/
theorem finish_map (clauses : List (Clause N C)) (run : Run N C α) (f : α → β) :
    finish clauses (run.map f) = (finish clauses run).map (Ending.map f) := by
  cases h : run.result with
  | ok value => simp [finish, Run.map, h, Except.map, Ending.map]
  | error fault =>
    have hmap : (run.map f).result = .error fault := by simp [Run.map, h, Except.map]
    cases fault with
    | io error =>
      rw [finish, finish, h, hmap]
      rfl
    | thrown error =>
      cases found : Clause.first? error.kind clauses with
      | none =>
        rw [finish_of_missing h found, finish_of_missing hmap found]
        rfl
      | some pair =>
        obtain ⟨position, clause⟩ := pair
        rw [finish_of_found h found, finish_of_found hmap found]
        rw [Run.map_prepend, Run.map_map]
        rfl

/-- Bodies that are `Reshaped` make blocks that are. -/
theorem reshaped_finish {f : α → β} {run : Run N C α} {other : Run N C β}
    (h : run.Reshaped f other) (clauses : List (Clause N C)) :
    (finish clauses run).Reshaped (Ending.map f) (finish clauses other) := by
  have hrun : run = (⟨[], run.context, run.result⟩ : Run N C α).prepend run.log := by
    simp [Run.prepend]
  have hother : other =
      ((⟨[], run.context, run.result⟩ : Run N C α).map f).prepend other.log := by
    simp [Run.prepend, Run.map, ← h.context, ← h.result]
  rw [hrun, hother, finish_prepend, finish_prepend, finish_map]
  exact (Run.reshaped_map _ _).prepend h.ownLog

end Block

/-! ## Clauses of two blocks -/

namespace Clause

/-- The clause with its handler in a block of the clauses `outer`. -/
def within (outer : List (Clause N C)) (clause : Clause N C) : Clause N C where
  kind := clause.kind
  handler := fun error => do
    let _ ← Block.run { body := clause.handler error, clauses := outer }

theorem within_handler_run (outer : List (Clause N C)) (clause : Clause N C) (error : ArithError)
    (context : C) :
    (clause.within outer).handler error context =
      (Block.finish outer (clause.handler error context)).map fun _ => () := by
  simp only [within, Action.bind_run, Action.pure_run, Block.run_eq_finish, List.append_nil,
    Run.map]
  cases (Block.finish outer (clause.handler error context)).result <;> rfl

/-- Putting the handlers in blocks does not change which clause `first?` finds. -/
theorem first?_within (outer : List (Clause N C)) (kind : Kind) (clauses : List (Clause N C)) :
    first? kind (clauses.map (within outer)) =
      (first? kind clauses).map (Prod.map id (within outer)) := by
  induction clauses with
  | nil => rfl
  | cons clause rest ih =>
    rw [List.map_cons, first?, first?, ih]
    cases h : clause.kind.accepts kind with
    | true => simp [within, h]
    | false => cases first? kind rest <;> simp [within, h]

/-- Of two lists of clauses, the second is searched if the first has none for the kind. -/
theorem first?_append (kind : Kind) (clauses more : List (Clause N C)) :
    first? kind (clauses ++ more) =
      (first? kind clauses).or ((first? kind more).map (Prod.map (clauses.length + ·) id)) := by
  induction clauses with
  | nil =>
    rw [List.nil_append, first?, Option.none_or]
    cases first? kind more <;> simp [Prod.map]
  | cons clause rest ih =>
    rw [List.cons_append, first?, first?, ih]
    cases clause.kind.accepts kind with
    | true => simp
    | false => cases first? kind rest <;> cases first? kind more <;> simp [Prod.map]; omega

end Clause

namespace Block

/-- The clauses of a block and of a block around it, as those of one block: a handler of the inner
    one stands `within` the outer ones. -/
def flatClauses (inner outer : List (Clause N C)) : List (Clause N C) :=
  inner.map (Clause.within outer) ++ outer

theorem first?_flatClauses (kind : Kind) (inner outer : List (Clause N C)) :
    Clause.first? kind (flatClauses inner outer) =
      ((Clause.first? kind inner).map (Prod.map id (Clause.within outer))).or
        ((Clause.first? kind outer).map (Prod.map (inner.length + ·) id)) := by
  rw [flatClauses, Clause.first?_append, Clause.first?_within, List.length_map]

/-! ## Two blocks are one -/

/-- Two blocks leave what one block with `flatClauses` leaves, whatever the body did. -/
theorem reshaped_flatten (inner outer : List (Clause N C)) (run : Run N C α) :
    (finish outer (finish inner run)).Reshaped Ending.flatten
      (finish (flatClauses inner outer) run) := by
  cases h : run.result with
  | ok value =>
    simp only [finish, h, Run.map, Except.map]
    exact ⟨rfl, rfl, rfl⟩
  | error fault =>
    cases fault with
    | io error =>
      simp only [finish, h]
      exact ⟨rfl, rfl, rfl⟩
    | thrown error =>
      have hflat := first?_flatClauses error.kind inner outer
      cases hin : Clause.first? error.kind inner with
      | some pair =>
        -- an inner handler runs, and what it throws is offered to the outer clauses
        obtain ⟨position, clause⟩ := pair
        rw [hin, Option.map_some, Option.some_or] at hflat
        rw [finish_of_found h hin, finish_prepend, finish_map, finish_of_found h hflat]
        simp only [id_eq, Clause.within_handler_run, Run.map_map]
        refine Run.Reshaped.prepend (Run.reshaped_of_comp _ ?_) rfl
        funext ending
        cases ending <;> rfl
      | none =>
        -- the outer block meets the error that the inner one let pass
        rw [hin, Option.map_none, Option.none_or] at hflat
        have hpassed := finish_of_missing h hin
        have hthrown : (finish inner run).result = .error (.thrown error) := by rw [hpassed]
        cases hout : Clause.first? error.kind outer with
        | some pair =>
          obtain ⟨position, clause⟩ := pair
          rw [hout, Option.map_some] at hflat
          rw [finish_of_found hthrown hout, finish_of_found h hflat, hpassed]
          exact Run.Reshaped.prepend (Run.reshaped_of_comp _ rfl) (by simp [Entry.isOfBlock])
        | none =>
          rw [hout, Option.map_none] at hflat
          rw [finish_of_missing hthrown hout, finish_of_missing h hflat, hpassed]
          exact ⟨rfl, rfl, by simp [Run.ownLog, Entry.isOfBlock]⟩

/-! ## Nests -/

/-- The value of a nest of blocks: `Ending (Ending … α)`, one for each block. -/
def Nested (α : Type) : Nat → Type
  | 0 => α
  | depth + 1 => Ending (Nested α depth)

/-- The ending of a nest as that of one block. It is `caught` if any of the blocks caught. -/
def Nested.flatten : (depth : Nat) → Nested α depth → Ending α
  | 0, value => .completed value
  | depth + 1, .completed inner => flatten depth inner
  | _ + 1, .caught => .caught

/-- The `body` in a nest of blocks. The clauses are those of the outermost block first. -/
def nest (body : Action N C α) : (layers : List (List (Clause N C))) →
    Action N C (Nested α layers.length)
  | [] => body
  | outer :: inner => Block.run { body := nest body inner, clauses := outer }

/-- The clauses of a nest of blocks as those of one block, by `flatClauses` from the inside. -/
def nestClauses : List (List (Clause N C)) → List (Clause N C)
  | [] => []
  | outer :: inner => flatClauses (nestClauses inner) outer

/-- A block without clauses leaves what its body leaves, with `completed` around the value. -/
theorem reshaped_completed (run : Run N C α) :
    run.Reshaped .completed (finish ([] : List (Clause N C)) run) := by
  cases h : run.result with
  | ok value =>
    rw [finish, h]
    exact run.reshaped_map _
  | error fault =>
    cases fault with
    | io error =>
      rw [finish, h]
      exact ⟨rfl, by rw [h]; rfl, rfl⟩
    | thrown error =>
      rw [finish_of_missing h rfl]
      exact ⟨rfl, by rw [h]; rfl, by simp [Run.ownLog, Entry.isOfBlock]⟩

theorem reshaped_nest (body : Action N C α) (layers : List (List (Clause N C))) (context : C) :
    (nest body layers context).Reshaped (Nested.flatten layers.length)
      (Block.run { body, clauses := nestClauses layers } context) := by
  induction layers with
  | nil =>
    rw [run_eq_finish]
    exact reshaped_completed (body context)
  | cons outer inner ih =>
    -- the nest within becomes one block first, and then the two blocks that are left
    rw [run_eq_finish] at ih ⊢
    have hone := reshaped_finish ih outer
    have htwo := reshaped_flatten (nestClauses inner) outer (body context)
    have hrun : nest body (outer :: inner) context = finish outer (nest body inner context) :=
      run_eq_finish _ context
    rw [hrun]
    have hshape : Nested.flatten (α := α) (outer :: inner).length =
        Ending.flatten ∘ Ending.map (Nested.flatten inner.length) := by
      funext ending
      cases ending <;> rfl
    rw [hshape]
    exact hone.trans htwo

/-! ## The theorem -/

/-- **Nested blocks are one block.** A block whose body is a block leaves the context and the fault,
    or the absence of one, of a single block with the inner body: its clauses are the inner ones,
    each `within` the outer clauses, and then the outer ones. Its value is the value of the body
    where that completed, and it is `caught` where either of the two blocks caught. So it is with a
    `nest` of any depth, whose clauses are `nestClauses`. The logs differ in entries with
    `Entry.isOfBlock` only. -/
theorem nested_blocks_flatten (body : Action N C α) :
    (∀ (inner outer : List (Clause N C)) (context : C),
      (Block.run { body := Block.run { body, clauses := inner }, clauses := outer }
          context).Reshaped Ending.flatten
        (Block.run { body, clauses := inner.map (Clause.within outer) ++ outer } context)) ∧
      ∀ (layers : List (List (Clause N C))) (context : C),
        (nest body layers context).Reshaped (Nested.flatten layers.length)
          (Block.run { body, clauses := nestClauses layers } context) := by
  refine ⟨?_, reshaped_nest body⟩
  intro inner outer context
  rw [run_eq_finish, run_eq_finish]
  show (finish outer (Block.run { body, clauses := inner } context)).Reshaped _ _
  rw [run_eq_finish]
  exact reshaped_flatten inner outer (body context)

end Block

end Guarded
