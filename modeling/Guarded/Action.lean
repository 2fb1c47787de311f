import Guarded.Checked
import Guarded.Fault

set_option autoImplicit false

/-! # Actions

An `Action` runs on a context. It leaves a log, the context as it changed it, and either a value or
a `Fault`. A fault ends an action at once but undoes nothing: the changes made before it stay, and
so does the log. The log holds events and, between them, notes of whatever type the caller keeps; an
action whose notes are of an empty type leaves events only. -/

namespace Guarded

/-- An entry of the log of an action: an `event`, or a `note` of a type `N` of the caller's. -/
inductive Entry (N : Type) where
  | event (event : Event)
  | note (note : N)
  deriving DecidableEq, Repr

def Entry.event? {N : Type} : Entry N → Option Event
  | .event reported => some reported
  | .note _ => none

def Entry.note? {N : Type} : Entry N → Option N
  | .event _ => none
  | .note noted => some noted

/-- A finished action: its log, the `context` that it left, and how it ended. -/
structure Run (N C α : Type) where
  log : List (Entry N)
  context : C
  result : Except Fault α

/-- The events of `run.log`, in order, without the notes. -/
def Run.events {N C α : Type} (run : Run N C α) : List Event :=
  run.log.filterMap Entry.event?

/-- If `run.log` is a prefix of `longer.log`, so are the events of the two runs. -/
theorem Run.events_prefix {N C α β : Type} {run : Run N C α} {longer : Run N C β}
    (h : run.log <+: longer.log) : run.events <+: longer.events :=
  h.filterMap Entry.event?

/-- The run with `log` before its own log; context and result stay. -/
def Run.prepend {N C α : Type} (run : Run N C α) (log : List (Entry N)) : Run N C α :=
  { run with log := log ++ run.log }

/-- The run with `f value` for its `value`, if it has one. -/
def Run.map {N C α β : Type} (run : Run N C α) (f : α → β) : Run N C β :=
  ⟨run.log, run.context, run.result.map f⟩

@[simp] theorem Run.map_map {N C α β γ : Type} (run : Run N C α) (f : α → β) (g : β → γ) :
    (run.map f).map g = run.map (g ∘ f) := by
  simp only [map]
  cases run.result <;> rfl

@[simp] theorem Run.map_prepend {N C α β : Type} (run : Run N C α) (log : List (Entry N))
    (f : α → β) : (run.prepend log).map f = (run.map f).prepend log := rfl

/-- A computation on a context of type `C` that may leave notes of type `N`. -/
def Action (N C α : Type) : Type := C → Run N C α

namespace Action

variable {N C α β : Type}

/-! ## Building -/

/-- Run `next` on the value and in the context that `first` left. A fault of `first` is the fault of
    both, and `next` does not start. This is the `>>=` of `Action`. -/
def andThen (first : Action N C α) (next : α → Action N C β) : Action N C β := fun context =>
  let run := first context
  match run.result with
  | .ok value =>
    let rest := next value run.context
    ⟨run.log ++ rest.log, rest.context, rest.result⟩
  | .error fault => ⟨run.log, run.context, .error fault⟩

instance : Monad (Action N C) where
  pure value := fun context => ⟨[], context, .ok value⟩
  bind := andThen

def fail (fault : Fault) : Action N C α := fun context => ⟨[], context, .error fault⟩

def report (event : Event) : Action N C Unit := fun context => ⟨[.event event], context, .ok ()⟩

def look : Action N C C := fun context => ⟨[], context, .ok context⟩

def change (f : C → C) : Action N C Unit := fun context => ⟨[], f context, .ok ()⟩

/-- A `Checked` computation as an action. It leaves the context alone; the error that it raises
    becomes `Fault.thrown`. -/
def ofChecked (computation : Checked α) : Action N C α := fun context =>
  ⟨computation.events.map .event, context, computation.result.mapError .thrown⟩

/-- Run `first` and, if it ends with `Fault.thrown error`, run `handle error` in the context that
    `first` left. A `Fault.io` passes. -/
def recover (first : Action N C α) (handle : ArithError → Action N C α) : Action N C α :=
  fun context =>
    let run := first context
    match run.result with
    | .error (.thrown error) =>
      let rest := handle error run.context
      ⟨run.log ++ rest.log, rest.context, rest.result⟩
    | _ => run

/-- Run `action` and then, however it ended, log `note result context` of its end. -/
def noting (action : Action N C α) (note : Except Fault α → C → N) : Action N C α :=
  fun context =>
    let run := action context
    { run with log := run.log ++ [.note (note run.result run.context)] }

/-! ## What each operation leaves -/

@[simp] theorem pure_run (value : α) (context : C) :
    (pure value : Action N C α) context = ⟨[], context, .ok value⟩ := rfl

theorem bind_run (first : Action N C α) (next : α → Action N C β) (context : C) :
    (first >>= next) context =
      match (first context).result with
      | .ok value =>
        ⟨(first context).log ++ (next value (first context).context).log,
          (next value (first context).context).context,
          (next value (first context).context).result⟩
      | .error fault => ⟨(first context).log, (first context).context, .error fault⟩ := rfl

theorem bind_of_ok {first : Action N C α} {context : C} {value : α}
    (h : (first context).result = .ok value) (next : α → Action N C β) :
    (first >>= next) context =
      ⟨(first context).log ++ (next value (first context).context).log,
        (next value (first context).context).context,
        (next value (first context).context).result⟩ := by
  rw [bind_run, h]

theorem bind_of_error {first : Action N C α} {context : C} {fault : Fault}
    (h : (first context).result = .error fault) (next : α → Action N C β) :
    (first >>= next) context = ⟨(first context).log, (first context).context, .error fault⟩ := by
  rw [bind_run, h]

/-- A fault of `first >>= next` is a fault of `first`, or of `next` on the value of `first`. -/
theorem fault_of_bind {first : Action N C α} {next : α → Action N C β} {context : C} {fault : Fault}
    (h : ((first >>= next) context).result = .error fault) :
    (first context).result = .error fault ∨
      ∃ value, (first context).result = .ok value ∧
        (next value (first context).context).result = .error fault := by
  cases hf : (first context).result with
  | ok value =>
    rw [bind_of_ok hf] at h
    exact .inr ⟨value, rfl, h⟩
  | error other =>
    rw [bind_of_error hf] at h
    exact .inl (congrArg Except.error (Except.error.inj h))

/-- Doing nothing, `pure`, is neutral on both sides of `>>=`, and `>>=` is associative. -/
instance : LawfulMonad (Action N C) := by
  refine LawfulMonad.mk' _ ?_ ?_ ?_
  · intro α action
    funext context
    show (action >>= fun value => pure value) context = action context
    cases h : (action context).result with
    | ok value => rw [bind_of_ok h, pure_run, List.append_nil, ← h]
    | error fault => rw [bind_of_error h, ← h]
  · intro α β value next
    funext context
    rw [bind_of_ok rfl]
    rfl
  · intro α β γ first second third
    funext context
    cases h : (first context).result with
    | error fault =>
      rw [bind_of_error h, bind_of_error (by rw [bind_of_error h]), bind_of_error h]
    | ok value =>
      rw [bind_of_ok h]
      cases h' : (second value (first context).context).result with
      | error fault => rw [bind_of_error h', bind_of_error (by rw [bind_of_ok h, h']), bind_of_ok h]
      | ok other =>
        rw [bind_of_ok h', bind_of_ok (by rw [bind_of_ok h, h']), bind_of_ok h, List.append_assoc]

@[simp] theorem fail_run (fault : Fault) (context : C) :
    (fail fault : Action N C α) context = ⟨[], context, .error fault⟩ := rfl

@[simp] theorem report_run (event : Event) (context : C) :
    (report event : Action N C Unit) context = ⟨[.event event], context, .ok ()⟩ := rfl

@[simp] theorem look_run (context : C) :
    (look : Action N C C) context = ⟨[], context, .ok context⟩ := rfl

@[simp] theorem change_run (f : C → C) (context : C) :
    (change f : Action N C Unit) context = ⟨[], f context, .ok ()⟩ := rfl

@[simp] theorem ofChecked_run (computation : Checked α) (context : C) :
    (ofChecked computation : Action N C α) context =
      ⟨computation.events.map .event, context, computation.result.mapError .thrown⟩ := rfl

@[simp] theorem noting_run (action : Action N C α) (note : Except Fault α → C → N)
    (context : C) :
    action.noting note context =
      ⟨(action context).log ++ [.note (note (action context).result (action context).context)],
        (action context).context, (action context).result⟩ := rfl

theorem recover_of_ok {first : Action N C α} {context : C} {value : α}
    (h : (first context).result = .ok value) (handle : ArithError → Action N C α) :
    first.recover handle context = first context := by
  simp [recover, h]

/-- A `Fault.io` is not offered to `handle`. -/
theorem recover_of_io {first : Action N C α} {context : C} {error : IoError}
    (h : (first context).result = .error (.io error)) (handle : ArithError → Action N C α) :
    first.recover handle context = first context := by
  simp [recover, h]

theorem recover_of_thrown {first : Action N C α} {context : C} {error : ArithError}
    (h : (first context).result = .error (.thrown error)) (handle : ArithError → Action N C α) :
    first.recover handle context =
      ⟨(first context).log ++ (handle error (first context).context).log,
        (handle error (first context).context).context,
        (handle error (first context).context).result⟩ := by
  simp [recover, h]

end Action

end Guarded
