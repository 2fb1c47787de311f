import Guarded.Event

set_option autoImplicit false

/-! # Checked computations

A `Checked` computation may report events and either has a value or raises an `ArithError`. It has
no state, so evaluating one changes nothing; what it raises ends it at once, and what follows is not
evaluated. -/

namespace Guarded

/-- A finished checked computation: the `events` it reported, in order, and how it ended. -/
structure Checked (α : Type) where
  events : List Event
  result : Except ArithError α

namespace Checked

variable {α β : Type}

/-! ## Building -/

def raise (error : ArithError) : Checked α := ⟨[], .error error⟩

def report (event : Event) : Checked Unit := ⟨[event], .ok ()⟩

/-- Run `next` on the value of `first`. An error of `first` is the error of both, and `next` does
    not take place. This is the `>>=` of `Checked`. -/
def andThen (first : Checked α) (next : α → Checked β) : Checked β :=
  match first.result with
  | .ok value =>
    let rest := next value
    ⟨first.events ++ rest.events, rest.result⟩
  | .error error => ⟨first.events, .error error⟩

instance : Monad Checked where
  pure value := ⟨[], .ok value⟩
  bind := andThen

/-! ## What each operation reports and yields -/

@[simp] theorem events_pure (value : α) : (pure value : Checked α).events = [] := rfl

@[simp] theorem result_pure (value : α) : (pure value : Checked α).result = .ok value := rfl

@[simp] theorem events_raise (error : ArithError) : (raise error : Checked α).events = [] := rfl

@[simp] theorem result_raise (error : ArithError) :
    (raise error : Checked α).result = .error error := rfl

theorem bind_of_ok {first : Checked α} {value : α} (h : first.result = .ok value)
    (next : α → Checked β) :
    first >>= next = ⟨first.events ++ (next value).events, (next value).result⟩ := by
  show andThen first next = _
  simp [andThen, h]

theorem bind_of_error {first : Checked α} {error : ArithError} (h : first.result = .error error)
    (next : α → Checked β) : first >>= next = ⟨first.events, .error error⟩ := by
  show andThen first next = _
  simp [andThen, h]

/-- An error of `first >>= next` is an error of `first`, or of `next` on some value. -/
theorem error_of_bind {first : Checked α} {next : α → Checked β} {error : ArithError}
    (h : (first >>= next).result = .error error) :
    first.result = .error error ∨ ∃ value, (next value).result = .error error := by
  cases hf : first.result with
  | ok value =>
    rw [bind_of_ok hf] at h
    exact .inr ⟨value, h⟩
  | error other =>
    rw [bind_of_error hf] at h
    exact .inl (congrArg Except.error (Except.error.inj h))

end Checked

end Guarded
