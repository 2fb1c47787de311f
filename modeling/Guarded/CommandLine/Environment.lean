set_option autoImplicit false

/-! # The environment of a process

Variables with their values, as a process is handed them. A variable may be set to `""`, which is
something else than not being set; `isSet` takes the two for the same. -/

namespace Guarded.CommandLine

/-- The environment: variables with their values. `List.lookup` finds the value of a variable. -/
abbrev Environment : Type := List (String × String)

/-- Whether a variable has a value other than `""`. -/
def isSet (environment : Environment) (name : String) : Bool :=
  match environment.lookup name with
  | some value => !value.isEmpty
  | none => false

end Guarded.CommandLine
