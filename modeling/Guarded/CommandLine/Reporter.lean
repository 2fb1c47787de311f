import Guarded.CommandLine.Environment

set_option autoImplicit false

/-! # Reporting errors

The program ends with an error that has a message of its own and a chain of causes. A library turns
it into the text of a report. The library is a parameter, a `Reporter`; what is relied on is
`Reporter.Documented`. -/

namespace Guarded.CommandLine

/-- A library that reports errors. -/
structure Reporter where
  /-- The report of an error in an environment, by its `message` and the messages of its
      `causes`. -/
  report : Environment → (message : String) → (causes : List String) → String

/-- Whether an environment sets neither variable that asks for a trace of calls in a report. -/
def Untraced (environment : Environment) : Prop :=
  environment.lookup "RUST_BACKTRACE" = none ∧ environment.lookup "RUST_LIB_BACKTRACE" = none

instance (environment : Environment) : Decidable (Untraced environment) :=
  inferInstanceAs (Decidable (_ ∧ _))

/-- The report of an error with several causes, each on a line `number: cause`. -/
def numberedReport (message : String) (causes : List String) : String :=
  message ++ "\n\nCaused by:" ++ String.join (causes.zipIdx.map fun (cause, number) =>
    "\n    " ++ toString number ++ ": " ++ cause)

/-- What is documented of a `Reporter`. -/
structure Reporter.Documented (reporter : Reporter) : Prop where
  /-- Without traces the causes follow the message, two or more of them as in `numberedReport`. The
      numbers stand in a column that is wide enough for ten lines. -/
  report_untraced {environment : Environment} (untraced : Untraced environment) (message : String)
    {causes : List String} (several : 2 ≤ causes.length) (few : causes.length ≤ 10)
    (single : ∀ cause ∈ causes, '\n' ∉ cause.toList) :
    reporter.report environment message causes = numberedReport message causes
  /-- Of the environment, only `RUST_BACKTRACE` and `RUST_LIB_BACKTRACE` matter. -/
  report_congr {environment environment' : Environment}
    (own : environment.lookup "RUST_BACKTRACE" = environment'.lookup "RUST_BACKTRACE")
    (library : environment.lookup "RUST_LIB_BACKTRACE" =
      environment'.lookup "RUST_LIB_BACKTRACE") :
    reporter.report environment = reporter.report environment'
  /-- Nothing is coloured: there is no `\x1b` where there was none. -/
  report_uncoloured (environment : Environment) {message : String} {causes : List String}
    (hmessage : '\x1b' ∉ message.toList) (hcauses : ∀ cause ∈ causes, '\x1b' ∉ cause.toList) :
    '\x1b' ∉ (reporter.report environment message causes).toList

end Guarded.CommandLine
