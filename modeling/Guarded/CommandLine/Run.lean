import Guarded.Builtin.Arguments
import Guarded.Builtin.Filter
import Guarded.Builtin.Variables
import Guarded.CommandLine.Program

set_option autoImplicit false

/-! # Running the command line

The program on libraries that can be run, `Libraries.builtin`. -/

namespace Guarded

namespace CommandLine

/-- A `Reporter` without traces of calls in its reports. -/
def Reporter.builtin : Reporter where
  report _ message causes :=
    match causes with
    | [cause] => message ++ "\n\nCaused by:\n    " ++ cause
    | causes => numberedReport message causes

/-- The `Libraries` that can be run. -/
def Libraries.builtin : Libraries where
  parser := .builtin
  configuration := .builtin
  subscriber := .builtin
  reporter := .builtin

/-- The answer of the program, by `Libraries.builtin`. -/
def run (arguments : List String) (environment : Environment) (sink : Sink) (time : String) :
    Answer :=
  Libraries.builtin.run arguments environment sink time

end CommandLine

/-- Load the settings, by `Configuration.builtin`. -/
def Settings.load (environment : CommandLine.Environment) :
    Except Settings.ConfigError Settings :=
  Settings.Configuration.builtin.load environment

end Guarded
