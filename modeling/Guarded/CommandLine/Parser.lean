import Guarded.CommandLine.Environment

set_option autoImplicit false

/-! # Reading arguments

The program hands its arguments to a library, together with a `Command` that declares no argument of
its own. The library is a parameter, a `Parser`; what the program relies on is `Parser.Documented`.
-/

namespace Guarded.CommandLine

/-! ## Commands and flags -/

/-- A command that declares no arguments: what its users see of it. -/
structure Command where
  name : String
  version : String
  about : String
  deriving DecidableEq, Repr, Inhabited

/-- The flags that every command with a `version` has. -/
inductive Flag where
  | help
  | version
  deriving DecidableEq, Repr, Inhabited

namespace Flag

def longName : Flag → String
  | .help => "help"
  | .version => "version"

def shortName : Flag → Char
  | .help => 'h'
  | .version => 'V'

/-- The long name with its dashes: `--help`, `--version`. -/
def dashed (flag : Flag) : String := "--" ++ flag.longName

/-- Whether an argument asks for a flag: it is `flag.dashed`, or a single dash and then
    `flag.shortName` before any others. -/
def IsAskedBy (flag : Flag) (argument : String) : Prop :=
  argument = flag.dashed ∨ ∃ joined, argument.toList = '-' :: flag.shortName :: joined

end Flag

/-! ## The library -/

/-- Why reading arguments ends the program. Only `display` is no complaint. -/
inductive ErrorKind where
  /-- A flag is asked for. -/
  | display (flag : Flag)
  /-- An argument is not declared. -/
  | unknownArgument
  /-- A flag is given a value. -/
  | tooManyValues
  deriving DecidableEq, Repr, Inhabited

/-- Whether there is something to show and nothing is wrong. -/
def ErrorKind.isDisplay : ErrorKind → Bool
  | .display _ => true
  | _ => false

/-- The end of a program that does not get past its arguments: the `kind`, and a text that may hold
    the control sequences of a terminal. -/
structure ParseError where
  kind : ErrorKind
  text : String
  deriving DecidableEq, Repr, Inhabited

/-- A library that reads arguments. -/
structure Parser where
  /-- Read arguments. There is nothing to find in them, so the result is `()` or the end. -/
  parse : Command → List String → Except ParseError Unit
  /-- What is printed of the text of a `ParseError` in an environment. -/
  print : Environment → String → String
  /-- Whether an error is printed to the standard error and not to the standard output. -/
  usesStderr : ErrorKind → Bool
  exitCode : ErrorKind → Nat

/-- What is documented of a `Parser`. -/
structure Parser.Documented (parser : Parser) : Prop where
  /-- No argument is required. -/
  parse_nil (command : Command) : parser.parse command [] = .ok ()
  /-- A `--` is no argument; it says that no flags follow. -/
  parse_dashes (command : Command) : parser.parse command ["--"] = .ok ()
  /-- Arguments are read from left to right, up to the first that ends the program; there may be
      `more`. -/
  parse_append {command : Command} {arguments : List String} {error : ParseError}
    (h : parser.parse command arguments = .error error) (more : List String) :
    parser.parse command (arguments ++ more) = .error error
  /-- What follows a `--` is a value, and none is declared. -/
  parse_value (command : Command) (value : String) :
    ∃ text, parser.parse command ["--", value] = .error ⟨.unknownArgument, text⟩
  /-- A flag that is asked for, by `Flag.IsAskedBy`, is displayed. -/
  parse_flag (command : Command) {flag : Flag} {argument : String}
    (asked : flag.IsAskedBy argument) :
    ∃ text, parser.parse command [argument] = .error ⟨.display flag, text⟩
  /-- Every other argument but `--` is an error: it is not declared, or it is a flag with a
      value. -/
  parse_other (command : Command) {argument : String} (ne : argument ≠ "--")
    (other : ∀ flag : Flag, ¬ flag.IsAskedBy argument) :
    ∃ error, parser.parse command [argument] = .error error ∧ error.kind.isDisplay = false
  /-- Displays go to the standard output and end the program with success, errors go to the standard
      error and end it with `2`. -/
  usesStderr_eq (kind : ErrorKind) : parser.usesStderr kind = !kind.isDisplay
  exitCode_eq (kind : ErrorKind) : parser.exitCode kind = if kind.isDisplay then 0 else 2
  /-- The streams are no terminals. Then the environment makes a difference to what is printed only
      if `CLICOLOR_FORCE` is set. -/
  print_unforced {environment environment' : Environment}
    (h : isSet environment "CLICOLOR_FORCE" = false)
    (h' : isSet environment' "CLICOLOR_FORCE" = false) :
    parser.print environment = parser.print environment'

end Guarded.CommandLine
