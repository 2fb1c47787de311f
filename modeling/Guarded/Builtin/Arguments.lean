import Guarded.CommandLine.Parser
import Guarded.Text.Similarity
import Guarded.Text.Terminal

set_option autoImplicit false

/-! # A reader of arguments

`Parser.builtin` is a `Parser` that can be run. A `Command` has two flags, each with a long and a
short name, and no other arguments. Reading stops at the first argument that decides: a flag is
obeyed, everything else is an error. A double dash alone says that no flags follow, and then
whatever follows is an error. -/

namespace Guarded.CommandLine

/-! ## Finding flags -/

namespace Flag

/-- The flags, in the order in which help lists them. -/
def all : List Flag := [.help, .version]

def ofLong? (name : List Char) : Option Flag := all.find? (·.longName.toList = name)

def ofShort? (name : Char) : Option Flag := all.find? (·.shortName = name)

/-- The similarity above which a name is taken for a misspelt one. -/
def threshold : Float := 0.7

/-- Of two flags, the one whose `longName` is more similar to `name`, and `next` if both are equally
    similar. At or below `threshold` there is no similarity. -/
def closer (name : List Char) (best : Option Flag) (next : Flag) : Option Flag :=
  let similarity (flag : Flag) : Float := Text.Similarity.ratio name flag.longName.toList
  if similarity next > threshold then
    match best with
    | some flag => if similarity flag > similarity next then best else some next
    | none => some next
  else best

/-- The flag that `name` may have been meant for. -/
def similarTo? (name : List Char) : Option Flag := all.foldl (closer name) none

end Flag

/-! ## Reading arguments -/

/-- Why arguments are refused. An unexpected flag may come with a `suggestion`. -/
inductive ArgumentError where
  /-- No flag has this name, and there is nothing else to pass. -/
  | unexpected (argument : List Char) (suggestion : Option Flag)
  /-- A flag takes no value. -/
  | valueGiven (flag : Flag) (value : List Char)
  deriving DecidableEq, Repr, Inhabited

/-- What the arguments ask for. Only `demonstrate` lets the program go on. -/
inductive Request where
  | obey (flag : Flag)
  | demonstrate
  | refuse (error : ArgumentError)
  deriving DecidableEq, Repr, Inhabited

namespace Request

/-- A long flag, without its dashes; a `value` may follow after `=`, and is refused. -/
def ofLong (text : List Char) : Request :=
  let name := text.takeWhile (· ≠ '=')
  match Flag.ofLong? name, text.dropWhile (· ≠ '=') with
  | some flag, [] => .obey flag
  | some flag, _ :: value => .refuse (.valueGiven flag value)
  | none, _ => .refuse (.unexpected ('-' :: '-' :: name) (Flag.similarTo? name))

/-- One argument, before a `--`. Short flags may be joined, as in `-hV`, and the first one
    decides. -/
def ofArgument : List Char → Request
  | '-' :: '-' :: name => ofLong name
  | ['-'] => .refuse (.unexpected ['-'] none)
  | '-' :: c :: _ =>
    match Flag.ofShort? c with
    | some flag => .obey flag
    | none => .refuse (.unexpected ['-', c] none)
  | argument => .refuse (.unexpected argument none)

/-- All arguments. Behind a `--` every argument is refused, a flag as well. -/
def ofArguments : List String → Request
  | [] => .demonstrate
  | first :: rest =>
    if first = "--" then
      match rest with
      | [] => .demonstrate
      | second :: _ => .refuse (.unexpected second.toList none)
    else ofArgument first.toList

end Request

/-! ## Texts

The texts hold the control sequences of a terminal; whoever writes them takes the sequences out if
they are not wanted. -/

open Guarded.Text.Terminal (accented)

/-- A text that is to be typed as it stands. -/
def literal (text : String) : String := accented [.bold] text

/-- A heading. -/
def heading (text : String) : String := accented [.bold, .underlined] text

/-- The line `Usage: name --flag` that tells how a command is called. -/
def Command.usage (command : Command) (flag : Option Flag) : String :=
  let call := match flag with
    | some flag => " " ++ literal flag.dashed
    | none => ""
  heading "Usage:" ++ " " ++ literal command.name ++ call ++ "\n"

/-- The line of a flag in the list of flags. The `description` begins in a column of its own. -/
def Flag.line (flag : Flag) (description : String) : String :=
  let padding := String.ofList (List.replicate (9 - flag.longName.length) ' ')
  "  " ++ literal (String.ofList ['-', flag.shortName]) ++ ", " ++ literal flag.dashed ++ padding
    ++ description ++ "\n"

/-- What a flag asks to print: the `about` text and the flags for `--help`, one line for
    `--version`. -/
def Flag.text (command : Command) : Flag → String
  | .help =>
    command.about ++ "\n\n" ++ command.usage none ++ "\n" ++ heading "Options:" ++ "\n"
      ++ Flag.help.line "Print help" ++ Flag.version.line "Print version"
  | .version => command.name ++ " " ++ command.version ++ "\n"

/-- An argument or a value that is refused. -/
def refused (text : List Char) : String := accented [.yellow] (String.ofList text)

/-- What follows every complaint: how the command is called, and `--help` to learn more. -/
def Command.advice (command : Command) (flag : Option Flag) : String :=
  "\n" ++ command.usage flag ++ "\nFor more information, try '" ++ literal Flag.help.dashed
    ++ "'.\n"

def ArgumentError.kind : ArgumentError → ErrorKind
  | .unexpected .. => .unknownArgument
  | .valueGiven .. => .tooManyValues

/-- The text of an error: what is wrong, a `suggestion` if there is one, and advice. -/
def ArgumentError.message (command : Command) (error : ArgumentError) : String :=
  accented [.bold, .red] "error:" ++ " " ++
    match error with
    | .unexpected argument suggestion =>
      let tip := match suggestion with
        | some flag =>
          "\n  " ++ accented [.green] "tip:" ++ " a similar argument exists: '"
            ++ accented [.green] flag.dashed ++ "'\n"
        | none => ""
      "unexpected argument '" ++ refused argument ++ "' found\n" ++ tip
        ++ command.advice suggestion
    | .valueGiven flag value =>
      "unexpected value '" ++ refused value ++ "' for '" ++ literal flag.dashed
        ++ "' found; no more were expected\n" ++ command.advice (some flag)

/-! ## The library -/

/-- What a request is to the program that made the command: `demonstrate` is `()`, all else ends
    it. -/
def Request.result (command : Command) : Request → Except ParseError Unit
  | .obey flag => .error ⟨.display flag, flag.text command⟩
  | .demonstrate => .ok ()
  | .refuse error => .error ⟨error.kind, error.message command⟩

/-- The style of what is said about arguments. The streams are not taken for a terminal, so there is
    colour only where `CLICOLOR_FORCE` asks for it and `NO_COLOR` does not forbid it. -/
def textStyle (environment : Environment) : Text.Terminal.Style :=
  if isSet environment "CLICOLOR_FORCE" && !isSet environment "NO_COLOR" then .coloured else .plain

/-- A `Parser` that reads arguments by `Request.ofArguments`. -/
def Parser.builtin : Parser where
  parse command arguments := (Request.ofArguments arguments).result command
  print environment text := (textStyle environment).finish text
  usesStderr kind := !kind.isDisplay
  exitCode kind := if kind.isDisplay then 0 else 2

end Guarded.CommandLine
