set_option autoImplicit false

/-! # Texts for a terminal

A part of a text is set off by control sequences before and after it, as by `accented`. Where
control sequences are not wanted `strip` takes them out of the finished text, and with them whatever
a terminal would not show: a text may bring control sequences of its own, whole or in part. -/

namespace Guarded.Text.Terminal

/-! ## Setting off parts of a text -/

/-- Whether control sequences are wanted. -/
inductive Style where
  | plain
  | coloured
  deriving DecidableEq, Repr, Inhabited

inductive Accent where
  | bold
  | dim
  | italic
  | underlined
  | red
  | green
  | yellow
  | blue
  | purple
  deriving DecidableEq, Repr, Inhabited

def Accent.parameter : Accent → String
  | .bold => "1"
  | .dim => "2"
  | .italic => "3"
  | .underlined => "4"
  | .red => "31"
  | .green => "32"
  | .yellow => "33"
  | .blue => "34"
  | .purple => "35"

/-- The control sequence `ESC [ parameter m`. -/
def control (parameter : String) : String := "\x1b[" ++ parameter ++ "m"

/-- A part of a text between the control sequences that set it off; `control "0"` ends them all. -/
def accented (accents : List Accent) (text : String) : String :=
  String.join (accents.map (control ·.parameter)) ++ text ++ control "0"

/-- A part of a text, set off in the style `coloured` only. -/
def Style.accented (style : Style) (accents : List Accent) (text : String) : String :=
  match style with
  | .plain => text
  | .coloured => Terminal.accented accents text

/-! ## What a terminal shows -/

/-- What a terminal is in the middle of. Only in `ground` does it show characters other than
    layout. -/
inductive Mode where
  /-- Nothing: characters are shown. -/
  | ground
  /-- A sequence of which only the escape has come. -/
  | escape
  /-- A sequence of two or more characters after the escape. -/
  | escapeIntermediate
  /-- A control sequence. -/
  | control
  /-- The beginning of a device control string. -/
  | deviceEntry
  /-- The parameters of a device control string. -/
  | deviceParameter
  /-- What follows the parameters of a device control string. -/
  | deviceIntermediate
  /-- The characters of a string that is not shown. -/
  | string
  /-- A command to the system around the terminal. -/
  | command
  deriving DecidableEq, Repr, Inhabited

/-- Whether a character moves the place of writing without being a control of the terminal. -/
def isLayout (c : Char) : Bool := c = '\t' || c = '\n' || c = '\x0c' || c = '\r'

/-- Whether a terminal in `ground` shows a character. Of the first 128 these are the printing
    characters and the layout. -/
def isShown (c : Char) : Bool := isLayout c || (0x20 ≤ c.toNat && c.toNat ≠ 0x7f)

/-- Whether a code point lies between two others, both included. -/
def within (low high : Nat) (c : Char) : Bool := low ≤ c.toNat && c.toNat ≤ high

/-- Whether one of the bytes that write a character ends a string; this is the byte `0x9c`. -/
def endsString (c : Char) : Bool := (String.utf8EncodeChar c).contains 0x9c

/-- What a terminal is in the middle of after a character, and whether it shows the character.
    Cancelling ends every sequence and `'\x1b'` begins one; layout within a sequence is shown and
    ends it, but within a string it is part of the string. -/
def Mode.step (mode : Mode) (c : Char) : Mode × Bool :=
  if c = '\x18' || c = '\x1a' then (.ground, false)
  else if c = '\x1b' then (.escape, false)
  else
    match mode with
    | .ground => (.ground, isShown c)
    | .escape =>
      if isLayout c then (.ground, true)
      else if within 0x20 0x2f c then (.escapeIntermediate, false)
      else if c = '[' then (.control, false)
      else if c = ']' then (.command, false)
      else if c = 'P' then (.deviceEntry, false)
      else if c = 'X' || c = '^' || c = '_' then (.string, false)
      else if within 0x30 0x7e c then (.ground, false)
      else (.escape, false)
    | .escapeIntermediate =>
      if isLayout c then (.ground, true)
      else if within 0x30 0x7e c then (.ground, false)
      else (.escapeIntermediate, false)
    | .control =>
      if isLayout c then (.ground, true)
      else if within 0x40 0x7e c then (.ground, false)
      else (.control, false)
    | .deviceEntry =>
      if within 0x20 0x2f c then (.deviceIntermediate, false)
      else if within 0x30 0x3f c then (.deviceParameter, false)
      else if within 0x40 0x7e c then (.string, false)
      else (.deviceEntry, false)
    | .deviceParameter =>
      if within 0x20 0x2f c then (.deviceIntermediate, false)
      else if within 0x3c 0x7e c then (.string, false)
      else (.deviceParameter, false)
    | .deviceIntermediate =>
      if within 0x30 0x7e c then (.string, false)
      else (.deviceIntermediate, false)
    | .string => (if endsString c then .ground else .string, false)
    | .command => (if c = '\x07' then .ground else .command, false)

/-- The characters that a terminal shows, of those that come to it in `mode`. -/
def shown (mode : Mode) : List Char → List Char
  | [] => []
  | c :: rest =>
    let (next, visible) := mode.step c
    if visible then c :: shown next rest else shown next rest

/-- A text without control sequences, as a terminal in `ground` shows it. -/
def strip (text : String) : String := String.ofList (shown .ground text.toList)

/-- A finished text in a style: as it is, or after `strip`. -/
def Style.finish (style : Style) (text : String) : String :=
  match style with
  | .plain => strip text
  | .coloured => text

end Guarded.Text.Terminal
