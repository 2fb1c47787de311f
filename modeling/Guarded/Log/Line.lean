import Guarded.Event
import Guarded.Text.Terminal

set_option autoImplicit false

/-! # Lines of a log

A record is written on one line: the time, the level, the target, the message, and the fields.
`line` is the layout. In `Style.coloured` the parts of the line stand between control sequences, and
nothing else differs. `LogRecord.IsPlain` says of which records the layout is known. -/

namespace Guarded

/-! ## Plain texts -/

/-- A text that does not end its line and does not begin a control sequence. -/
structure Plain (text : String) : Prop where
  newline : '\n' ∉ text.toList
  escape : '\x1b' ∉ text.toList

instance (text : String) : Decidable (Plain text) :=
  decidable_of_iff ('\n' ∉ text.toList ∧ '\x1b' ∉ text.toList)
    ⟨fun h => ⟨h.1, h.2⟩, fun h => ⟨h.newline, h.escape⟩⟩

/-- A record all of whose texts are `Plain`. -/
structure LogRecord.IsPlain (record : LogRecord) : Prop where
  target : Plain record.target
  message : Plain record.message
  fields : ∀ field ∈ record.fields, Plain field.1 ∧ Plain field.2.render

namespace Log

open Guarded.Text.Terminal (Style Accent)

/-! ## The layout -/

def levelColour : Level → Accent
  | .error => .red
  | .warn => .yellow
  | .info => .green
  | .debug => .blue
  | .trace => .purple

/-- The name of a level, to the right of a field of five: ` INFO`, `ERROR`. -/
def levelField (level : Level) : String :=
  String.ofList (List.replicate (5 - level.name.length) ' ') ++ level.name

/-- A field of a record as ` name=value`, with the blank that separates it from what stands before
    it. -/
def fieldText (style : Style) (field : String × FieldValue) : String :=
  " " ++ style.accented [.italic] field.1 ++ style.accented [.dim] "=" ++ field.2.render

/-- The line of a record, with its end: `time LEVEL target: message` and then `name=value` for each
    field, all of it with blanks between. -/
def line (style : Style) (time : String) (record : LogRecord) : String :=
  style.accented [.dim] time ++ " "
    ++ style.accented [levelColour record.level] (levelField record.level) ++ " "
    ++ style.accented [.dim] record.target ++ style.accented [.dim] ":" ++ " " ++ record.message
    ++ String.join (record.fields.map (fieldText style)) ++ "\n"

end Log

end Guarded
