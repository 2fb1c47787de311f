import Guarded.CommandLine.Environment
import Guarded.Log.Line

set_option autoImplicit false

/-! # Keeping a log through a library

The program writes records; a library decides by a filter which of them are kept, and writes a line
for each. The library is a parameter, a `Subscriber`; what is relied on is `Subscriber.Documented`.
Apart from what `Subscriber.Documented` says a filter may be anything, so it may ask for the fields
of a record, or for spans. The program opens no spans. -/

namespace Guarded

/-- What a filter is told of a record. The message counts as a field. -/
structure LogRecord.Metadata where
  level : Level
  target : String
  fields : List String
  deriving DecidableEq, Repr, Inhabited

/-- The `Metadata` of a record. -/
def LogRecord.metadata (record : LogRecord) : LogRecord.Metadata where
  level := record.level
  target := record.target
  fields := "message" :: record.fields.map Prod.fst

namespace Log

open CommandLine (Environment isSet)
open Text.Terminal (Style)

/-- The level as it is written in a filter, in lower case. -/
def levelName : Level → String
  | .error => "error"
  | .warn => "warn"
  | .info => "info"
  | .debug => "debug"
  | .trace => "trace"

/-- A library that keeps a log. `enables` and `format` are called for each record. -/
structure Subscriber where
  /-- A log filter. -/
  Filter : Type
  /-- Read a filter; `none` is for a text that is not one. -/
  read? : String → Option Filter
  /-- Read a filter; what is none of a filter in the text is left out. -/
  readLossy : String → Filter
  /-- The filter that an environment gives, if it does so. -/
  ofEnvironment? : Environment → Option Filter
  /-- Whether a filter lets a record through. -/
  enables : Filter → LogRecord.Metadata → Bool
  /-- How lines look in an environment. -/
  style : Environment → Style
  /-- The line of a record that is let through. -/
  format : Style → (time : String) → LogRecord → String

/-- What is documented of a `Subscriber`. -/
structure Subscriber.Documented (subscriber : Subscriber) : Prop where
  /-- The environment gives a filter through the variable `RUST_LOG`, if its value is one. -/
  ofEnvironment?_eq (environment : Environment) :
    subscriber.ofEnvironment? environment =
      (environment.lookup "RUST_LOG").bind subscriber.read?
  /-- Of a text that `read?` accepts nothing is left out. -/
  readLossy_of_read? {text : String} {filter : subscriber.Filter}
    (h : subscriber.read? text = some filter) : subscriber.readLossy text = filter
  /-- A level alone is a filter. It lets everything through whose `rank` is at most that of the
      level. -/
  read?_levelName (level : Level) : ∃ filter, subscriber.read? (levelName level) = some filter ∧
    ∀ metadata, subscriber.enables filter metadata = decide (metadata.level.rank ≤ level.rank)
  /-- Lines are coloured unless `NO_COLOR` is set. -/
  style_eq (environment : Environment) :
    subscriber.style environment = if isSet environment "NO_COLOR" then .plain else .coloured
  /-- The layout of a line, for a record that `IsPlain`, is `Log.line`. -/
  format_eq (style : Style) {time : String} {record : LogRecord} (htime : Plain time)
    (h : record.IsPlain) : subscriber.format style time record = line style time record

end Log

end Guarded
