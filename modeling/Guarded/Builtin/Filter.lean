import Guarded.Log.Subscriber
import Guarded.Text.Alphanumeric
import Guarded.Text.Blank

set_option autoImplicit false

/-! # A log that can be kept

`Subscriber.builtin` is a `Subscriber` that can be run. A filter is written as parts between commas.
A part gives a verbosity to the targets that begin with a text, or to all targets; for a target, the
part with the longest text decides. There are no parts here that ask for spans or fields. -/

namespace Guarded.Log

/-! ## Verbosity -/

/-- How much of the log is shown: nothing, or everything as grave as `level`. -/
inductive Verbosity where
  | off
  | upTo (level : Level)
  deriving DecidableEq, Repr, Inhabited

namespace Verbosity

/-- Whether a level is shown. -/
def shows : Verbosity → Level → Bool
  | .off, _ => false
  | .upTo most, level => level.rank ≤ most.rank

def byNumber : List Verbosity :=
  [.off, .upTo .error, .upTo .warn, .upTo .info, .upTo .debug, .upTo .trace]

def byName : List (String × Verbosity) :=
  [("off", .off), ("error", .upTo .error), ("warn", .upTo .warn), ("info", .upTo .info),
    ("debug", .upTo .debug), ("trace", .upTo .trace)]

/-- The verbosity that a number from `0` to `5` writes. A `+` may stand before it, and zeros may
    lead it. -/
def ofNumber? (text : List Char) : Option Verbosity :=
  let digits := match text with
    | '+' :: rest => rest
    | _ => text
  if digits.isEmpty then none
  else
    match digits.dropWhile (· = '0') with
    | [] => some .off
    | [c] => if c.isDigit then byNumber[c.toNat - '0'.toNat]? else none
    | _ => none

/-- The verbosity that a text writes: a number, or a name in letters of any case. -/
def ofText? (text : List Char) : Option Verbosity :=
  match ofNumber? text with
  | some verbosity => some verbosity
  | none => byName.lookup (String.ofList (text.map Char.toLower))

end Verbosity

/-! ## Filters -/

/-- A part of a filter, `target=verbosity`. The empty target stands for all targets. -/
structure Directive where
  target : List Char
  verbosity : Verbosity
  deriving DecidableEq, Repr, Inhabited

/-- The characters that a part may begin with. -/
def Directive.canBegin (c : Char) : Bool :=
  c = '-' || c = ':' || c = '_' || Text.isAlphanumeric c

/-- The directive that a part writes. Blanks around it belong to it: to the target if there is no
    `=`, and otherwise to a level that then is none. -/
def Directive.ofText? (part : List Char) : Option Directive :=
  match Text.trim part with
  | [] => none
  | first :: _ =>
    if !canBegin first then none
    else
      match part.dropWhile (· ≠ '=') with
      | [] =>
        match Verbosity.ofText? part with
        | some verbosity => some ⟨[], verbosity⟩
        | none => some ⟨part, .upTo .trace⟩
      | _ :: level =>
        if part.head? ≠ some first then none
        else if level.isEmpty then some ⟨part.takeWhile (· ≠ '='), .upTo .trace⟩
        else (Verbosity.ofText? level).map (⟨part.takeWhile (· ≠ '='), ·⟩)

/-- A filter: its directives in the order in which they were written. -/
structure Filter where
  directives : List Directive
  deriving DecidableEq, Repr, Inhabited

namespace Filter

/-- The parts of a text between commas, without the empty ones: `a,,b` has two. -/
def parts (text : List Char) : List (List Char) :=
  (text.splitOn ',').filter (!·.isEmpty)

/-- The filter that a text writes, if each of its parts is a `Directive`. A text without parts shows
    errors only. -/
def ofText? (text : String) : Option Filter :=
  match parts text.toList with
  | [] => some ⟨[⟨[], .upTo .error⟩]⟩
  | found => (found.mapM Directive.ofText?).map (⟨·⟩)

/-- The filter that a text writes; a part for which `Directive.ofText?` is `none` is left out. -/
def ofTextLossy (text : String) : Filter :=
  match parts text.toList with
  | [] => ⟨[⟨[], .upTo .error⟩]⟩
  | found => ⟨found.filterMap Directive.ofText?⟩

/-- Of two directives for one `target` the one with the longer text counts; of two with the same
    text, the later one. -/
def stronger (target : List Char) (best : Option Directive) (next : Directive) : Option Directive :=
  if next.target.isPrefixOf target then
    match best with
    | some held => if held.target.length ≤ next.target.length then some next else best
    | none => some next
  else best

/-- The directive that decides on a target, the last among the longest that begin it. -/
def directive? (filter : Filter) (target : String) : Option Directive :=
  filter.directives.foldl (stronger target.toList) none

/-- Whether a record is let through: the directive for its `target` decides by its `level`. Where
    there is no directive it is not. -/
def enables (filter : Filter) (metadata : LogRecord.Metadata) : Bool :=
  match filter.directive? metadata.target with
  | some directive => directive.verbosity.shows metadata.level
  | none => false

end Filter

/-! ## The library -/

/-- A `Subscriber` with `Filter` for its filters and `Log.line` for its lines. -/
def Subscriber.builtin : Subscriber where
  Filter := Log.Filter
  read? := Log.Filter.ofText?
  readLossy := Log.Filter.ofTextLossy
  ofEnvironment? environment := (environment.lookup "RUST_LOG").bind Log.Filter.ofText?
  enables := Log.Filter.enables
  style environment := if CommandLine.isSet environment "NO_COLOR" then .plain else .coloured
  format := line

end Guarded.Log
