import Guarded.Log.Line
import Guarded.Proofs.Text.Colour
import Guarded.Proofs.Text.Decimal

set_option autoImplicit false

/-! # What lines of a log rely on

A record is one line, and its colours can be taken off again, as long as the texts in the record are
plain: they neither end the line nor begin a control sequence. Nothing else is asked of them. The
records of events are plain, whatever values they carry.

Main statements: `isLine_line`, `fadesTo_line`. -/

namespace Guarded

open Text.Terminal (Style Accent FadesTo fadesTo_self)

/-! ## Plain texts -/

theorem plain_of_chars {text : String} (h : ∀ char ∈ text.toList, char ≠ '\n' ∧ char ≠ '\x1b') :
    Plain text :=
  ⟨fun hmem => (h _ hmem).1 rfl, fun hmem => (h _ hmem).2 rfl⟩

theorem Plain.append {text other : String} (h : Plain text) (hother : Plain other) :
    Plain (text ++ other) := by
  constructor
  · rw [String.toList_append, List.mem_append, not_or]
    exact ⟨h.newline, hother.newline⟩
  · rw [String.toList_append, List.mem_append, not_or]
    exact ⟨h.escape, hother.escape⟩

theorem plain_nat (number : Nat) : Plain (toString number) := by
  refine plain_of_chars fun char hchar => ?_
  have hdigit := isDigit_of_mem_decimal hchar
  constructor <;> rintro rfl <;> cases hdigit

theorem plain_int (number : Int) : Plain (toString number) := by
  cases number with
  | ofNat size => exact plain_nat size
  | negSucc size => exact (show Plain "-" by decide).append (plain_nat (size + 1))

/-! ## Plain records -/

theorem plain_message (error : ArithError) : Plain error.message := by
  cases error with
  | divisionByZero op => cases op <;> decide
  | indexOutOfBounds index length =>
    rw [ArithError.message_outOfBounds]
    exact (((show Plain "ArrayIndexOutOfBoundsException: Index " by decide).append
      (plain_nat index)).append (show Plain " out of bounds for length " by decide)).append
      (plain_nat length)

theorem plain_field {name : String} {value : FieldValue} (hname : Plain name)
    (hvalue : Plain value.render) :
    ∀ field ∈ [(name, value)], Plain field.1 ∧ Plain field.2.render :=
  List.forall_mem_singleton.mpr ⟨hname, hvalue⟩

theorem isPlain_mk {level : Level} {target message : String} {fields : List (String × FieldValue)}
    (htarget : Plain target) (hmessage : Plain message)
    (hfields : ∀ field ∈ fields, Plain field.1 ∧ Plain field.2.render) :
    LogRecord.IsPlain ⟨level, target, message, fields⟩ :=
  ⟨htarget, hmessage, hfields⟩

/-- Events carry numbers and errors only, and these have `Plain` texts. -/
theorem isPlain_record (event : Event) : event.record.IsPlain := by
  cases event with
  | zeroDivisor op dividend =>
    cases op <;> exact isPlain_mk (by decide) (by decide) (plain_field (by decide) (plain_int _))
  | exceptionThrown error =>
    have hkind : Plain error.kind.name := by cases error.kind <;> decide
    exact isPlain_mk (by decide)
      ((show Plain "exception thrown: " by decide).append (plain_message error))
      (plain_field (by decide) hkind)
  | handlerFound clause =>
    exact isPlain_mk (by decide) (by decide) (plain_field (by decide) (plain_int _))
  | noHandler => exact isPlain_mk (by decide) (by decide) (List.forall_mem_nil _)
  | finished value =>
    exact isPlain_mk (by decide) (by decide) (plain_field (by decide) (plain_int _))

namespace Log

/-! ## One line -/

/-- Whether a text is one line with its `\n` and has no other. -/
def IsLine (text : String) : Prop :=
  ∃ content : String, '\n' ∉ content.toList ∧ text = content ++ "\n"

theorem IsLine.count_newline {text : String} (h : IsLine text) : text.toList.count '\n' = 1 := by
  obtain ⟨content, hcontent, rfl⟩ := h
  rw [String.toList_append, List.count_append, List.count_eq_zero_of_not_mem hcontent]
  rfl

/-- Of lines one after the other, each is there with its own `\n` and no other. -/
theorem count_newline_join {lines : List String} (h : ∀ line ∈ lines, IsLine line) :
    (String.join lines).toList.count '\n' = lines.length := by
  induction lines with
  | nil => rfl
  | cons line lines ih =>
    obtain ⟨hline, hlines⟩ := List.forall_mem_cons.mp h
    rw [String.join_cons, String.toList_append, List.count_append, hline.count_newline, ih hlines,
      List.length_cons, Nat.add_comm]

/-! ## Texts in every style -/

/-- A text that may be coloured, given in every `Style`. It never ends its line, and but for its
    colours it is the same in every style. -/
structure Faithful (text : Style → String) : Prop where
  newline : ∀ style, '\n' ∉ (text style).toList
  fades : ∀ style, FadesTo (text style) (text .plain)

theorem faithful_const {text : String} (h : Plain text) : Faithful fun _ => text :=
  ⟨fun _ => h.newline, fun _ => fadesTo_self h.escape⟩

theorem Faithful.append {text other : Style → String} (h : Faithful text)
    (hother : Faithful other) : Faithful fun style => text style ++ other style := by
  refine ⟨fun style => ?_, fun style => (h.fades style).append (hother.fades style)⟩
  rw [String.toList_append, List.mem_append, not_or]
  exact ⟨h.newline style, hother.newline style⟩

theorem faithful_join {α : Type} {items : List α} {text : α → Style → String}
    (h : ∀ item ∈ items, Faithful (text item)) :
    Faithful fun style => String.join (items.map fun item => text item style) := by
  induction items with
  | nil => exact faithful_const (by decide)
  | cons item items ih =>
    obtain ⟨hitem, hitems⟩ := List.forall_mem_cons.mp h
    simp only [List.map_cons, String.join_cons]
    exact hitem.append (ih hitems)

theorem newline_not_mem_accented (accents : List Accent) {text : String}
    (h : '\n' ∉ text.toList) : '\n' ∉ (Text.Terminal.accented accents text).toList := by
  have hcontrol : ∀ accent ∈ accents,
      '\n' ∉ (Text.Terminal.control accent.parameter).toList := by
    intro accent _
    cases accent <;> decide
  have hend : '\n' ∉ (Text.Terminal.control "0").toList := by decide
  simp only [Text.Terminal.accented, String.toList_append, String.toList_join, List.mem_append,
    List.mem_flatMap, List.mem_map, not_or, not_exists, not_and]
  refine ⟨⟨?_, h⟩, hend⟩
  rintro _ ⟨accent, haccent, rfl⟩
  exact hcontrol accent haccent

theorem faithful_accented (accents : List Accent) {text : String} (h : Plain text) :
    Faithful fun style => style.accented accents text := by
  refine ⟨fun style => ?_, fun style => style.fadesTo accents h.escape⟩
  cases style with
  | plain => exact h.newline
  | coloured => exact newline_not_mem_accented accents h.newline

/-! ## Lines of plain records -/

/-- The `line` of a record without its `\n`. -/
def content (style : Style) (time : String) (record : LogRecord) : String :=
  style.accented [.dim] time ++ " "
    ++ style.accented [levelColour record.level] (levelField record.level) ++ " "
    ++ style.accented [.dim] record.target ++ style.accented [.dim] ":" ++ " " ++ record.message
    ++ String.join (record.fields.map (fieldText style))

theorem line_eq (style : Style) (time : String) (record : LogRecord) :
    line style time record = content style time record ++ "\n" := rfl

theorem plain_levelField (level : Level) : Plain (levelField level) := by
  cases level <;> decide

theorem faithful_fieldText {field : String × FieldValue}
    (h : Plain field.1 ∧ Plain field.2.render) : Faithful fun style => fieldText style field :=
  (((faithful_const (by decide)).append (faithful_accented _ h.1)).append
    (faithful_accented _ (by decide))).append (faithful_const h.2)

variable {time : String} {record : LogRecord}

theorem faithful_content (htime : Plain time) (h : record.IsPlain) :
    Faithful fun style => content style time record := by
  have hspace : Faithful fun _ => " " := faithful_const (by decide)
  have hlevel := faithful_accented [levelColour record.level] (plain_levelField record.level)
  have hcolon := faithful_accented [.dim] (show Plain ":" by decide)
  have hfields := faithful_join fun field hfield => faithful_fieldText (h.fields field hfield)
  have htarget := faithful_accented [.dim] h.target
  have hfront := (((faithful_accented [.dim] htime).append hspace).append hlevel).append hspace
  exact (((((hfront.append htarget).append hcolon).append hspace).append
    (faithful_const h.message)).append hfields)

/-- **A plain record makes one line**, in every `style`. -/
theorem isLine_line (style : Style) (htime : Plain time) (h : record.IsPlain) :
    IsLine (line style time record) :=
  ⟨content style time record, (faithful_content htime h).newline style, rfl⟩

/-- **The line of a plain record is the same in every style but for its colours.** -/
theorem fadesTo_line (style : Style) (htime : Plain time) (h : record.IsPlain) :
    FadesTo (line style time record) (line .plain time record) := by
  rw [line_eq, line_eq]
  exact ((faithful_content htime h).fades style).append (fadesTo_self (by decide))

theorem fadesTo_lines {records : List LogRecord} (style : Style) (htime : Plain time)
    (h : ∀ record ∈ records, record.IsPlain) :
    FadesTo (String.join (records.map (line style time)))
      (String.join (records.map (line .plain time))) :=
  FadesTo.join fun record hrecord => fadesTo_line style htime (h record hrecord)

end Log

end Guarded
