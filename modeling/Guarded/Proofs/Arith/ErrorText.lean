import Guarded.Error
import Guarded.Proofs.Text.Decimal

set_option autoImplicit false

/-! # What the texts of errors tell

An error has two texts, a message for users and a debug text. The debug text tells everything. The
message tells everything but one thing, namely which of the two operations met a zero divisor; so it
still tells the kind, and with it the clauses that catch the error.

Main statement: `texts_tell_errors`. -/

namespace Guarded

/-! ## Two numbers in a text -/

/-- The text `front first between second back`, with two numbers in decimal. -/
def aroundNumbers (front between back : List Char) (first second : Nat) : List Char :=
  front ++ (decimal first ++ (between ++ (decimal second ++ back)))

/-- Where `between` and `back` do not begin with digits, both numbers can be read off the text. -/
theorem aroundNumbers_inj {front between back : List Char} {first second first' second' : Nat}
    (h : aroundNumbers front between back first second =
      aroundNumbers front between back first' second')
    (hbetween : NoDigitNext between) (hne : between ≠ []) (hback : NoDigitNext back) :
    first = first' ∧ second = second' := by
  have hnumbers := List.append_cancel_left h
  obtain ⟨hfirst, hrest⟩ :=
    decimal_append_inj hnumbers (hbetween.append hne _) (hbetween.append hne _)
  obtain ⟨hsecond, -⟩ := decimal_append_inj (List.append_cancel_left hrest) hback hback
  exact ⟨hfirst, hsecond⟩

namespace ArithError

/-- Whether an error is a `divisionByZero`, of either operation. -/
def IsDivisionByZero (error : ArithError) : Prop := ∃ op, error = .divisionByZero op

/-! ## Messages -/

theorem toList_message_outOfBounds (index length : Nat) :
    (message (.indexOutOfBounds index length)).toList =
      aroundNumbers "ArrayIndexOutOfBoundsException: Index ".toList
        " out of bounds for length ".toList [] index length := by
  simp only [message_outOfBounds, aroundNumbers, decimal, String.toList_append, List.append_assoc,
    List.append_nil]

theorem message_outOfBounds_inj {index length index' length' : Nat}
    (h : message (.indexOutOfBounds index length) = message (.indexOutOfBounds index' length')) :
    index = index' ∧ length = length' := by
  have htext := congrArg String.toList h
  rw [toList_message_outOfBounds, toList_message_outOfBounds] at htext
  exact aroundNumbers_inj htext (by decide) (by decide) noDigitNext_nil

/-- The two messages differ in their third letter, `i` and `r`. -/
theorem message_divisionByZero_ne (op : ArithOp) (index length : Nat) :
    message (.divisionByZero op) ≠ message (.indexOutOfBounds index length) := by
  intro h
  have hletter : (message (.divisionByZero op)).toList[2]? = some 'i' := by cases op <;> rfl
  rw [h, toList_message_outOfBounds] at hletter
  simp [aroundNumbers] at hletter

theorem message_eq_iff {x y : ArithError} :
    x.message = y.message ↔ x = y ∨ (x.IsDivisionByZero ∧ y.IsDivisionByZero) := by
  constructor
  · intro h
    match x, y with
    | .divisionByZero op, .divisionByZero op' => exact .inr ⟨⟨op, rfl⟩, ⟨op', rfl⟩⟩
    | .divisionByZero op, .indexOutOfBounds index length =>
      exact absurd h (message_divisionByZero_ne op index length)
    | .indexOutOfBounds index length, .divisionByZero op =>
      exact absurd h.symm (message_divisionByZero_ne op index length)
    | .indexOutOfBounds index length, .indexOutOfBounds index' length' =>
      obtain ⟨rfl, rfl⟩ := message_outOfBounds_inj h
      exact .inl rfl
  · rintro (rfl | ⟨⟨op, rfl⟩, ⟨op', rfl⟩⟩) <;> rfl

theorem kind_eq_of_message {x y : ArithError} (h : x.message = y.message) : x.kind = y.kind := by
  rcases message_eq_iff.mp h with rfl | ⟨⟨op, rfl⟩, ⟨op', rfl⟩⟩ <;> rfl

/-! ## Debug texts -/

theorem toList_debug_outOfBounds (index length : Nat) :
    (debug (.indexOutOfBounds index length)).toList =
      aroundNumbers "IndexOutOfBounds \x7b index: ".toList ", len: ".toList " \x7d".toList
        index length := by
  simp only [debug_outOfBounds, aroundNumbers, decimal, String.toList_append, List.append_assoc]

theorem debug_outOfBounds_inj {index length index' length' : Nat}
    (h : debug (.indexOutOfBounds index length) = debug (.indexOutOfBounds index' length')) :
    index = index' ∧ length = length' := by
  have htext := congrArg String.toList h
  rw [toList_debug_outOfBounds, toList_debug_outOfBounds] at htext
  exact aroundNumbers_inj htext (by decide) (by decide) (by decide)

theorem debug_divisionByZero_ne (op : ArithOp) (index length : Nat) :
    debug (.divisionByZero op) ≠ debug (.indexOutOfBounds index length) := by
  intro h
  have hletter : (debug (.divisionByZero op)).toList[0]? = some 'D' := by cases op <;> rfl
  rw [h, toList_debug_outOfBounds] at hletter
  simp [aroundNumbers] at hletter

theorem debug_divisionByZero_inj {op op' : ArithOp}
    (h : debug (.divisionByZero op) = debug (.divisionByZero op')) : op = op' := by
  cases op <;> cases op' <;> first | rfl | exact absurd h (by decide)

theorem debug_eq_iff {x y : ArithError} : x.debug = y.debug ↔ x = y := by
  constructor
  · intro h
    match x, y with
    | .divisionByZero op, .divisionByZero op' => rw [debug_divisionByZero_inj h]
    | .divisionByZero op, .indexOutOfBounds index length =>
      exact absurd h (debug_divisionByZero_ne op index length)
    | .indexOutOfBounds index length, .divisionByZero op =>
      exact absurd h.symm (debug_divisionByZero_ne op index length)
    | .indexOutOfBounds index length, .indexOutOfBounds index' length' =>
      obtain ⟨rfl, rfl⟩ := debug_outOfBounds_inj h
      rfl
  · rintro rfl
    rfl

/-! ## The theorem -/

/-- **The texts of errors tell errors apart**, `debug` entirely and `message` up to the operation
    that met a zero divisor. So a message tells the `kind` of the error, the two numbers of a failed
    read, and the kinds of clause that catch the error. -/
theorem texts_tell_errors (x y : ArithError) :
    (x.message = y.message ↔ x = y ∨ (x.IsDivisionByZero ∧ y.IsDivisionByZero)) ∧
      (x.message = y.message → x.kind = y.kind) ∧
      (∀ index length, x = .indexOutOfBounds index length → x.message = y.message →
        y = .indexOutOfBounds index length) ∧
      (x.debug = y.debug ↔ x = y) ∧
      (x.message = y.message → x.caughtBy = y.caughtBy ∧
        ∀ clause : Kind, clause.accepts x.kind = clause.accepts y.kind) := by
  refine ⟨message_eq_iff, kind_eq_of_message, ?_, debug_eq_iff, ?_⟩
  · rintro index length rfl h
    rcases message_eq_iff.mp h with same | ⟨⟨op, isDivision⟩, -⟩
    · exact same.symm
    · cases isDivision
  · intro h
    have hkind := kind_eq_of_message h
    refine ⟨?_, fun clause => ?_⟩
    · rw [caughtBy, caughtBy, hkind]
    · rw [hkind]

/-- What stands between the numbers tells where `1` ends and where `21` begins. -/
example : message (.indexOutOfBounds 1 21) ≠ message (.indexOutOfBounds 12 1) := by decide

end ArithError

end Guarded
