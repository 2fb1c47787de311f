import Guarded.Proofs.Text.Run

set_option autoImplicit false

/-! # Numbers in texts

A natural number is written in decimal digits and nothing else. So the number at the start of a text
can be read off the text, unless more digits follow, by `decimal_append_inj`: the number ends where
the digits end. -/

namespace Guarded

/-- The characters of a number, those of `toString`. -/
def decimal (number : Nat) : List Char := (toString number).toList

theorem decimal_eq (number : Nat) : decimal number = Nat.toDigits 10 number := by
  rw [decimal, Nat.toString_eq_repr, Nat.toList_repr]

theorem isDigit_of_mem_decimal {number : Nat} {char : Char} (h : char ∈ decimal number) :
    char.isDigit = true := by
  rw [decimal_eq] at h
  exact Nat.isDigit_of_mem_toDigits (by decide) (by decide) h

theorem decimal_injective {number other : Nat} (h : decimal number = decimal other) :
    number = other := by
  have hvalue := congrArg (Nat.ofDigitChars 10 · 0) h
  simpa only [decimal_eq, Nat.ofDigitChars_ten_toDigits] using hvalue

/-- Whether a text goes on with something other than a digit, or ends; this is
    `EndsRun Char.isDigit`. -/
def NoDigitNext (text : List Char) : Prop := ∀ char ∈ text.head?, char.isDigit = false

theorem noDigitNext_nil : NoDigitNext [] := endsRun_nil

theorem noDigitNext_cons {char : Char} (h : char.isDigit = false) (text : List Char) :
    NoDigitNext (char :: text) := endsRun_cons h text

instance : (text : List Char) → Decidable (NoDigitNext text)
  | [] => .isTrue noDigitNext_nil
  | char :: text =>
    decidable_of_iff (char.isDigit = false) ⟨(noDigitNext_cons · text), fun h => h char rfl⟩

theorem NoDigitNext.append {text : List Char} (h : NoDigitNext text) (hne : text ≠ [])
    (rest : List Char) : NoDigitNext (text ++ rest) := by
  cases text with
  | nil => exact absurd rfl hne
  | cons char text => exact h

theorem takeWhile_decimal (number : Nat) {rest : List Char} (h : NoDigitNext rest) :
    (decimal number ++ rest).takeWhile Char.isDigit = decimal number :=
  takeWhile_run (fun _ => isDigit_of_mem_decimal) h

/-- A text that starts with `decimal number` and does not go on with a digit starts with that number
    only. -/
theorem decimal_append_inj {number other : Nat} {rest rest' : List Char}
    (h : decimal number ++ rest = decimal other ++ rest') (hr : NoDigitNext rest)
    (hr' : NoDigitNext rest') : number = other ∧ rest = rest' := by
  have hdigits : decimal number = decimal other := by
    rw [← takeWhile_decimal number hr, h, takeWhile_decimal other hr']
  rw [hdigits] at h
  exact ⟨decimal_injective hdigits, List.append_cancel_left h⟩

end Guarded
