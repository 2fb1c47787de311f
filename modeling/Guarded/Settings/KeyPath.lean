set_option autoImplicit false

/-! # Paths of keys

A key is the path of a setting: a name, and then steps into what the name holds. A step is the name
of a member after a point, or the number of an element in brackets. `PathWritten` gives the rules by
which a path is written, as a relation between a `KeyPath` and a text, and `KeyPath.ofText?` reads a
text. A text of any other form is no path. -/

namespace Guarded.Settings

/-! ## Paths -/

/-- A step from a value to a part of it: `.name` or `[index]`. -/
inductive KeyStep where
  | member (name : List Char)
  | element (index : Int)
  deriving DecidableEq, Repr, Inhabited

/-- The name of a setting and the steps into it, as in `root.member[0]`. -/
structure KeyPath where
  root : List Char
  steps : List KeyStep
  deriving DecidableEq, Repr, Inhabited

namespace KeyPath

def isNameChar (c : Char) : Bool := c.isAlphanum || c = ' ' || c = '_' || c = '-'

/-- The characters that may surround the number of an `element`. -/
def isPadding (c : Char) : Bool := c = ' ' || c = '\t'

/-- The first number that does not fit a signed word of 64 bits, `2 ^ 63`. -/
def elementBound : Nat := 0x8000000000000000

end KeyPath

open KeyPath (isNameChar isPadding elementBound)

/-! ## The rules -/

/-- The digits of a number. -/
structure NumberDigits (digits : List Char) : Prop where
  ne_nil : digits ≠ []
  isDigit : ∀ char ∈ digits, char.isDigit = true

/-- The number that digits stand for. -/
abbrev numberOf (digits : List Char) : Nat := Nat.ofDigitChars 10 digits 0

/-- How the number of an element is written: in digits, and below zero with a `-` before them. It
    fits a signed word of 64 bits. -/
inductive NumberWritten : Int → List Char → Prop
  | natural {digits : List Char} (hdigits : NumberDigits digits)
      (hfits : numberOf digits < elementBound) : NumberWritten (numberOf digits) digits
  | minus {digits : List Char} (hdigits : NumberDigits digits)
      (hfits : numberOf digits ≤ elementBound) : NumberWritten (-numberOf digits) ('-' :: digits)

/-- Characters that may stand around the number of an element. -/
def Padding (text : List Char) : Prop := ∀ char ∈ text, isPadding char = true

/-- A name: one character or more. -/
structure NameWritten (name : List Char) : Prop where
  ne_nil : name ≠ []
  isNameChar : ∀ char ∈ name, isNameChar char = true

/-- How a step is written: `.name` for a member, `[index]` for an element, with `Padding` in the
    brackets. -/
inductive StepWritten : KeyStep → List Char → Prop
  | member {name : List Char} (hname : NameWritten name) : StepWritten (.member name) ('.' :: name)
  | element {index : Int} {before number after : List Char} (hbefore : Padding before)
      (hnumber : NumberWritten index number) (hafter : Padding after) :
      StepWritten (.element index) ('[' :: (before ++ (number ++ after) ++ [']']))

/-- How steps are written: one after the other, with nothing between. -/
inductive StepsWritten : List KeyStep → List Char → Prop
  | nil : StepsWritten [] []
  | cons {step : KeyStep} {steps : List KeyStep} {text rest : List Char}
      (hstep : StepWritten step text) (hrest : StepsWritten steps rest) :
      StepsWritten (step :: steps) (text ++ rest)

/-- How a path is written: its `root`, and then its `steps`. -/
structure PathWritten (path : KeyPath) (text : List Char) : Prop where
  root : NameWritten path.root
  steps : ∃ rest, StepsWritten path.steps rest ∧ text = path.root ++ rest

/-! ## Reading -/

namespace KeyPath

/-- The number that some digits write; `none` where there are none or something else is among
    them. -/
def digits? (text : List Char) : Option Nat :=
  if text.isEmpty || !text.all Char.isDigit then none
  else some (text.foldl (fun value c => 10 * value + (c.toNat - '0'.toNat)) 0)

/-- The number of an element, with `isPadding` characters around it. It fits a signed word of 64
    bits. -/
def elementNumber? (text : List Char) : Option Int :=
  let bare := ((text.dropWhile isPadding).reverse.dropWhile isPadding).reverse
  match bare with
  | '-' :: rest => do
    let size ← digits? rest
    if size ≤ elementBound then some (-size) else none
  | _ => do
    let size ← digits? bare
    if size < elementBound then some size else none

/-- The steps that a text writes, by the rules of `StepsWritten`. -/
def steps? : List Char → Option (List KeyStep)
  | [] => some []
  | '.' :: rest =>
    let name := rest.takeWhile isNameChar
    if name.isEmpty then none
    else (steps? (rest.dropWhile isNameChar)).map (.member name :: ·)
  | '[' :: rest =>
    match _ : rest.dropWhile (· ≠ ']') with
    | ']' :: after =>
      match elementNumber? (rest.takeWhile (· ≠ ']')) with
      | some index => (steps? after).map (.element index :: ·)
      | none => none
    | _ => none
  | _ => none
  termination_by text => text.length
  decreasing_by
    · have shorter := (List.dropWhile_suffix (l := rest) isNameChar).length_le
      simp only [List.length_cons]
      omega
    · have shorter := (List.dropWhile_suffix (l := rest) (· ≠ ']')).length_le
      have closing : rest.dropWhile (· ≠ ']') = ']' :: after := ‹_›
      rw [closing] at shorter
      simp only [List.length_cons] at *
      omega

/-- The path that a text writes, by the rules of `PathWritten`. -/
def ofText? (text : List Char) : Option KeyPath :=
  let root := text.takeWhile isNameChar
  if root.isEmpty then none else (steps? (text.dropWhile isNameChar)).map (⟨root, ·⟩)

end KeyPath

end Guarded.Settings
