import Guarded.Proofs.Text.Decimal
import Guarded.Script.Trace

set_option autoImplicit false

/-! # The text of a path

A path is written as one text: for each position a letter, the numbers in decimal, and something
between one position and the next. No two paths have the same text, so that a trace which is read as
text says of each statement where it stands.

Main statement: `Path.text_injective`. -/

namespace Guarded.Script

/-! ## Positions -/

/-- The characters of a position, those of `Position.text`. -/
def Position.chars (position : Position) : List Char :=
  match position.site with
  | .body => 'b' :: decimal position.index
  | .handler clause => 'c' :: decimal clause ++ '.' :: decimal position.index
  | .round number => 'r' :: decimal number ++ '.' :: decimal position.index

theorem Position.toList_text (position : Position) : position.text.toList = position.chars := by
  obtain ⟨site, index⟩ := position
  cases site <;> simp [text, chars, decimal]

/-- A text that starts with a position starts with that position only: its letter tells which list
    it is in, and its numbers end where their digits end. -/
theorem Position.chars_append_inj {position other : Position} {rest rest' : List Char}
    (h : position.chars ++ rest = other.chars ++ rest') (hr : NoDigitNext rest)
    (hr' : NoDigitNext rest') : position = other ∧ rest = rest' := by
  obtain ⟨site, index⟩ := position
  obtain ⟨site', index'⟩ := other
  have hpoint : ∀ text, NoDigitNext ('.' :: text) := noDigitNext_cons (by decide)
  cases site <;> cases site' <;>
    simp only [chars, List.cons_append, List.append_assoc, List.cons.injEq, Char.reduceEq,
      false_and, true_and] at h
  case body.body =>
    obtain ⟨rfl, rfl⟩ := decimal_append_inj h hr hr'
    exact ⟨rfl, rfl⟩
  case handler.handler clause clause' =>
    obtain ⟨rfl, hindex⟩ := decimal_append_inj h (hpoint _) (hpoint _)
    obtain ⟨rfl, rfl⟩ := decimal_append_inj (List.cons.inj hindex).2 hr hr'
    exact ⟨rfl, rfl⟩
  case round.round number number' =>
    obtain ⟨rfl, hindex⟩ := decimal_append_inj h (hpoint _) (hpoint _)
    obtain ⟨rfl, rfl⟩ := decimal_append_inj (List.cons.inj hindex).2 hr hr'
    exact ⟨rfl, rfl⟩

/-! ## What follows a position -/

/-- The characters of a position that is not the first of its path, `Position.joint` included. -/
def Position.laterChars (position : Position) : List Char :=
  position.joint.toList ++ position.chars

/-- A later position starts with `/` or, if it is in a round, with `r`. -/
theorem Position.laterChars_eq (position : Position) :
    position.laterChars = position.chars ∧ (∃ text, position.chars = 'r' :: text) ∨
      position.laterChars = '/' :: position.chars := by
  obtain ⟨site, index⟩ := position
  cases site
  · exact .inr (by simp [laterChars, joint])
  · exact .inr (by simp [laterChars, joint])
  · exact .inl ⟨by simp [laterChars, joint], _, rfl⟩

theorem Position.laterChars_append_ne_nil (position : Position) (text : List Char) :
    position.laterChars ++ text ≠ [] := by
  rcases position.laterChars_eq with ⟨hlater, _, hchars⟩ | hlater
  · simp [hlater, hchars]
  · simp [hlater]

theorem noDigitNext_later (positions : List Position) :
    NoDigitNext (positions.flatMap Position.laterChars) := by
  cases positions with
  | nil => exact noDigitNext_nil
  | cons position rest =>
    rw [List.flatMap_cons]
    rcases position.laterChars_eq with ⟨hlater, text, hchars⟩ | hlater
    · rw [hlater, hchars]
      exact noDigitNext_cons (by decide) _
    · rw [hlater]
      exact noDigitNext_cons (by decide) _

theorem Position.laterChars_append_inj {position other : Position} {rest rest' : List Char}
    (h : position.laterChars ++ rest = other.laterChars ++ rest') (hr : NoDigitNext rest)
    (hr' : NoDigitNext rest') : position = other ∧ rest = rest' := by
  rcases position.laterChars_eq with ⟨hlater, text, hchars⟩ | hlater <;>
    rcases other.laterChars_eq with ⟨hlater', text', hchars'⟩ | hlater' <;>
    rw [hlater, hlater'] at h
  · exact chars_append_inj h hr hr'
  · rw [hchars] at h
    exact absurd (List.cons.inj h).1 (by decide)
  · rw [hchars'] at h
    exact absurd (List.cons.inj h).1 (by decide)
  · exact chars_append_inj (List.cons.inj h).2 hr hr'

theorem later_injective {positions others : List Position}
    (h : positions.flatMap Position.laterChars = others.flatMap Position.laterChars) :
    positions = others := by
  induction positions generalizing others with
  | nil =>
    cases others with
    | nil => rfl
    | cons other rest' => exact absurd h.symm (other.laterChars_append_ne_nil _)
  | cons position rest ih =>
    cases others with
    | nil => exact absurd h (position.laterChars_append_ne_nil _)
    | cons other rest' =>
      rw [List.flatMap_cons, List.flatMap_cons] at h
      obtain ⟨rfl, hrest⟩ := Position.laterChars_append_inj h (noDigitNext_later rest)
        (noDigitNext_later rest')
      rw [ih hrest]

/-! ## Paths -/

theorem Path.toList_text (first : Position) (rest : List Position) :
    (Path.text (first :: rest)).toList =
      first.chars ++ rest.flatMap Position.laterChars := by
  have hfold : ∀ (positions : List Position) (text : String),
      (positions.foldl (fun text position => text ++ position.joint ++ position.text) text).toList =
        text.toList ++ positions.flatMap Position.laterChars := by
    intro positions
    induction positions with
    | nil => simp
    | cons position rest ih =>
      intro text
      rw [List.foldl_cons, ih]
      simp [Position.laterChars, Position.toList_text]
  rw [Path.text, hfold, Position.toList_text]

theorem Path.text_ne_empty (first : Position) (rest : List Position) :
    Path.text (first :: rest) ≠ "" := by
  intro hempty
  have hchars := congrArg String.toList hempty
  rw [Path.toList_text] at hchars
  obtain ⟨site, index⟩ := first
  cases site <;> simp [Position.chars] at hchars

/-- **A path is told by its text**, `Path.text`. -/
theorem Path.text_injective {path other : Path} (h : path.text = other.text) : path = other := by
  cases path with
  | nil =>
    cases other with
    | nil => rfl
    | cons first' rest' => exact absurd h.symm (text_ne_empty first' rest')
  | cons first rest =>
    cases other with
    | nil => exact absurd h (text_ne_empty first rest)
    | cons first' rest' =>
      have hchars := congrArg String.toList h
      rw [Path.toList_text, Path.toList_text] at hchars
      obtain ⟨rfl, hrest⟩ := Position.chars_append_inj hchars (noDigitNext_later rest)
        (noDigitNext_later rest')
      rw [later_injective hrest]

/-- The point in `c1.10` tells where one number ends and the next begins. -/
example : Path.text [⟨.handler 1, 10⟩] ≠ Path.text [⟨.handler 11, 0⟩] := by decide

end Guarded.Script
