set_option autoImplicit false

/-! # Similarity of texts

How alike two texts are, as a `ratio` from zero to one. Characters match when they are equal and
stand at nearby places, each at most once; the similarity is the mean of the share of the first text
that matches, the share of the second, and the share of the matches that are in order. -/

namespace Guarded.Text.Similarity

/-- Characters, each with a mark that is `true` if it is matched. -/
abbrev Marked : Type := List (Char × Bool)

/-- Mark the first unmarked character that equals a given one, among those at places from `low` to
    `high`. The list begins at the given place. -/
def mark (c : Char) (low high : Nat) (place : Nat) : Marked → Option Marked
  | [] => none
  | (d, marked) :: rest =>
    if low ≤ place && place ≤ high && d = c && !marked then some ((d, true) :: rest)
    else (mark c low high (place + 1) rest).map ((d, marked) :: ·)

/-- Match the characters of a text, from left to right, with those of `marked`, at places that are
    at most `reach` apart. The result is the characters that found a match, and the marks. -/
def pair (reach : Nat) (place : Nat) (marked : Marked) : List Char → List Char × Marked
  | [] => ([], marked)
  | c :: rest =>
    match mark c (place - reach) (place + reach) 0 marked with
    | some changed =>
      let (found, after) := pair reach (place + 1) changed rest
      (c :: found, after)
    | none => pair reach (place + 1) marked rest

/-- How far apart matching characters may stand: less than half of the longer text. -/
def reach (first second : List Char) : Nat := max first.length second.length / 2 - 1

/-- The similarity of two texts, from `0` to `1`. It is a floating-point number, and the order of
    the operations is part of its definition: texts that are equally similar on paper may differ in
    the last bit. -/
def ratio (first second : List Char) : Float :=
  let (found, marked) := pair (reach first second) 0 (second.map (·, false)) first
  let counterparts := (marked.filter (·.2)).map (·.1)
  let count := found.length
  let moved := ((found.zip counterparts).filter fun (c, d) => c ≠ d).length / 2
  if count = 0 then 0
  else
    let share (part whole : Nat) : Float := part.toFloat / whole.toFloat
    (share count first.length + share count second.length + share (count - moved) count) / 3

end Guarded.Text.Similarity
