set_option autoImplicit false

/-! # Sets of characters

A set of characters, given by the code points at which membership changes when one counts upwards.
The character at the first of `CharSet.bounds` is the first member. -/

namespace Guarded.Text

/-- A set of characters. The bounds are strictly increasing, so the members are those from
    `bounds[0]` up to `bounds[1]`, from `bounds[2]` up to `bounds[3]`, and so on. -/
structure CharSet where
  bounds : List Nat
  increasing : ∀ pair ∈ bounds.zip bounds.tail, pair.1 < pair.2

/-- Whether membership changed an odd number of times up to `code`, given whether it holds before
    the bounds. -/
def CharSet.holdsAt (code : Nat) : Bool → List Nat → Bool
  | inside, [] => inside
  | inside, bound :: rest => if code < bound then inside else holdsAt code (!inside) rest

/-- Membership, which does not hold before the first of the `bounds`. -/
def CharSet.contains (set : CharSet) (c : Char) : Bool := holdsAt c.toNat false set.bounds

/-- A character below the first bound is no member. -/
theorem CharSet.contains_of_lt {set : CharSet} {bound : Nat} (first : set.bounds.head? = some bound)
    {c : Char} (h : c.toNat < bound) : set.contains c = false := by
  obtain ⟨rest, hbounds⟩ := List.head?_eq_some_iff.mp first
  rw [contains, hbounds, holdsAt, if_pos h]

end Guarded.Text
