set_option autoImplicit false

/-! # Runs of characters

The longest beginning of a text whose characters are of one kind, `List.takeWhile`. Of a text that
is put together from a text of the kind and one that begins otherwise, it is the first, and
`List.dropWhile` leaves the second. -/

namespace Guarded

/-- Whether a run of characters of `kind` ends before a text: the text is empty or begins with a
    character of another kind. -/
def EndsRun (kind : Char → Bool) (text : List Char) : Prop :=
  ∀ char ∈ text.head?, kind char = false

section

variable {kind : Char → Bool} {run rest : List Char}

theorem endsRun_nil : EndsRun kind [] := by
  intro char h
  cases h

theorem endsRun_cons {char : Char} (h : kind char = false) (text : List Char) :
    EndsRun kind (char :: text) := by
  rintro _ ⟨rfl⟩
  exact h

theorem takeWhile_run (hrun : ∀ char ∈ run, kind char = true) (hrest : EndsRun kind rest) :
    (run ++ rest).takeWhile kind = run := by
  rw [List.takeWhile_append_of_pos hrun]
  cases rest with
  | nil => simp
  | cons char rest => simp [hrest char rfl]

theorem dropWhile_run (hrun : ∀ char ∈ run, kind char = true) (hrest : EndsRun kind rest) :
    (run ++ rest).dropWhile kind = rest := by
  rw [List.dropWhile_append_of_pos hrun]
  cases rest with
  | nil => rfl
  | cons char rest => simp [hrest char rfl]

end

end Guarded
