import Mathlib.Data.List.TakeWhile
import Guarded.Proofs.Text.Run
import Guarded.Settings.KeyPath

set_option autoImplicit false

/-! # Reading paths of keys

`KeyPath.ofText?` reads what the rules of `PathWritten` write and nothing else, and it reads a path
back as it was meant.

Main statement: `ofText?_eq_some_iff`. -/

namespace Guarded.Settings

open KeyPath (isNameChar isPadding elementBound digits? elementNumber? steps? ofText?)

/-! ## Numbers -/

theorem digits?_eq_some_iff {text : List Char} {number : Nat} :
    digits? text = some number ↔ NumberDigits text ∧ numberOf text = number := by
  have haccept : (text.isEmpty || !text.all Char.isDigit) = false ↔ NumberDigits text := by
    simp only [Bool.or_eq_false_iff, Bool.not_eq_false', List.all_eq_true,
      List.isEmpty_eq_false_iff]
    exact ⟨fun h => ⟨h.1, h.2⟩, fun h => ⟨h.ne_nil, h.isDigit⟩⟩
  rw [← haccept, digits?]
  cases text.isEmpty || !text.all Char.isDigit
  · simp [numberOf, Nat.ofDigitChars]
  · simp

theorem not_isPadding_of_isDigit {char : Char} (h : char.isDigit = true) :
    isPadding char = false := by
  simp only [isPadding, Bool.or_eq_false_iff, decide_eq_false_iff_not]
  constructor <;> rintro rfl <;> simp at h

theorem NumberWritten.ne_nil {index : Int} {number : List Char} (h : NumberWritten index number) :
    number ≠ [] := by
  cases h with
  | natural hdigits _ => exact hdigits.ne_nil
  | minus _ _ => exact List.cons_ne_nil _ _

/-- The characters of a number are digits, but the first may be `-`. -/
theorem NumberWritten.char {index : Int} {number : List Char} (h : NumberWritten index number) :
    ∀ char ∈ number, char = '-' ∨ char.isDigit = true := by
  cases h with
  | natural hdigits _ => exact fun char hchar => .inr (hdigits.isDigit char hchar)
  | minus hdigits _ =>
    intro char hchar
    rcases List.mem_cons.mp hchar with rfl | hchar
    · exact .inl rfl
    · exact .inr (hdigits.isDigit char hchar)

theorem NumberWritten.not_isPadding {index : Int} {number : List Char}
    (h : NumberWritten index number) : ∀ char ∈ number, isPadding char = false := by
  intro char hchar
  rcases h.char char hchar with rfl | hdigit
  · rfl
  · exact not_isPadding_of_isDigit hdigit

/-- What is left of a text without the `isPadding` characters at its ends. -/
abbrev unpadded (text : List Char) : List Char :=
  ((text.dropWhile isPadding).reverse.dropWhile isPadding).reverse

theorem unpadded_append {before number after : List Char} (hbefore : Padding before)
    (hafter : Padding after) (hnumber : ∀ char ∈ number, isPadding char = false)
    (hne : number ≠ []) : unpadded (before ++ (number ++ after)) = number := by
  have hfront : EndsRun isPadding (number ++ after) := by
    intro char hchar
    cases number with
    | nil => exact absurd rfl hne
    | cons first number => exact hnumber char (List.mem_of_mem_head? hchar)
  have hback : EndsRun isPadding number.reverse := by
    intro char hchar
    exact hnumber char (List.mem_reverse.mp (List.mem_of_mem_head? hchar))
  have hreversed : ∀ char ∈ after.reverse, isPadding char = true := fun char hchar =>
    hafter char (List.mem_reverse.mp hchar)
  rw [unpadded, dropWhile_run hbefore hfront, List.reverse_append, dropWhile_run hreversed hback,
    List.reverse_reverse]

theorem exists_padding (text : List Char) :
    ∃ before after, Padding before ∧ Padding after ∧
      text = before ++ (unpadded text ++ after) := by
  refine ⟨text.takeWhile isPadding,
    ((text.dropWhile isPadding).reverse.takeWhile isPadding).reverse,
    fun char => List.mem_takeWhile_imp,
    fun char hchar => List.mem_takeWhile_imp (List.mem_reverse.mp hchar), ?_⟩
  rw [unpadded, ← List.reverse_append, List.takeWhile_append_dropWhile, List.reverse_reverse,
    List.takeWhile_append_dropWhile]

theorem elementNumber?_eq_some_iff {text : List Char} {index : Int} :
    elementNumber? text = some index ↔ NumberWritten index (unpadded text) := by
  unfold elementNumber? unpadded
  dsimp only
  generalize ((text.dropWhile isPadding).reverse.dropWhile isPadding).reverse = number
  constructor
  · intro h
    split at h
    · obtain ⟨size, hsize, hfits⟩ := Option.bind_eq_some_iff.mp h
      obtain ⟨hdigits, rfl⟩ := digits?_eq_some_iff.mp hsize
      obtain ⟨hbound, hsame⟩ := Option.ite_none_right_eq_some.mp hfits
      cases hsame
      exact .minus hdigits hbound
    · obtain ⟨size, hsize, hfits⟩ := Option.bind_eq_some_iff.mp h
      obtain ⟨hdigits, rfl⟩ := digits?_eq_some_iff.mp hsize
      obtain ⟨hbound, hsame⟩ := Option.ite_none_right_eq_some.mp hfits
      cases hsame
      exact .natural hdigits hbound
  · intro h
    cases h with
    | natural hdigits hfits =>
      split
      · -- the first character is a digit, and a minus is none
        exact absurd (hdigits.isDigit '-' List.mem_cons_self) (by decide)
      · exact Option.bind_eq_some_iff.mpr
          ⟨_, digits?_eq_some_iff.mpr ⟨hdigits, rfl⟩, if_pos hfits⟩
    | minus hdigits hfits =>
      exact Option.bind_eq_some_iff.mpr ⟨_, digits?_eq_some_iff.mpr ⟨hdigits, rfl⟩, if_pos hfits⟩

/-! ## Steps -/

theorem NumberWritten.not_closing {index : Int} {number : List Char}
    (h : NumberWritten index number) : ∀ char ∈ number, char ≠ ']' := by
  rintro _ hchar rfl
  rcases h.char _ hchar with hminus | hdigit
  · exact absurd hminus (by decide)
  · exact absurd hdigit (by decide)

theorem Padding.not_closing {text : List Char} (h : Padding text) : ∀ char ∈ text, char ≠ ']' := by
  rintro _ hchar rfl
  exact absurd (h _ hchar) (by decide)

/-- A step begins with `.` or `[`, which ends a name. -/
theorem StepsWritten.endsRun {steps : List KeyStep} {text : List Char}
    (h : StepsWritten steps text) : EndsRun isNameChar text := by
  cases h with
  | nil => exact endsRun_nil
  | cons hstep _ =>
    cases hstep with
    | member _ => exact endsRun_cons (by decide) _
    | element _ _ _ => exact endsRun_cons (by decide) _

theorem steps?_member {name rest : List Char} (hname : NameWritten name)
    (hrest : EndsRun isNameChar rest) :
    steps? ('.' :: (name ++ rest)) = (steps? rest).map (.member name :: ·) := by
  have hempty : name.isEmpty = false := List.isEmpty_eq_false_iff.mpr hname.ne_nil
  rw [steps?]
  simp only [takeWhile_run hname.isNameChar hrest, dropWhile_run hname.isNameChar hrest, hempty,
    Bool.false_eq_true, if_false]

theorem steps?_element {inside rest : List Char} {index : Int}
    (hinside : ∀ char ∈ inside, char ≠ ']') (hindex : elementNumber? inside = some index) :
    steps? ('[' :: (inside ++ ']' :: rest)) = (steps? rest).map (.element index :: ·) := by
  have hrun : ∀ char ∈ inside, decide (char ≠ ']') = true := fun char hchar =>
    decide_eq_true (hinside char hchar)
  have hclosing : EndsRun (fun char => decide (char ≠ ']')) (']' :: rest) :=
    endsRun_cons (by decide) rest
  have hdrop := dropWhile_run hrun hclosing
  have htake := takeWhile_run hrun hclosing
  rw [steps?]
  split
  · rename_i after hafter
    rw [hdrop] at hafter
    cases hafter
    rw [htake, hindex]
  · rename_i hopen
    exact absurd hdrop (hopen rest)

theorem steps?_of_written {steps : List KeyStep} {text : List Char} (h : StepsWritten steps text) :
    steps? text = some steps := by
  induction h with
  | nil => rw [steps?]
  | cons hstep hrest ih =>
    cases hstep with
    | member hname => rw [List.cons_append, steps?_member hname hrest.endsRun, ih, Option.map_some]
    | element hbefore hnumber hafter =>
      rename_i before number after
      have hinside : ∀ char ∈ before ++ (number ++ after), char ≠ ']' := by
        intro char hchar
        simp only [List.mem_append] at hchar
        rcases hchar with hchar | hchar | hchar
        · exact hbefore.not_closing char hchar
        · exact hnumber.not_closing char hchar
        · exact hafter.not_closing char hchar
      have hindex := elementNumber?_eq_some_iff.mpr
        ((unpadded_append hbefore hafter hnumber.not_isPadding hnumber.ne_nil).symm ▸ hnumber)
      rw [List.cons_append, List.append_assoc, List.singleton_append,
        steps?_element hinside hindex, ih, Option.map_some]

theorem written_of_steps? {steps : List KeyStep} {text : List Char} (h : steps? text = some steps) :
    StepsWritten steps text := by
  fun_induction steps? text generalizing steps with
  | case1 =>
    cases h
    exact .nil
  | case3 =>
    rename_i rest name hname ih
    obtain ⟨later, hlater, rfl⟩ := Option.map_eq_some_iff.mp h
    have hwritten : NameWritten (rest.takeWhile isNameChar) :=
      ⟨fun hnil => hname (List.isEmpty_iff.mpr hnil), fun char => List.mem_takeWhile_imp⟩
    have hwhole : '.' :: rest =
        ('.' :: rest.takeWhile isNameChar) ++ rest.dropWhile isNameChar := by
      rw [List.cons_append, List.takeWhile_append_dropWhile]
    rw [hwhole]
    exact .cons (.member hwritten) (ih hlater)
  | case4 rest after hclosing index hindex ih =>
    obtain ⟨later, hlater, rfl⟩ := Option.map_eq_some_iff.mp h
    have hnumber := elementNumber?_eq_some_iff.mp hindex
    obtain ⟨before, behind, hbefore, hbehind, hinside⟩ :=
      exists_padding (rest.takeWhile (· ≠ ']'))
    have hstep := StepWritten.element hbefore hnumber hbehind
    rw [← hinside] at hstep
    have hwhole : '[' :: rest = '[' :: (rest.takeWhile (· ≠ ']') ++ [']']) ++ after :=
      calc '[' :: rest
        _ = '[' :: (rest.takeWhile (· ≠ ']') ++ rest.dropWhile (· ≠ ']')) := by
          rw [List.takeWhile_append_dropWhile]
        _ = '[' :: (rest.takeWhile (· ≠ ']') ++ ']' :: after) := by rw [hclosing]
        _ = '[' :: (rest.takeWhile (· ≠ ']') ++ [']']) ++ after := by
          rw [List.cons_append, List.append_assoc, List.singleton_append]
    rw [hwhole]
    exact .cons hstep (ih hlater)
  | case2 => cases h
  | case5 => cases h
  | case6 => cases h
  | case7 => cases h

/-! ## Paths -/

/-- **Reading accepts exactly what the rules write**, and reads it as it was meant: `ofText?` is
    `PathWritten`. -/
theorem ofText?_eq_some_iff {path : KeyPath} {text : List Char} :
    ofText? text = some path ↔ PathWritten path text := by
  constructor
  · intro h
    rw [ofText?] at h
    obtain ⟨hroot, hpath⟩ := Option.ite_none_left_eq_some.mp h
    obtain ⟨steps, hsteps, rfl⟩ := Option.map_eq_some_iff.mp hpath
    refine ⟨⟨fun hnil => hroot (List.isEmpty_iff.mpr hnil), fun char => List.mem_takeWhile_imp⟩,
      text.dropWhile isNameChar, written_of_steps? hsteps, ?_⟩
    exact List.takeWhile_append_dropWhile.symm
  · rintro ⟨hroot, rest, hrest, rfl⟩
    have hempty : path.root.isEmpty = false := List.isEmpty_eq_false_iff.mpr hroot.ne_nil
    simp only [ofText?, takeWhile_run hroot.isNameChar hrest.endsRun,
      dropWhile_run hroot.isNameChar hrest.endsRun, hempty, Bool.false_eq_true, if_false,
      steps?_of_written hrest, Option.map_some]

end Guarded.Settings
