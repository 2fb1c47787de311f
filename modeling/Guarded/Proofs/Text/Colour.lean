import Guarded.Proofs.Text.Run
import Guarded.Text.Terminal

set_option autoImplicit false

/-! # Texts with and without colours

Parts of a text that are set off stand between control sequences that set colours and the like. Such
a sequence can be deleted from a text without knowing what the text is about: it begins with an
escape and a bracket, has numbers in it, and ends with the letter m. From a text that is put
together of such sequences and of parts without escapes nothing is lost then but the sequences.

Main statement: `FadesTo.eq`. -/

namespace Guarded.Text.Terminal

/-! ## Deleting colour sequences -/

/-- The characters of the numbers in a colour sequence, digits and `;`. -/
def isColourParameter (c : Char) : Bool := c.isDigit || c = ';'

/-- What follows the colour sequence `ESC [ … m` with which a text begins, if it begins with one. -/
def afterColour? : List Char → Option (List Char)
  | '\x1b' :: '[' :: rest =>
    match rest.dropWhile isColourParameter with
    | 'm' :: after => some after
    | _ => none
  | _ => none

theorem length_afterColour? {text after : List Char} (h : afterColour? text = some after) :
    after.length < text.length := by
  unfold afterColour? at h
  split at h
  · rename_i rest
    have hshorter := (List.dropWhile_suffix (l := rest) isColourParameter).length_le
    split at h
    · rename_i hafter
      cases h
      rw [hafter] at hshorter
      simp only [List.length_cons] at *
      omega
    · cases h
  · cases h

def uncolour (text : List Char) : List Char :=
  match text with
  | [] => []
  | c :: rest =>
    match _ : afterColour? (c :: rest) with
    | some after => uncolour after
    | none => c :: uncolour rest
  termination_by text.length
  decreasing_by
    · exact length_afterColour? ‹_›
    · exact Nat.lt_succ_self _

/-- A text without its colour sequences, by `uncolour`. -/
def withoutColours (text : String) : String := String.ofList (uncolour text.toList)

theorem uncolour_of_colour {text after : List Char} (h : afterColour? text = some after) :
    uncolour text = uncolour after := by
  cases text with
  | nil => cases h
  | cons c rest =>
    rw [uncolour]
    split
    · rename_i hafter
      rw [Option.some.inj (h.symm.trans hafter)]
    · rename_i hnone
      cases h.symm.trans hnone

theorem uncolour_cons_of_ne {c : Char} (h : c ≠ '\x1b') (rest : List Char) :
    uncolour (c :: rest) = c :: uncolour rest := by
  have hnone : afterColour? (c :: rest) = none := by
    unfold afterColour?
    split
    · rename_i hsame
      exact absurd (List.cons.inj hsame).1 h
    · rfl
  rw [uncolour]
  split
  · rename_i hafter
    cases hnone.symm.trans hafter
  · rfl

theorem uncolour_append {text : List Char} (h : '\x1b' ∉ text) (rest : List Char) :
    uncolour (text ++ rest) = text ++ uncolour rest := by
  induction text with
  | nil => rfl
  | cons c text ih =>
    rw [List.mem_cons, not_or] at h
    rw [List.cons_append, uncolour_cons_of_ne (Ne.symm h.1), ih h.2, List.cons_append]

/-! ## Texts that lose their colours -/

/-- Whether `coloured` becomes `plain` without its colour sequences, whatever follows it. -/
def FadesTo (coloured plain : String) : Prop :=
  ∀ rest, uncolour (coloured.toList ++ rest) = plain.toList ++ uncolour rest

theorem fadesTo_self {text : String} (h : '\x1b' ∉ text.toList) : FadesTo text text :=
  uncolour_append h

theorem FadesTo.append {coloured coloured' plain plain' : String} (h : FadesTo coloured plain)
    (h' : FadesTo coloured' plain') : FadesTo (coloured ++ coloured') (plain ++ plain') := by
  intro rest
  rw [String.toList_append, String.toList_append, List.append_assoc, h, h', List.append_assoc]

theorem fadesTo_empty : FadesTo "" "" := fun _ => rfl

theorem FadesTo.join {α : Type} {items : List α} {coloured plain : α → String}
    (h : ∀ item ∈ items, FadesTo (coloured item) (plain item)) :
    FadesTo (String.join (items.map coloured)) (String.join (items.map plain)) := by
  induction items with
  | nil => exact fadesTo_empty
  | cons item items ih =>
    obtain ⟨hitem, hitems⟩ := List.forall_mem_cons.mp h
    rw [List.map_cons, List.map_cons, String.join_cons, String.join_cons]
    exact hitem.append (ih hitems)

/-- Nothing is left of a colour sequence, as `control` writes it. -/
theorem fadesTo_control {parameter : String}
    (h : ∀ c ∈ parameter.toList, isColourParameter c = true) : FadesTo (control parameter) "" := by
  intro rest
  have hdrop : (parameter.toList ++ 'm' :: rest).dropWhile isColourParameter = 'm' :: rest :=
    dropWhile_run h (endsRun_cons (by decide) rest)
  have hafter : afterColour? ('\x1b' :: '[' :: (parameter.toList ++ 'm' :: rest)) = some rest := by
    simp only [afterColour?, hdrop]
  have hchars : (control parameter).toList ++ rest =
      '\x1b' :: '[' :: (parameter.toList ++ 'm' :: rest) := by
    simp [control]
  rw [hchars, uncolour_of_colour hafter]
  rfl

theorem isColourParameter_of_mem (accent : Accent) :
    ∀ c ∈ accent.parameter.toList, isColourParameter c = true := by
  rw [← List.all_eq_true]
  cases accent <;> decide

theorem fadesTo_accented (accents : List Accent) {text : String} (h : '\x1b' ∉ text.toList) :
    FadesTo (accented accents text) text := by
  have hbefore : FadesTo (String.join (accents.map (control ·.parameter))) "" := by
    induction accents with
    | nil => exact fadesTo_empty
    | cons accent accents ih =>
      rw [List.map_cons, String.join_cons]
      exact (fadesTo_control (isColourParameter_of_mem accent)).append ih
  have hafter : FadesTo (control "0") "" :=
    fadesTo_control (List.all_eq_true.mp (by decide))
  have hwhole := (hbefore.append (fadesTo_self h)).append hafter
  rwa [String.empty_append, String.append_empty] at hwhole

/-- In whatever style a part of a text is written, without colours it is `text`. -/
theorem Style.fadesTo (style : Style) (accents : List Accent) {text : String}
    (h : '\x1b' ∉ text.toList) : FadesTo (style.accented accents text) text := by
  cases style with
  | plain => exact fadesTo_self h
  | coloured => exact fadesTo_accented accents h

theorem FadesTo.eq {coloured plain : String} (h : FadesTo coloured plain) :
    withoutColours coloured = plain := by
  have hchars := h []
  rw [List.append_nil, uncolour, List.append_nil] at hchars
  rw [withoutColours, hchars, String.ofList_toList]

end Guarded.Text.Terminal
