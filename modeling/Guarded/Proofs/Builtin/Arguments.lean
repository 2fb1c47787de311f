import Guarded.Builtin.Arguments

set_option autoImplicit false

/-! # The reader of arguments is as documented

`Parser.builtin` is as `Parser.Documented` says.

Main statement: `Parser.builtin_documented`. -/

namespace Guarded.CommandLine

/-! ## Requests -/

theorem ofLong_eq_obey_iff {text : List Char} {flag : Flag} :
    Request.ofLong text = .obey flag ↔ text = flag.longName.toList := by
  constructor
  · intro h
    simp only [Request.ofLong] at h
    split at h
    · rename_i found found_eq no_value
      cases h
      have name := List.find?_some found_eq
      simp only [decide_eq_true_eq] at name
      have whole : text.takeWhile (· ≠ '=') ++ text.dropWhile (· ≠ '=') = text :=
        List.takeWhile_append_dropWhile
      rw [no_value, List.append_nil] at whole
      exact whole.symm.trans name.symm
    · cases h
    · cases h
  · rintro rfl
    cases flag <;> rfl

theorem ofShort?_eq_some_iff {name : Char} {flag : Flag} :
    Flag.ofShort? name = some flag ↔ name = flag.shortName := by
  constructor
  · intro h
    have found := List.find?_some h
    simp only [decide_eq_true_eq] at found
    exact found.symm
  · rintro rfl
    cases flag <;> rfl

theorem ofArgument_eq_obey_iff {argument : String} {flag : Flag} :
    Request.ofArgument argument.toList = .obey flag ↔ flag.IsAskedBy argument := by
  have dashed : argument = flag.dashed ↔ argument.toList = '-' :: '-' :: flag.longName.toList := by
    rw [← String.toList_inj, Flag.dashed, String.toList_append]
    rfl
  have short : flag.shortName ≠ '-' := by cases flag <;> decide
  rw [Flag.IsAskedBy, dashed]
  generalize argument.toList = text
  unfold Request.ofArgument
  split
  · simp only [ofLong_eq_obey_iff, List.cons.injEq, true_and, short.symm, false_and, exists_const,
      or_false]
  · simp
  · rename_i c joined notDash
    have long : '-' :: c :: joined ≠ '-' :: '-' :: flag.longName.toList := by
      intro same
      cases same
      exact notDash rfl
    have named : ('-' :: c :: joined = '-' :: '-' :: flag.longName.toList ∨
        ∃ others, '-' :: c :: joined = '-' :: flag.shortName :: others) ↔
        Flag.ofShort? c = some flag := by
      rw [ofShort?_eq_some_iff]
      simp [long]
    rw [named]
    cases Flag.ofShort? c <;> simp
  · rename_i noLong _ noShort
    have long : text ≠ '-' :: '-' :: flag.longName.toList := fun same => noLong _ same
    have short : ¬ ∃ joined, text = '-' :: flag.shortName :: joined := by
      rintro ⟨joined, same⟩
      exact noShort _ _ same
    simp [long, short]

/-- An argument before a `--` always decides. -/
theorem ofArgument_ne_demonstrate (argument : List Char) :
    Request.ofArgument argument ≠ .demonstrate := by
  unfold Request.ofArgument
  split
  · unfold Request.ofLong
    dsimp only
    split <;> simp
  · simp
  · split <;> simp
  · simp

theorem ofArguments_of_ne {first : String} (h : first ≠ "--") (rest : List String) :
    Request.ofArguments (first :: rest) = Request.ofArgument first.toList := by
  simp only [Request.ofArguments, if_neg h]

/-- What ends the program ends it whatever follows; there may be `more`. -/
theorem ofArguments_append {arguments : List String}
    (h : Request.ofArguments arguments ≠ .demonstrate) (more : List String) :
    Request.ofArguments (arguments ++ more) = Request.ofArguments arguments := by
  match arguments with
  | [] => exact absurd rfl h
  | [first] =>
    by_cases dash : first = "--"
    · subst dash
      exact absurd rfl h
    · rw [List.singleton_append, ofArguments_of_ne dash, ofArguments_of_ne dash]
  | first :: second :: rest =>
    by_cases dash : first = "--"
    · subst dash
      rfl
    · rw [List.cons_append, ofArguments_of_ne dash, ofArguments_of_ne dash]

/-! ## Results -/

theorem ne_demonstrate_of_result {command : Command} {request : Request} {error : ParseError}
    (h : request.result command = .error error) : request ≠ .demonstrate := by
  rintro rfl
  cases h

theorem isDisplay_kind (error : ArgumentError) : error.kind.isDisplay = false := by
  cases error <;> rfl

theorem result_of_other (command : Command) {request : Request} (asks : request ≠ .demonstrate)
    (other : ∀ flag, request ≠ .obey flag) :
    ∃ error, request.result command = .error error ∧ error.kind.isDisplay = false := by
  cases request with
  | obey flag => exact absurd rfl (other flag)
  | demonstrate => exact absurd rfl asks
  | refuse error => exact ⟨_, rfl, isDisplay_kind error⟩

theorem textStyle_of_unforced {environment : Environment}
    (unforced : isSet environment "CLICOLOR_FORCE" = false) : textStyle environment = .plain := by
  rw [textStyle, unforced]
  rfl

/-! ## The library -/

theorem Parser.builtin_documented : Parser.builtin.Documented where
  parse_nil command := rfl
  parse_dashes command := rfl
  parse_append {command arguments error} h more := by
    have asks : Request.ofArguments arguments ≠ .demonstrate := ne_demonstrate_of_result h
    exact (congrArg (·.result command) (ofArguments_append asks more)).trans h
  parse_value command value := ⟨_, rfl⟩
  parse_flag command {flag argument} asked := by
    have dash : argument ≠ "--" := by
      rintro rfl
      have obeyed := ofArgument_eq_obey_iff.mpr asked
      cases flag <;> cases obeyed
    refine ⟨flag.text command, ?_⟩
    change (Request.ofArguments [argument]).result command = _
    rw [ofArguments_of_ne dash, ofArgument_eq_obey_iff.mpr asked]
    rfl
  parse_other command {argument} ne other := by
    change ∃ error, (Request.ofArguments [argument]).result command = .error error ∧ _
    rw [ofArguments_of_ne ne]
    exact result_of_other command (ofArgument_ne_demonstrate _) fun flag obeyed =>
      other flag (ofArgument_eq_obey_iff.mp obeyed)
  usesStderr_eq kind := rfl
  exitCode_eq kind := rfl
  print_unforced {environment environment'} h h' := by
    funext text
    change (textStyle environment).finish text = (textStyle environment').finish text
    rw [textStyle_of_unforced h, textStyle_of_unforced h']

end Guarded.CommandLine
