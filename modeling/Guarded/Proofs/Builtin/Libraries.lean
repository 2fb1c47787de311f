import Guarded.CommandLine.Run
import Guarded.Proofs.Builtin.Arguments
import Guarded.Proofs.Builtin.Variables
import Guarded.Proofs.Log.Line

set_option autoImplicit false

/-! # The libraries that can be run are as documented

`Subscriber.builtin` is as `Subscriber.Documented` says and `Reporter.builtin` as
`Reporter.Documented` says. The other libraries of `Libraries.builtin` have modules of their own.

Main statements: `Subscriber.builtin_documented`, `Reporter.builtin_documented`. -/

namespace Guarded

namespace Log

/-! ## The log -/

/-- Parts that `mapM` reads are all there when `filterMap` leaves out what cannot be read. -/
theorem filterMap_of_mapM {parts : List (List Char)} {directives : List Directive}
    (h : parts.mapM Directive.ofText? = some directives) :
    parts.filterMap Directive.ofText? = directives := by
  induction parts generalizing directives with
  | nil =>
    cases h
    rfl
  | cons part parts ih =>
    rw [List.mapM_cons] at h
    obtain ⟨directive, hpart, h⟩ := Option.bind_eq_some_iff.mp h
    obtain ⟨rest, hrest, h⟩ := Option.bind_eq_some_iff.mp h
    cases h
    rw [List.filterMap_cons, hpart, ih hrest]

theorem ofTextLossy_of_ofText? {text : String} {filter : Filter}
    (h : Filter.ofText? text = some filter) : Filter.ofTextLossy text = filter := by
  rw [Filter.ofText?] at h
  rw [Filter.ofTextLossy]
  split at h
  · exact Option.some.inj h
  · obtain ⟨directives, hread, rfl⟩ := Option.map_eq_some_iff.mp h
    rw [filterMap_of_mapM hread]

theorem ofText?_levelName (level : Level) :
    Filter.ofText? (levelName level) = some ⟨[⟨[], .upTo level⟩]⟩ := by
  cases level <;> decide

theorem enables_upTo (level : Level) (metadata : LogRecord.Metadata) :
    Filter.enables ⟨[⟨[], .upTo level⟩]⟩ metadata =
      decide (metadata.level.rank ≤ level.rank) := rfl

theorem Subscriber.builtin_documented : Subscriber.builtin.Documented where
  ofEnvironment?_eq _ := rfl
  readLossy_of_read? := ofTextLossy_of_ofText?
  read?_levelName level := ⟨_, ofText?_levelName level, enables_upTo level⟩
  style_eq _ := rfl
  format_eq _ _ _ _ _ := rfl

end Log

namespace CommandLine

/-! ## The report -/

theorem escape_not_mem_append {text other : String} (h : '\x1b' ∉ text.toList)
    (hother : '\x1b' ∉ other.toList) : '\x1b' ∉ (text ++ other).toList := by
  rw [String.toList_append, List.mem_append, not_or]
  exact ⟨h, hother⟩

theorem escape_not_mem_numberedReport {message : String} {causes : List String}
    (hmessage : '\x1b' ∉ message.toList) (hcauses : ∀ cause ∈ causes, '\x1b' ∉ cause.toList) :
    '\x1b' ∉ (numberedReport message causes).toList := by
  refine escape_not_mem_append (escape_not_mem_append hmessage (by decide)) ?_
  simp only [String.toList_join, List.mem_flatMap, List.mem_map, not_exists, not_and]
  rintro _ ⟨⟨cause, number⟩, hmem, rfl⟩
  have hcause := hcauses cause (List.fst_mem_of_mem_zipIdx hmem)
  exact escape_not_mem_append (escape_not_mem_append (escape_not_mem_append (by decide)
    (plain_nat number).escape) (by decide)) hcause

theorem Reporter.builtin_documented : Reporter.builtin.Documented where
  report_untraced {environment} untraced message causes several few single := by
    match causes, several with
    | _ :: _ :: _, _ => rfl
  report_congr _ _ := rfl
  report_uncoloured environment message causes hmessage hcauses := by
    match causes with
    | [cause] =>
      exact escape_not_mem_append (escape_not_mem_append hmessage (by decide))
        (hcauses cause List.mem_cons_self)
    | [] => exact escape_not_mem_numberedReport hmessage hcauses
    | _ :: _ :: _ => exact escape_not_mem_numberedReport hmessage hcauses

end CommandLine

end Guarded
