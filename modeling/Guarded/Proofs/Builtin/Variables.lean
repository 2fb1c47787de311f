import Guarded.Builtin.Variables
import Guarded.Proofs.Settings.KeyPath

set_option autoImplicit false

/-! # Settings from variables are as documented

`Configuration.builtin` is as `Configuration.Documented` says.

Main statement: `Configuration.builtin_documented`. -/

namespace Guarded.Settings

/-! ## Keys -/

theorem lowerName_ascii {name : String} (ascii : ∀ char ∈ name.toList, char.toNat < 128) :
    lowerName name = name.toList.map Char.toLower := by
  refine List.map_congr_left fun char hchar => ?_
  have hne : char ≠ '\u212a' := by
    rintro rfl
    exact absurd (ascii _ hchar) (by decide)
  rw [lowerChar, if_neg hne]

theorem keyPathOf_of_written {path : KeyPath} {key : List Char} (h : PathWritten path key) :
    keyPathOf key = path := by
  rw [keyPathOf, ofText?_eq_some_iff.mpr h, Option.getD_some]

theorem keyPathOf_of_other {key : List Char} (h : ∀ path, ¬ PathWritten path key) :
    keyPathOf key = ⟨key, []⟩ := by
  have hnone : KeyPath.ofText? key = none :=
    Option.eq_none_iff_forall_ne_some.mpr fun path hpath => h path (ofText?_eq_some_iff.mp hpath)
  rw [keyPathOf, hnone, Option.getD_none]

/-- Of the values that are given for a key, `latest` has the last. -/
theorem isMapOf_latest (given : List (List Char × String)) : IsMapOf given (latest given) := by
  induction given with
  | nil => exact ⟨.nil, nofun, nofun⟩
  | cons entry rest ih =>
    obtain ⟨key, value⟩ := entry
    rw [latest]
    split
    · rename_i again
      refine ⟨ih.distinct, fun other h => List.mem_cons_of_mem _ (ih.sound other h), ?_⟩
      intro other h
      rcases List.mem_cons.mp h with rfl | h
      · obtain ⟨later, hlater, hkey⟩ := List.mem_map.mp again
        obtain ⟨kept, hkept, hsame⟩ := ih.complete later hlater
        exact ⟨kept, hkept, hsame.trans hkey⟩
      · exact ih.complete other h
    · rename_i once
      refine ⟨List.nodup_cons.mpr ⟨fun h => once ?_, ih.distinct⟩, ?_, ?_⟩
      · obtain ⟨other, hother, hkey⟩ := List.mem_map.mp h
        exact List.mem_map.mpr ⟨other, ih.sound other hother, hkey⟩
      · intro other h
        exact List.mem_cons.mpr ((List.mem_cons.mp h).imp_right (ih.sound other))
      · intro other h
        rcases List.mem_cons.mp h with rfl | h
        · exact ⟨_, List.mem_cons_self, rfl⟩
        · obtain ⟨kept, hkept, hsame⟩ := ih.complete other h
          exact ⟨kept, List.mem_cons_of_mem _ hkept, hsame⟩

/-! ## The library -/

theorem Configuration.builtin_documented : Configuration.builtin.Documented where
  lower_ascii := lowerName_ascii
  keyPath_written := keyPathOf_of_written
  keyPath_other := keyPathOf_of_other
  setDefault_written {path key} written value := by
    refine ⟨[(path, value)], ?_, rfl⟩
    rw [← keyPathOf_of_written written]
    rfl
  placements_addVariables builder namePrefix environment :=
    ⟨_, isMapOf_latest _, rfl⟩
  build_eq builder := rfl
  node?_put_name roots name value := if_pos rfl
  node?_put_member roots name member steps value := if_pos rfl
  node?_put_element roots name index h steps value := if_pos rfl
  node?_put_congr {roots roots' path} _ value := (if_pos rfl).trans (if_pos rfl).symm
  node?_put_of_ne roots path name h value := if_neg h
  text_eq roots name := rfl

end Guarded.Settings
