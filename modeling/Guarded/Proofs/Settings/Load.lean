import Mathlib.Data.List.Nodup
import Guarded.Proofs.Builtin.Variables
import Guarded.Settings.Load

set_option autoImplicit false

/-! # What loading settings depends on

Of all variables only those count that are called the log level or lead into it, in letters of any
case: those with `SpeaksOfLevel`. Where there is one such variable, its name alone decides whether
`Configuration.load` succeeds, and if it does, the value of the variable is the setting. Where there
is none, the settings are the `default`. All of this is said of any library that is as
`Configuration.Documented` says.

A tree is built by one `put` after another, and at `logLevelKey` only a `put` with this root makes a
difference (`node?_foldl_of_ne`). The variables come out of a map in an order that is not known, so
what is put there is found by its key.

Main statement: `load_of_level_variables`. -/

namespace Guarded.Settings

open CommandLine (Environment)

/-! ## The variables of the log level -/

/-- What the variable of the log level is called, `ZERODIV_LOG_LEVEL`, in lower case. -/
def levelName : List Char := "zerodiv_log_level".toList

variable (configuration : Configuration)

/-- Whether a variable leads into the log level, and by which steps: in lower case its name is
    `levelName`, and then the steps. The variable of the log level itself leads there by `[]`. -/
def LeadsTo (steps : List KeyStep) (name : String) : Prop :=
  ∃ rest, StepsWritten steps rest ∧ configuration.lower name = levelName ++ rest

/-- Whether a variable speaks of the log level: it leads there by some `steps`, or by none. -/
def SpeaksOfLevel (name : String) : Prop := ∃ steps, LeadsTo configuration steps name

/-- Whether a variable speaks of the log level can be read off its name, by `KeyPath.steps?`. -/
theorem speaksOfLevel_iff (name : String) : SpeaksOfLevel configuration name ↔
    levelName <+: configuration.lower name ∧
      (KeyPath.steps? ((configuration.lower name).drop levelName.length)).isSome = true := by
  constructor
  · rintro ⟨steps, rest, hrest, hname⟩
    rw [hname, List.drop_left, steps?_of_written hrest]
    exact ⟨List.prefix_append _ _, rfl⟩
  · rintro ⟨⟨rest, hrest⟩, hsteps⟩
    rw [← hrest, List.drop_left] at hsteps
    obtain ⟨steps, hsteps⟩ := Option.isSome_iff_exists.mp hsteps
    exact ⟨steps, rest, written_of_steps? hsteps, hrest.symm⟩

instance (name : String) : Decidable (SpeaksOfLevel configuration name) :=
  decidable_of_iff _ (speaksOfLevel_iff configuration name).symm

/-- The variables of an environment with `SpeaksOfLevel`. -/
def levelVariables (environment : Environment) : Environment :=
  environment.filter fun (name, _) => SpeaksOfLevel configuration name

variable {configuration}

theorem leadsTo_nil_iff {name : String} :
    LeadsTo configuration [] name ↔ configuration.lower name = levelName := by
  constructor
  · rintro ⟨_, ⟨⟩, hname⟩
    rw [hname, List.append_nil]
  · intro h
    exact ⟨[], .nil, by rw [h, List.append_nil]⟩

theorem mem_levelVariables {environment : Environment} {name value : String}
    (hmem : (name, value) ∈ environment) {steps : List KeyStep}
    (h : LeadsTo configuration steps name) :
    (name, value) ∈ levelVariables configuration environment :=
  List.mem_filter.mpr ⟨hmem, decide_eq_true ⟨steps, h⟩⟩

/-- A character whose lower case is one of the first `128` is one of them itself. -/
theorem toNat_lt_of_toLower {char : Char} (h : char.toLower.toNat < 128) : char.toNat < 128 := by
  by_cases hupper : 'A'.val ≤ char.val ∧ char.val ≤ 'Z'.val
  · exact Nat.lt_of_le_of_lt hupper.2 (by decide)
  · have hsame : char.toLower = char := dif_neg hupper
    rwa [hsame] at h

/-- `levelName` in letters of any case. -/
theorem lower_of_toLower (documented : configuration.Documented) {name : String}
    (h : name.toList.map Char.toLower = levelName) : configuration.lower name = levelName := by
  have hlevel : levelName.all (fun char => char.toNat < 128) = true := by decide
  simp only [List.all_eq_true, decide_eq_true_eq] at hlevel
  have hascii : ∀ char ∈ name.toList, char.toNat < 128 := fun char hchar =>
    toNat_lt_of_toLower (hlevel _ (h ▸ List.mem_map_of_mem hchar))
  rw [documented.lower_ascii hascii, h]

/-! ## Keys -/

theorem keyOf?_eq_some_iff {lower : String → List Char} {namePrefix name : String}
    {key : List Char} : keyOf? lower namePrefix name = some key ↔
      lower name = lower namePrefix ++ ['_'] ++ key := by
  constructor
  · intro h
    obtain ⟨hbegins, hkey⟩ := Option.ite_none_right_eq_some.mp h
    obtain ⟨rest, hrest⟩ := List.isPrefixOf_iff_prefix.mp hbegins
    rw [← hrest, List.drop_left] at hkey
    cases hkey
    exact hrest.symm
  · intro h
    have hbegins : (lower namePrefix ++ ['_']).isPrefixOf (lower name) = true :=
      List.isPrefixOf_iff_prefix.mpr ⟨key, h.symm⟩
    rw [keyOf?, if_pos hbegins, h, List.drop_left]

theorem mem_keysGiven {lower : String → List Char} {namePrefix : String}
    {environment : Environment} {key : List Char} {value : String} :
    (key, value) ∈ keysGiven lower namePrefix environment ↔
      ∃ name, (name, value) ∈ environment ∧ lower name = lower namePrefix ++ ['_'] ++ key := by
  simp only [keysGiven, List.mem_filterMap, Option.map_eq_some_iff, keyOf?_eq_some_iff]
  constructor
  · rintro ⟨⟨name, value⟩, hmem, key, hname, ⟨⟩⟩
    exact ⟨name, hmem, hname⟩
  · rintro ⟨name, hmem, hname⟩
    exact ⟨(name, value), hmem, key, hname, rfl⟩

theorem nameWritten_logLevelKey : NameWritten logLevelKey :=
  ⟨by decide, List.all_eq_true.mp (by decide)⟩

theorem pathWritten_logLevelKey : PathWritten ⟨logLevelKey, []⟩ logLevelKey :=
  ⟨nameWritten_logLevelKey, [], .nil, (List.append_nil _).symm⟩

section

variable (documented : configuration.Documented)
include documented

theorem lower_variablePrefix : configuration.lower variablePrefix = "zerodiv".toList := by
  have hascii : variablePrefix.toList.all (fun char => char.toNat < 128) = true := by decide
  simp only [List.all_eq_true, decide_eq_true_eq] at hascii
  rw [documented.lower_ascii hascii]
  rfl

/-- A key stands for a path into the log level only if it is `PathWritten` as one. -/
theorem keyPath_eq_iff {key : List Char} {steps : List KeyStep} :
    configuration.keyPath key = ⟨logLevelKey, steps⟩ ↔
      PathWritten ⟨logLevelKey, steps⟩ key := by
  constructor
  · intro h
    by_cases written : ∃ path, PathWritten path key
    · obtain ⟨path, hpath⟩ := written
      rw [documented.keyPath_written hpath] at h
      exact h ▸ hpath
    · rw [documented.keyPath_other (not_exists.mp written)] at h
      cases h
      exact absurd ⟨_, pathWritten_logLevelKey⟩ written
  · exact documented.keyPath_written

theorem leadsTo_iff {name : String} {key : List Char}
    (hname : configuration.lower name = configuration.lower variablePrefix ++ ['_'] ++ key)
    {steps : List KeyStep} :
    LeadsTo configuration steps name ↔ configuration.keyPath key = ⟨logLevelKey, steps⟩ := by
  have hlevel : levelName = configuration.lower variablePrefix ++ ['_'] ++ logLevelKey := by
    rw [lower_variablePrefix documented]
    rfl
  rw [keyPath_eq_iff documented, LeadsTo]
  constructor
  · rintro ⟨rest, hrest, hsame⟩
    rw [hname, hlevel, List.append_assoc _ logLevelKey] at hsame
    exact ⟨nameWritten_logLevelKey, rest, hrest, List.append_cancel_left hsame⟩
  · rintro ⟨-, rest, hrest, rfl⟩
    exact ⟨rest, hrest, by rw [hname, hlevel, List.append_assoc _ logLevelKey]⟩

theorem exists_key_of_leadsTo {name : String} {steps : List KeyStep}
    (h : LeadsTo configuration steps name) : ∃ key,
      configuration.lower name = configuration.lower variablePrefix ++ ['_'] ++ key := by
  obtain ⟨rest, -, hname⟩ := h
  refine ⟨logLevelKey ++ rest, ?_⟩
  rw [hname, lower_variablePrefix documented]
  rfl

/-! ## Trees -/

/-- What is put at another `root` leaves a name alone. -/
theorem node?_foldl_of_ne {name : List Char} (placements : List Placement)
    (h : ∀ placement ∈ placements, placement.1.root ≠ name) (tree : configuration.Tree) :
    configuration.node? (placements.foldl configuration.put tree) name =
      configuration.node? tree name := by
  induction placements generalizing tree with
  | nil => rfl
  | cons placement placements ih =>
    obtain ⟨hplacement, hplacements⟩ := List.forall_mem_cons.mp h
    obtain ⟨path, value⟩ := placement
    rw [List.foldl_cons, ih hplacements, documented.node?_put_of_ne tree hplacement]

end

/-! ## Loading -/

/-- The settings that a node at `logLevelKey` makes. -/
def ofNode? (node : Option Node) : Except ConfigError Settings :=
  (Node.text? logLevelKey node).map Settings.mk

/-- The tree with the default in it, `startLevel` at `logLevelKey`. -/
def startTree (configuration : Configuration) : configuration.Tree :=
  configuration.put configuration.empty (⟨logLevelKey, []⟩, startLevel)

/-- What is put where, by keys with values: each at its `keyPath`. -/
def placed (configuration : Configuration) (entries : List (List Char × String)) :
    List Placement :=
  entries.map fun (key, value) => (configuration.keyPath key, value)

theorem placed_append (entries more : List (List Char × String)) :
    placed configuration (entries ++ more) =
      placed configuration entries ++ placed configuration more :=
  List.map_append

theorem placed_cons (key : List Char) (value : String) (entries : List (List Char × String)) :
    placed configuration ((key, value) :: entries) =
      (configuration.keyPath key, value) :: placed configuration entries := rfl

section

variable (documented : configuration.Documented)
include documented

/-- Loading puts what the variables give on top of `startTree`, in the order of some map. -/
theorem exists_load_eq (environment : Environment) :
    ∃ entries, IsMapOf (keysGiven configuration.lower variablePrefix environment) entries ∧
      configuration.load environment = ofNode? (configuration.node?
        ((placed configuration entries).foldl configuration.put (startTree configuration))
        logLevelKey) := by
  obtain ⟨builder, hbuilder, hdefault⟩ :=
    documented.setDefault_written pathWritten_logLevelKey startLevel
  obtain ⟨entries, hentries, hplaced⟩ :=
    documented.placements_addVariables builder variablePrefix environment
  refine ⟨entries, hentries, ?_⟩
  have hbuild := documented.build_eq
    (configuration.addVariables builder variablePrefix environment)
  rw [hplaced, hdefault, List.singleton_append, List.foldl_cons] at hbuild
  have htaken : ∀ tree, (do return ⟨← configuration.text tree logLevelKey⟩ : Except _ Settings) =
      ofNode? (configuration.node? tree logLevelKey) := by
    intro tree
    rw [documented.text_eq, ofNode?]
    cases Node.text? logLevelKey (configuration.node? tree logLevelKey) <;> rfl
  rw [Configuration.load, hbuilder]
  change (do
    let tree ← configuration.build (configuration.addVariables builder variablePrefix environment)
    return ⟨← configuration.text tree logLevelKey⟩ : Except _ Settings) = _
  rw [hbuild]
  exact htaken _

/-- A variable that gives an entry at the root `logLevelKey` speaks of the log level. -/
theorem exists_levelVariable {environment : Environment} {entries : List (List Char × String)}
    (hentries : IsMapOf (keysGiven configuration.lower variablePrefix environment) entries)
    {key : List Char} {value : String} (hmem : (key, value) ∈ entries)
    (hroot : (configuration.keyPath key).root = logLevelKey) :
    ∃ name, (name, value) ∈ levelVariables configuration environment ∧
      configuration.lower name = configuration.lower variablePrefix ++ ['_'] ++ key := by
  obtain ⟨name, hname, hkey⟩ := mem_keysGiven.mp (hentries.sound _ hmem)
  have hpath : configuration.keyPath key = ⟨logLevelKey, (configuration.keyPath key).steps⟩ := by
    rw [← hroot]
  exact ⟨name, mem_levelVariables hname ((leadsTo_iff documented hkey).mpr hpath), hkey⟩

/-- Without any of the `levelVariables`, the default is left. -/
theorem load_of_silent {environment : Environment}
    (silent : levelVariables configuration environment = []) :
    configuration.load environment = .ok default := by
  obtain ⟨entries, hentries, hload⟩ := exists_load_eq documented environment
  have hne : ∀ placement ∈ placed configuration entries, placement.1.root ≠ logLevelKey := by
    intro placement hplacement hroot
    obtain ⟨⟨key, value⟩, hmem, rfl⟩ := List.mem_map.mp hplacement
    obtain ⟨name, hname, -⟩ := exists_levelVariable documented hentries hmem hroot
    rw [silent] at hname
    cases hname
  rw [hload, node?_foldl_of_ne documented _ hne, startTree, documented.node?_put_name]
  rfl

end

section

variable {environment : Environment}
  (sole : (levelVariables configuration environment).length ≤ 1)
include sole

/-- Where there is at most one in `levelVariables`, a variable that leads to the log level is the
    one. -/
theorem eq_of_mem_levelVariables {entry other : String × String}
    (h : entry ∈ levelVariables configuration environment)
    (hother : other ∈ levelVariables configuration environment) : other = entry := by
  obtain ⟨only, honly⟩ := List.length_eq_one_iff.mp
    (Nat.le_antisymm sole (List.length_pos_of_mem h))
  rw [honly, List.mem_singleton] at h hother
  rw [h, hother]

variable (documented : configuration.Documented)
include documented

/-- One placement is that of the only variable of the log level, and the others lie at other
    roots. -/
theorem exists_placed_eq {entries : List (List Char × String)}
    (hentries : IsMapOf (keysGiven configuration.lower variablePrefix environment) entries)
    {name value : String} (hmem : (name, value) ∈ environment) {steps : List KeyStep}
    (h : LeadsTo configuration steps name) :
    ∃ before after, placed configuration entries =
        placed configuration before ++ (⟨logLevelKey, steps⟩, value) ::
          placed configuration after ∧
      ∀ placement ∈ placed configuration (before ++ after), placement.1.root ≠ logLevelKey := by
  obtain ⟨key, hkey⟩ := exists_key_of_leadsTo documented h
  have hpath := (leadsTo_iff documented hkey).mp h
  have honly : ∀ entry ∈ entries, (configuration.keyPath entry.1).root = logLevelKey →
      entry = (key, value) := by
    rintro ⟨otherKey, otherValue⟩ hother hroot
    obtain ⟨other, hothers, hotherKey⟩ := exists_levelVariable documented hentries hother hroot
    cases eq_of_mem_levelVariables sole (mem_levelVariables hmem h) hothers
    rw [hkey] at hotherKey
    rw [List.append_cancel_left hotherKey]
  -- the map has some value for the key, and it can only be that of the variable
  obtain ⟨entry, hentry, rfl⟩ := hentries.complete _ (mem_keysGiven.mpr ⟨name, hmem, hkey⟩)
  obtain rfl : entry.2 = value := congrArg Prod.snd (honly entry hentry (by rw [hpath]))
  obtain ⟨before, after, rfl⟩ := List.append_of_mem hentry
  refine ⟨before, after, ?_, ?_⟩
  · rw [placed_append, placed_cons, hpath]
  · intro placement hplacement hroot
    obtain ⟨other, hother, rfl⟩ := List.mem_map.mp hplacement
    have hdistinct := hentries.distinct
    rw [List.map_append, List.map_cons, List.nodup_middle, ← List.map_append,
      List.nodup_cons] at hdistinct
    have hwhole : other ∈ before ++ entry :: after :=
      List.perm_middle.symm.mem_iff.mp (List.mem_cons_of_mem _ hother)
    cases honly other hwhole hroot
    exact hdistinct.1 (List.mem_map_of_mem hother)

/-- What the only variable of the log level puts into the tree is what `load` finds there in the
    end. -/
theorem load_of_leadsTo {name value : String} (hmem : (name, value) ∈ environment)
    {steps : List KeyStep} (h : LeadsTo configuration steps name) :
    configuration.load environment = ofNode? (configuration.node?
      (configuration.put (startTree configuration) (⟨logLevelKey, steps⟩, value))
      logLevelKey) := by
  obtain ⟨entries, hentries, hload⟩ := exists_load_eq documented environment
  obtain ⟨before, after, hplaced, hothers⟩ := exists_placed_eq sole documented hentries hmem h
  rw [placed_append, List.forall_mem_append] at hothers
  obtain ⟨hbefore, hafter⟩ := hothers
  rw [hload, hplaced, List.foldl_append, List.foldl_cons, node?_foldl_of_ne documented _ hafter]
  have hsame := node?_foldl_of_ne documented _ hbefore (startTree configuration)
  exact congrArg ofNode? (documented.node?_put_congr hsame value)

theorem load_of_lower {name value : String} (hmem : (name, value) ∈ environment)
    (h : configuration.lower name = levelName) :
    configuration.load environment = .ok ⟨value⟩ := by
  rw [load_of_leadsTo sole documented hmem (leadsTo_nil_iff.mpr h), documented.node?_put_name]
  rfl

theorem load_of_perm {environment' : Environment}
    (hperm : (levelVariables configuration environment').Perm
      (levelVariables configuration environment)) :
    configuration.load environment' = configuration.load environment := by
  cases hlevel : levelVariables configuration environment with
  | nil =>
    rw [load_of_silent documented hlevel,
      load_of_silent documented (List.perm_nil.mp (hlevel ▸ hperm))]
  | cons entry rest =>
    obtain ⟨name, value⟩ := entry
    have hmem : (name, value) ∈ levelVariables configuration environment :=
      hlevel ▸ List.mem_cons_self
    obtain ⟨hmem, hspeaks⟩ := List.mem_filter.mp hmem
    obtain ⟨hmem', -⟩ := List.mem_filter.mp (hperm.mem_iff.mpr (hlevel ▸ List.mem_cons_self))
    obtain ⟨steps, hsteps⟩ := of_decide_eq_true hspeaks
    rw [load_of_leadsTo sole documented hmem hsteps,
      load_of_leadsTo (hperm.length_eq ▸ sole) documented hmem' hsteps]

end

/-! ## The theorem -/

/-- **Loading depends on the variable of the log level alone.** Let no two variables of an
    environment speak of it. A variable that is called `levelName`, in letters of any case, gives
    the setting its value as it stands; one that `LeadsTo` a member makes it a map and one that
    leads to an element a sequence, however the path goes on. Without such a variable the settings
    are the `default`. And in whatever order other variables come, and whichever there are, the
    answer is the same. -/
theorem load_of_level_variables (configuration : Configuration)
    (documented : configuration.Documented) (environment : Environment)
    (sole : (levelVariables configuration environment).length ≤ 1) :
    (∀ name value, (name, value) ∈ environment →
      (name.toList.map Char.toLower = levelName ∨ configuration.lower name = levelName →
        configuration.load environment = .ok ⟨value⟩) ∧
      (∀ member steps, LeadsTo configuration (.member member :: steps) name →
        configuration.load environment = .error (.invalidType "map" logLevelKey)) ∧
      (∀ (index : Int) steps, 0 ≤ index → LeadsTo configuration (.element index :: steps) name →
        configuration.load environment = .error (.invalidType "sequence" logLevelKey))) ∧
    (levelVariables configuration environment = [] →
      configuration.load environment = .ok default) ∧
    (∀ environment', (levelVariables configuration environment').Perm
        (levelVariables configuration environment) →
      configuration.load environment' = configuration.load environment) := by
  refine ⟨fun name value hmem => ⟨fun hname => ?_, fun member steps h => ?_,
    fun index steps hindex h => ?_⟩, load_of_silent documented,
    fun environment' => load_of_perm sole documented⟩
  · exact load_of_lower sole documented hmem (hname.elim (lower_of_toLower documented) id)
  · rw [load_of_leadsTo sole documented hmem h, documented.node?_put_member]
    rfl
  · rw [load_of_leadsTo sole documented hmem h, documented.node?_put_element _ _ hindex]
    rfl

/-- Names that are nearly `levelName` do not count, and an empty value does. -/
theorem empty_level_among_near_misses :
    let environment := [("ZERODIVLOG_LEVEL", "trace"), ("zerodiv_log_levels", "debug"),
      ("Zerodiv_Log_Level", ""), ("ZERODIV_LOG_LEVEL[0", "info")]
    Configuration.builtin.Documented ∧
      (levelVariables .builtin environment).length ≤ 1 ∧
      Configuration.builtin.load environment = .ok ⟨""⟩ := by
  intro environment
  have sole : (levelVariables .builtin environment).length ≤ 1 := by decide +kernel
  obtain ⟨present, -, -⟩ :=
    load_of_level_variables .builtin Configuration.builtin_documented environment sole
  have hmem : ("Zerodiv_Log_Level", "") ∈ environment := by decide
  exact ⟨Configuration.builtin_documented, sole, (present _ _ hmem).1 (.inl (by decide))⟩

end Guarded.Settings
