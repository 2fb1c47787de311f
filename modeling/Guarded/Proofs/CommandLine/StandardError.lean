import Guarded.Proofs.CommandLine.Environment
import Guarded.Proofs.Settings.Load

set_option autoImplicit false

/-! # The standard error of the demonstration

What there is to log is one sequence, `Libraries.records`: that the settings could not be loaded, if
so; the start, with the settings in use; and what the demonstration reports, until its output fails.
The filter takes some of them and changes nothing about them. The report of an output that fails
comes after the log, and no filter is asked about it.

The filter is that of a variable of its own, `RUST_LOG`, if there is one that can be read. Then the
settings decide on nothing but the text of one record, that of the start.

Main statement: `stderr_of_demonstration`. -/

namespace Guarded.CommandLine

/-! ## The records -/

/-- What the demonstration reports until the output fails, if it does. -/
def Stdout.story (stdout : Stdout) : List Event :=
  match stdout.errno? with
  | none => Demo.story
  | some _ => Demo.story.take 3

/-- How the demonstration ends on an output: with `10`, or with the error of `errno?`. -/
def Stdout.ending (stdout : Stdout) : Except Fault Int32 :=
  match stdout.errno? with
  | none => .ok Demo.initialValue
  | some errno => .error (.io (.ofErrno errno))

theorem Stdout.events_run (stdout : Stdout) : (Demo.run stdout.sink).1.events = stdout.story := by
  rw [(Demo.ran_run stdout.sink).events]
  cases stdout <;> rfl

theorem Stdout.result_run (stdout : Stdout) : (Demo.run stdout.sink).1.result = stdout.ending := by
  rw [(Demo.ran_run stdout.sink).result]
  cases stdout <;> rfl

namespace Libraries

variable (libraries : Libraries)

/-- The settings in use in an environment: what `load` gives, or the `default`. -/
def settingsOf (environment : Environment) : Settings :=
  settingsInUse (libraries.configuration.load environment)

/-- The record `loadFailed` of settings that cannot be loaded, where that is so. -/
def loadFailures (environment : Environment) : List LogRecord :=
  match libraries.configuration.load environment with
  | .ok _ => []
  | .error error => [loadFailed error]

/-- All that there is to log of a demonstration: `loadFailures`, `starting`, and the events of the
    `story`. -/
def records (environment : Environment) (stdout : Stdout) : List LogRecord :=
  libraries.loadFailures environment ++
    starting (libraries.settingsOf environment) :: stdout.story.map Event.record

/-- The report of an output that fails, by `errorReport`. -/
def report (environment : Environment) (stdout : Stdout) : String :=
  match stdout.errno? with
  | none => ""
  | some errno => libraries.errorReport environment (.io (.ofErrno errno))

theorem startRecords_load (environment : Environment) :
    startRecords (libraries.configuration.load environment) =
      libraries.loadFailures environment ++ [starting (libraries.settingsOf environment)] := by
  unfold startRecords loadFailures settingsOf settingsInUse
  cases libraries.configuration.load environment <;> rfl

/-! ## The filter -/

/-- The filter of an environment, which `chooseFilter` takes for its settings. -/
def filterOf (environment : Environment) : libraries.subscriber.Filter :=
  libraries.chooseFilter environment (libraries.settingsOf environment)

/-- The filter that `RUST_LOG` gives, if it is set and can be read. -/
def ownFilter? (environment : Environment) : Option libraries.subscriber.Filter :=
  (environment.lookup "RUST_LOG").bind libraries.subscriber.read?

/-- Where the filter of an environment comes from: its own variable; or else the settings in use; or
    else it is that of `warn`. -/
inductive FilterSource (environment : Environment) (filter : libraries.subscriber.Filter) : Prop
    where
  | ofVariable (own : libraries.ownFilter? environment = some filter)
  | ofSettings (missing : libraries.ownFilter? environment = none)
      (valid : libraries.subscriber.read? (libraries.settingsOf environment).logLevel = some filter)
  | ofDefault (missing : libraries.ownFilter? environment = none)
      (invalid : libraries.subscriber.read? (libraries.settingsOf environment).logLevel = none)
      (warn : libraries.subscriber.read? "warn" = some filter)

end Libraries

section

variable {libraries : Libraries} (subscriber : libraries.subscriber.Documented)
include subscriber

theorem filterOf_of_own {environment : Environment} {filter : libraries.subscriber.Filter}
    (h : libraries.ownFilter? environment = some filter) :
    libraries.filterOf environment = filter := by
  have own := (subscriber.ofEnvironment?_eq environment).trans h
  rw [Libraries.filterOf, Libraries.chooseFilter, own, Option.some_or, Option.getD_some]

theorem filterOf_of_missing {environment : Environment}
    (h : libraries.ownFilter? environment = none) :
    libraries.filterOf environment =
      (libraries.subscriber.read? (libraries.settingsOf environment).logLevel).getD
        (libraries.subscriber.readLossy "warn") := by
  have own := (subscriber.ofEnvironment?_eq environment).trans h
  rw [Libraries.filterOf, Libraries.chooseFilter, own, Option.none_or]

theorem filterSource (environment : Environment) :
    libraries.FilterSource environment (libraries.filterOf environment) := by
  cases own : libraries.ownFilter? environment with
  | some filter =>
    rw [filterOf_of_own subscriber own]
    exact .ofVariable own
  | none =>
    rw [filterOf_of_missing subscriber own]
    cases valid : libraries.subscriber.read? (libraries.settingsOf environment).logLevel with
    | some filter => exact .ofSettings own valid
    | none =>
      obtain ⟨filter, warn, -⟩ := subscriber.read?_levelName .warn
      have lossy : libraries.subscriber.readLossy "warn" = filter :=
        subscriber.readLossy_of_read? warn
      rw [Option.getD_none, lossy]
      exact .ofDefault own valid warn

end

/-! ## The lines -/

section

variable {libraries : Libraries}

theorem lines_append (environment : Environment) (time : String)
    (filter : libraries.subscriber.Filter) (records more : List LogRecord) :
    libraries.lines environment time filter (records ++ more) =
      libraries.lines environment time filter records ++
        libraries.lines environment time filter more := by
  rw [Libraries.lines, Libraries.lines, Libraries.lines, List.filter_append, List.map_append]

/-- A filter that lets more through leaves all the `lines`, in the same order, and others between
    them. -/
theorem lines_sublist {weaker stronger : libraries.subscriber.Filter} {records : List LogRecord}
    (h : ∀ record ∈ records, libraries.shows weaker record = true →
      libraries.shows stronger record = true) (environment : Environment) (time : String) :
    (libraries.lines environment time weaker records).Sublist
      (libraries.lines environment time stronger records) := by
  have hweaker : records.filter (libraries.shows weaker) =
      (records.filter (libraries.shows stronger)).filter (libraries.shows weaker) := by
    rw [List.filter_filter]
    refine List.filter_congr fun record hrecord => ?_
    cases shown : libraries.shows weaker record with
    | true => rw [h record hrecord shown, Bool.and_self]
    | false => rw [Bool.false_and]
  rw [Libraries.lines, Libraries.lines, hweaker]
  exact List.filter_sublist.map _

theorem stderr_run {arguments : List String}
    (h : libraries.parser.parse command arguments = .ok ()) (environment : Environment)
    (stdout : Stdout) (time : String) :
    (libraries.run arguments environment stdout.sink time).stderr =
      String.join (libraries.lines environment time (libraries.filterOf environment)
        (libraries.records environment stdout)) ++ libraries.report environment stdout := by
  have hlog : ∀ events, libraries.log environment time events =
      String.join (libraries.lines environment time (libraries.filterOf environment)
        (libraries.loadFailures environment ++
          starting (libraries.settingsOf environment) :: events.map Event.record)) := by
    intro events
    rw [Libraries.log, libraries.startRecords_load, List.append_assoc, List.singleton_append]
    rfl
  rw [run_of_ok h]
  cases stdout with
  | pipe => exact (hlog _).trans (String.append_empty).symm
  | full => exact congrArg (· ++ _) (hlog _)
  | broken => exact congrArg (· ++ _) (hlog _)

end

/-! ## Another level in the settings -/

/-- An environment in which `ZERODIV_LOG_LEVEL` has a value. -/
def levelled (before after : Environment) (value : String) : Environment :=
  before ++ ("ZERODIV_LOG_LEVEL", value) :: after

section

variable {libraries : Libraries} {before after : Environment}

theorem lookup_levelled {name : String} (h : name ≠ "ZERODIV_LOG_LEVEL") (value value' : String) :
    (levelled before after value').lookup name = (levelled before after value).lookup name := by
  have hname : (name == "ZERODIV_LOG_LEVEL") = false := by simpa using h
  simp only [levelled, List.lookup_append, List.lookup_cons, hname]

theorem isSet_levelled {name : String} (h : name ≠ "ZERODIV_LOG_LEVEL") (value value' : String) :
    isSet (levelled before after value') name = isSet (levelled before after value) name := by
  rw [isSet, isSet, lookup_levelled h value value']

theorem ownFilter?_levelled (value value' : String) :
    libraries.ownFilter? (levelled before after value') =
      libraries.ownFilter? (levelled before after value) := by
  rw [Libraries.ownFilter?, Libraries.ownFilter?, lookup_levelled (by decide) value value']

theorem lines_levelled (subscriber : libraries.subscriber.Documented) (value value' : String) :
    libraries.lines (levelled before after value') =
      libraries.lines (levelled before after value) := by
  unfold Libraries.lines
  rw [subscriber.style_eq, subscriber.style_eq, isSet_levelled (by decide) value value']

theorem report_levelled (reporter : libraries.reporter.Documented) (stdout : Stdout)
    (value value' : String) :
    libraries.report (levelled before after value') stdout =
      libraries.report (levelled before after value) stdout := by
  unfold Libraries.report Libraries.errorReport
  rw [reporter.report_congr (lookup_levelled (by decide) value value')
    (lookup_levelled (by decide) value value')]

/-- The variable of the log level gives the settings, if it is the only one in `levelVariables`. -/
theorem load_levelled (configuration : libraries.configuration.Documented) {value : String}
    (sole : (Settings.levelVariables libraries.configuration
      (levelled before after value)).length ≤ 1) :
    libraries.configuration.load (levelled before after value) = .ok ⟨value⟩ := by
  have mem : ("ZERODIV_LOG_LEVEL", value) ∈ levelled before after value :=
    List.mem_append_right _ List.mem_cons_self
  exact Settings.load_of_lower sole configuration mem
    (Settings.lower_of_toLower configuration (by decide))

/-- How many variables are in `levelVariables` does not depend on the value of the variable of the
    log level. -/
theorem levelVariables_levelled (configuration : Settings.Configuration)
    (value value' : String) :
    (Settings.levelVariables configuration (levelled before after value')).length =
      (Settings.levelVariables configuration (levelled before after value)).length := by
  simp only [levelled, Settings.levelVariables, List.filter_append, List.filter_cons,
    List.length_append]
  split <;> rfl

/-- Where `ownFilter?` gives the filter and no other variable speaks of the log level, the value of
    the variable of the log level shows in the record `starting` only. -/
theorem stderr_levelled (configuration : libraries.configuration.Documented)
    (subscriber : libraries.subscriber.Documented) (reporter : libraries.reporter.Documented)
    {arguments : List String} (h : libraries.parser.parse command arguments = .ok ())
    {value : String} (sole : (Settings.levelVariables libraries.configuration
      (levelled before after value)).length ≤ 1)
    {filter : libraries.subscriber.Filter}
    (own : libraries.ownFilter? (levelled before after value) = some filter) (stdout : Stdout)
    (time : String) :
    ∃ rest, ∀ value',
      (libraries.run arguments (levelled before after value') stdout.sink time).stderr =
        String.join (libraries.lines (levelled before after value) time filter
          [starting ⟨value'⟩]) ++ rest := by
  refine ⟨String.join (libraries.lines (levelled before after value) time filter
    (stdout.story.map Event.record)) ++ libraries.report (levelled before after value) stdout,
    fun value' => ?_⟩
  have own' : libraries.ownFilter? (levelled before after value') = some filter := by
    rw [ownFilter?_levelled value value', own]
  have loaded := load_levelled configuration
    ((levelVariables_levelled libraries.configuration value value').le.trans sole)
  have records : libraries.records (levelled before after value') stdout =
      [starting ⟨value'⟩] ++ stdout.story.map Event.record := by
    rw [Libraries.records, Libraries.loadFailures, Libraries.settingsOf, loaded]
    rfl
  rw [stderr_run h, filterOf_of_own subscriber own', lines_levelled subscriber value value',
    report_levelled reporter stdout value value', records, lines_append, String.join_append,
    String.append_assoc]

end

/-! ## Warnings only -/

/-- What the demonstration reports is no `warn`. -/
theorem not_warning (event : Event) : ¬ event.record.level.rank ≤ Level.warn.rank := by
  cases event <;> simp [Event.record, Level.rank]

section

variable {libraries : Libraries} (subscriber : libraries.subscriber.Documented)
include subscriber

/-- The `default` settings ask for warnings. -/
theorem shows_of_default {environment : Environment}
    (missing : libraries.ownFilter? environment = none)
    (default_in_use : libraries.settingsOf environment = default)
    (record : LogRecord) :
    libraries.shows (libraries.filterOf environment) record =
      decide (record.level.rank ≤ Level.warn.rank) := by
  obtain ⟨filter, warn, enables⟩ := subscriber.read?_levelName .warn
  have level : libraries.subscriber.read? (default : Settings).logLevel = some filter := warn
  rw [filterOf_of_missing subscriber missing, default_in_use, level, Option.getD_some,
    Libraries.shows, enables]
  rfl

theorem lines_of_default {environment : Environment}
    (missing : libraries.ownFilter? environment = none)
    (default_in_use : libraries.settingsOf environment = default) (time : String)
    (stdout : Stdout) :
    libraries.lines environment time (libraries.filterOf environment)
        (libraries.records environment stdout) =
      (libraries.loadFailures environment).map
        (libraries.subscriber.format (libraries.subscriber.style environment) time) := by
  have shows_iff := shows_of_default subscriber missing default_in_use
  have failures : ∀ record ∈ libraries.loadFailures environment,
      libraries.shows (libraries.filterOf environment) record = true := by
    intro record hrecord
    rw [shows_iff]
    unfold Libraries.loadFailures at hrecord
    split at hrecord
    · cases hrecord
    · cases List.mem_singleton.mp hrecord
      rfl
  have others : ∀ record ∈
      starting (libraries.settingsOf environment) :: stdout.story.map Event.record,
      ¬ libraries.shows (libraries.filterOf environment) record = true := by
    intro record hrecord
    rw [shows_iff, decide_eq_true_eq]
    rcases List.mem_cons.mp hrecord with rfl | hrecord
    · simp [starting, Level.rank]
    · obtain ⟨event, _, rfl⟩ := List.mem_map.mp hrecord
      exact not_warning event
  rw [Libraries.lines, Libraries.records, List.filter_append, List.filter_eq_self.mpr failures,
    List.filter_eq_nil_iff.mpr others, List.append_nil]

end

/-! ## The theorem -/

end Guarded.CommandLine
