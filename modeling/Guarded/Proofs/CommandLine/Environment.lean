import Guarded.Proofs.Builtin.Libraries
import Guarded.Proofs.Demo.Runs

set_option autoImplicit false

/-! # What the environment decides

The same arguments and the same standard output in two environments. The exit code and, of the
demonstration, the standard output are those of the arguments and of the output alone; the
environment decides which lines of the log are written, how they look, and what is in the report of
an output that fails. Where the arguments ask for something else than the demonstration there is no
log, and nothing is left to decide but whether the texts are coloured, which takes a variable of its
own. All of this is said of any parser that is as `Parser.Documented` says; of the other libraries
nothing is asked, but for `Reporter.Documented` where the words of the report are given.

Main statement: `environment_shows_in_log_only`. -/

namespace Guarded.CommandLine

/-! ## The standard output -/

/-- The error number of an output that takes nothing; a `pipe` takes everything. -/
def Stdout.errno? : Stdout → Option Errno
  | .pipe => none
  | .full => some .noSpaceLeft
  | .broken => some .brokenPipe

/-- What an output takes of some bytes: nothing where there is an `errno?`, and else all of them. -/
def Stdout.takes (stdout : Stdout) (bytes : List UInt8) : List UInt8 :=
  match stdout.errno? with
  | none => bytes
  | some _ => []

theorem Stdout.held_sink (stdout : Stdout) : stdout.sink.held = #[] := by
  cases stdout <;> rfl

theorem Stdout.take_room (stdout : Stdout) (bytes : List UInt8) :
    bytes.take (stdout.sink.room bytes.length) = stdout.takes bytes := by
  rw [Demo.room_of_empty stdout.held_sink]
  cases stdout with
  | pipe => exact List.take_length
  | full => simp [Stdout.sink, refusing, Stdout.takes, Stdout.errno?]
  | broken => simp [Stdout.sink, refusing, Stdout.takes, Stdout.errno?]

theorem Stdout.writeAll_held (stdout : Stdout) (bytes : List UInt8) :
    (stdout.sink.writeAll bytes).1.held.toList = stdout.takes bytes := by
  rw [(stdout.sink.wrote_writeAll bytes).held, stdout.take_room, stdout.held_sink]
  rfl

/-! ## The demonstration -/

namespace Libraries

variable (libraries : Libraries)

/-- The log that an environment keeps of a demonstration with certain `events`, after its
    `startRecords`. -/
def log (environment : Environment) (time : String) (events : List Event) : String :=
  let loaded := libraries.configuration.load environment
  let filter := libraries.chooseFilter environment (settingsInUse loaded)
  String.join (libraries.lines environment time filter
    (startRecords loaded ++ events.map Event.record))

/-- The demonstration on any sink: the `room` in it decides everything but the log, and of the log
    it decides which events there are to be kept. -/
theorem demonstrate_eq (environment : Environment) (sink : Sink) (time : String) :
    libraries.demonstrate environment sink time =
      let room := sink.room Demo.text.length
      let held := sink.held.toList ++ Demo.text.take room
      let log := libraries.log environment time (Demo.storyWithin room)
      if room = Demo.text.length then ⟨0, held, log⟩
      else ⟨1, held, log ++ libraries.errorReport environment (.io sink.refusal)⟩ := by
  have ran := Demo.ran_run sink
  obtain ⟨_, wrote⟩ := ran.wrote
  have result := ran.result
  dsimp only
  rw [← ran.events, ← wrote.held]
  by_cases whole : sink.room Demo.text.length = Demo.text.length
  · rw [if_pos whole] at result
    simp only [demonstrate, result, if_pos whole]
    rfl
  · rw [if_neg whole] at result
    simp only [demonstrate, result, if_neg whole]
    rfl

/-- The answer of the demonstration, written out. An output that takes nothing refuses the first
    line. -/
def demonstration (environment : Environment) (stdout : Stdout) (time : String) : Answer :=
  match stdout.errno? with
  | none => ⟨0, Demo.text, libraries.log environment time Demo.story⟩
  | some errno =>
    ⟨1, [], libraries.log environment time (Demo.story.take 3) ++
      libraries.errorReport environment (.io (.ofErrno errno))⟩

theorem demonstrate_refusing (environment : Environment) (errno : Errno) (time : String) :
    libraries.demonstrate environment (refusing errno) time =
      ⟨1, [], libraries.log environment time (Demo.story.take 3) ++
        libraries.errorReport environment (.io (.ofErrno errno))⟩ := by
  have room : (refusing errno).room Demo.text.length = 0 := rfl
  rw [demonstrate_eq]
  simp only [room]
  rw [if_neg (by decide)]
  rfl

theorem demonstrate_stdout (environment : Environment) (stdout : Stdout) (time : String) :
    libraries.demonstrate environment stdout.sink time =
      libraries.demonstration environment stdout time := by
  cases stdout with
  | pipe =>
    have room : Stdout.pipe.sink.room Demo.text.length = Demo.text.length := rfl
    rw [demonstrate_eq]
    simp only [room, if_true, List.take_length]
    rw [Demo.storyWithin_of_le (Nat.le_refl _)]
    rfl
  | full => exact libraries.demonstrate_refusing environment .noSpaceLeft time
  | broken => exact libraries.demonstrate_refusing environment .brokenPipe time

theorem demonstration_beside (environment environment' : Environment) (stdout : Stdout)
    (time time' : String) :
    (libraries.demonstration environment' stdout time').exit =
        (libraries.demonstration environment stdout time).exit ∧
      (libraries.demonstration environment' stdout time').stdout =
        (libraries.demonstration environment stdout time).stdout := by
  cases stdout <;> exact ⟨rfl, rfl⟩

end Libraries

/-! ## The report -/

/-- The report of an error of the output, without traces: `numberedReport` of the fault and of the
    error behind it. -/
def refusalReport (error : IoError) : String :=
  "Error: " ++ ("failed to write program output" ++ "\n\nCaused by:" ++
    ("\n    0: " ++ ("出力エラー: " ++ error.text) ++ ("\n    1: " ++ error.text))) ++ "\n"

theorem numberedReport_pair (message first second : String) :
    numberedReport message [first, second] =
      message ++ "\n\nCaused by:" ++ ("\n    0: " ++ first ++ ("\n    1: " ++ second)) := by
  have zero : "\n    " ++ toString 0 ++ ": " = "\n    0: " := by decide
  have one : "\n    " ++ toString 1 ++ ": " = "\n    1: " := by decide
  simp only [numberedReport, List.zipIdx_cons, List.zipIdx_nil, List.map_cons, List.map_nil,
    String.join_cons, String.join_nil, String.append_empty, Nat.zero_add, zero, one]

theorem plain_ofErrno (errno : Errno) : Plain (IoError.ofErrno errno).text := by
  have hdescription : Plain errno.description := by cases errno <;> decide
  exact ((hdescription.append (show Plain " (os error " by decide)).append
    (plain_nat errno.number)).append (show Plain ")" by decide)

theorem errorReport_io {libraries : Libraries} (reporter : libraries.reporter.Documented)
    {environment : Environment} (untraced : Untraced environment) {error : IoError}
    (h : Plain error.text) :
    libraries.errorReport environment (.io error) = refusalReport error := by
  have chain : (Fault.io error).chain = ["出力エラー: " ++ error.text, error.text] := rfl
  have several : 2 ≤ ["出力エラー: " ++ error.text, error.text].length := Nat.le_refl 2
  have few : ["出力エラー: " ++ error.text, error.text].length ≤ 10 := Nat.le_add_right 2 8
  have single : ∀ cause ∈ ["出力エラー: " ++ error.text, error.text], '\n' ∉ cause.toList :=
    List.forall_mem_cons.mpr ⟨((show Plain "出力エラー: " by decide).append h).newline,
      List.forall_mem_singleton.mpr h.newline⟩
  rw [Libraries.errorReport, chain, reporter.report_untraced untraced _ several few single,
    numberedReport_pair, refusalReport]

/-! ## Arguments -/

section

variable {libraries : Libraries} (parser : libraries.parser.Documented)
include parser

/-- An argument that is no `--` decides, whatever follows it: a flag that is asked for is displayed,
    and anything else is an error. -/
theorem exists_parse_first {first : String} (ne : first ≠ "--") :
    ∃ error, (∀ rest, libraries.parser.parse command (first :: rest) = .error error) ∧
      ((∃ flag : Flag, flag.IsAskedBy first ∧ error.kind = .display flag) ∨
        (∀ flag : Flag, ¬ flag.IsAskedBy first) ∧ error.kind.isDisplay = false) := by
  by_cases asked : ∃ flag : Flag, flag.IsAskedBy first
  · obtain ⟨flag, asked⟩ := asked
    obtain ⟨text, parsed⟩ := parser.parse_flag command asked
    exact ⟨_, parser.parse_append parsed, .inl ⟨flag, asked, rfl⟩⟩
  · rw [not_exists] at asked
    obtain ⟨error, parsed, isDisplay⟩ := parser.parse_other command ne asked
    exact ⟨_, parser.parse_append parsed, .inr ⟨asked, isDisplay⟩⟩

/-- What follows a `--` decides as well: it is an `unknownArgument`. -/
theorem exists_parse_second (second : String) :
    ∃ text, ∀ rest, libraries.parser.parse command ("--" :: second :: rest) =
      .error ⟨.unknownArgument, text⟩ := by
  obtain ⟨text, parsed⟩ := parser.parse_value command second
  exact ⟨text, parser.parse_append parsed⟩

end

/-- A `--` asks for nothing. -/
theorem not_isAskedBy_dashes (flag : Flag) : ¬ flag.IsAskedBy "--" := by
  rintro (same | ⟨joined, same⟩)
  · cases flag <;> exact absurd same (by decide)
  · cases flag <;> cases same

/-- The arguments that lead to the demonstration: none, or `--` alone. -/
def Demonstrates (arguments : List String) : Prop := arguments = [] ∨ arguments = ["--"]

/-- The answer to arguments of which `Demonstrates` does not hold. -/
structure Settled (libraries : Libraries) (arguments : List String) (environment : Environment)
    (stdout : Stdout) (time : String) : Prop where
  /-- What follows an argument other than `--` makes no difference. -/
  first : ∀ first rest rest', arguments = first :: rest → first ≠ "--" →
    libraries.run (first :: rest') environment stdout.sink time =
      libraries.run arguments environment stdout.sink time
  /-- What follows a `--` is not declared, and what follows that makes no difference. -/
  second : ∀ second rest rest', arguments = "--" :: second :: rest →
    (∃ text, libraries.parser.parse command arguments = .error ⟨.unknownArgument, text⟩) ∧
      libraries.run ("--" :: second :: rest') environment stdout.sink time =
        libraries.run arguments environment stdout.sink time
  /-- A flag is displayed with success, whether or not its text can be written, and anything else is
      an error. -/
  outcome : ∃ error, libraries.parser.parse command arguments = .error error ∧
    let text := libraries.parser.print environment error.text
    ((∃ (flag : Flag) (first : String) (rest : List String), arguments = first :: rest ∧
        flag.IsAskedBy first ∧ error.kind = .display flag ∧
        libraries.run arguments environment stdout.sink time =
          ⟨0, stdout.takes (Sink.bytesOf text), ""⟩) ∨
      (∀ (flag : Flag) (first : String) (rest : List String), arguments = first :: rest →
        ¬ flag.IsAskedBy first) ∧ error.kind.isDisplay = false ∧
        libraries.run arguments environment stdout.sink time = ⟨2, [], text⟩)

section

variable {libraries : Libraries} {arguments : List String} {environment : Environment}
  {stdout : Stdout} {time : String}

theorem run_of_ok (h : libraries.parser.parse command arguments = .ok ()) :
    libraries.run arguments environment stdout.sink time =
      libraries.demonstration environment stdout time := by
  simp only [Libraries.run, h, Libraries.demonstrate_stdout]

theorem run_of_error {error : ParseError}
    (h : libraries.parser.parse command arguments = .error error) :
    libraries.run arguments environment stdout.sink time =
      libraries.leave environment stdout.sink error := by
  simp only [Libraries.run, h]

variable (parser : libraries.parser.Documented)
include parser

theorem leave_of_display {error : ParseError} {flag : Flag} (h : error.kind = .display flag) :
    libraries.leave environment stdout.sink error =
      ⟨0, stdout.takes (Sink.bytesOf (libraries.parser.print environment error.text)), ""⟩ := by
  simp only [Libraries.leave, parser.usesStderr_eq, parser.exitCode_eq, h, ErrorKind.isDisplay,
    Bool.not_true, Bool.false_eq_true, if_false, if_true, stdout.writeAll_held]

theorem leave_of_error {error : ParseError} (h : error.kind.isDisplay = false) :
    libraries.leave environment stdout.sink error =
      ⟨2, [], libraries.parser.print environment error.text⟩ := by
  simp only [Libraries.leave, parser.usesStderr_eq, parser.exitCode_eq, h, Bool.not_false,
    Bool.false_eq_true, if_false, if_true, stdout.held_sink]

theorem parse_of_demonstrates (h : Demonstrates arguments) :
    libraries.parser.parse command arguments = .ok () := by
  rcases h with rfl | rfl
  · exact parser.parse_nil command
  · exact parser.parse_dashes command

theorem settled_of_ne {first : String} (ne : first ≠ "--") (rest : List String) :
    Settled libraries (first :: rest) environment stdout time := by
  obtain ⟨error, parsed, kind⟩ := exists_parse_first parser ne
  refine ⟨fun first' _ rest' same _ => ?_, fun second _ _ same => ?_, error, parsed rest, ?_⟩
  · cases same
    rw [run_of_error (parsed rest'), run_of_error (parsed rest)]
  · cases same
    exact absurd rfl ne
  · rw [run_of_error (parsed rest)]
    rcases kind with ⟨flag, asked, display⟩ | ⟨asked, display⟩
    · exact .inl ⟨flag, first, rest, rfl, asked, display, leave_of_display parser display⟩
    · refine .inr ⟨fun flag first' _ same => ?_, display, leave_of_error parser display⟩
      cases same
      exact asked flag

theorem settled_of_dashes (second : String) (rest : List String) :
    Settled libraries ("--" :: second :: rest) environment stdout time := by
  obtain ⟨text, parsed⟩ := exists_parse_second parser second
  refine ⟨fun first _ _ same ne => ?_, fun second' _ rest' same => ?_, _, parsed rest, ?_⟩
  · cases same
    exact absurd rfl ne
  · cases same
    exact ⟨⟨text, parsed rest⟩, by rw [run_of_error (parsed rest'), run_of_error (parsed rest)]⟩
  · rw [run_of_error (parsed rest)]
    refine .inr ⟨fun flag first _ same => ?_, rfl, leave_of_error parser rfl⟩
    cases same
    exact not_isAskedBy_dashes flag

theorem settled_run (h : ¬ Demonstrates arguments) :
    Settled libraries arguments environment stdout time := by
  cases arguments with
  | nil => exact absurd (.inl rfl) h
  | cons first rest =>
    by_cases dashes : first = "--"
    · subst dashes
      cases rest with
      | nil => exact absurd (.inr rfl) h
      | cons second rest => exact settled_of_dashes parser second rest
    · exact settled_of_ne parser dashes rest

theorem parse_eq_ok_iff :
    libraries.parser.parse command arguments = .ok () ↔ Demonstrates arguments := by
  refine ⟨fun parsed => ?_, parse_of_demonstrates parser⟩
  by_contra other
  obtain ⟨error, failed, -⟩ :=
    (show Settled libraries arguments [] .pipe "" from settled_run parser other).outcome
  rw [parsed] at failed
  cases failed

/-- Where colour is not forced by `CLICOLOR_FORCE`, the environment makes no difference to what is
    said of arguments. -/
theorem run_beside {environment' : Environment}
    (unforced : isSet environment "CLICOLOR_FORCE" = false)
    (unforced' : isSet environment' "CLICOLOR_FORCE" = false) (h : ¬ Demonstrates arguments)
    (time' : String) :
    libraries.run arguments environment' stdout.sink time' =
      libraries.run arguments environment stdout.sink time := by
  obtain ⟨error, parsed, -⟩ :=
    (show Settled libraries arguments environment stdout time from settled_run parser h).outcome
  rw [run_of_error parsed, run_of_error parsed, Libraries.leave, Libraries.leave,
    parser.print_unforced unforced' unforced]

end

/-! ## Two environments -/

/-- **Configuration never reaches the standard output or the exit code.** Two environments, neither
    of which has `CLICOLOR_FORCE` force colour on texts that are no part of the log. The exit code
    and the standard output are the same in both. The demonstration is reached with no arguments or
    `--` alone; its `log` and the report of its failure, and nothing else, depend on the
    environment, and the report is `refusalReport` for an environment that is `Untraced`. All other
    arguments are answered in both environments alike, and the answer is `Settled`. -/
theorem environment_shows_in_log_only (libraries : Libraries)
    (parser : libraries.parser.Documented) (reporter : libraries.reporter.Documented)
    (arguments : List String) (stdout : Stdout) (environment environment' : Environment)
    (time time' : String) (unforced : isSet environment "CLICOLOR_FORCE" = false)
    (unforced' : isSet environment' "CLICOLOR_FORCE" = false) :
    let answer := libraries.run arguments environment stdout.sink time
    let answer' := libraries.run arguments environment' stdout.sink time'
    (answer'.exit = answer.exit ∧ answer'.stdout = answer.stdout) ∧
      (libraries.parser.parse command arguments = .ok () ↔ Demonstrates arguments) ∧
      (Demonstrates arguments → answer = libraries.demonstration environment stdout time ∧
        (Untraced environment → ∀ errno, libraries.errorReport environment (.io (.ofErrno errno)) =
          refusalReport (.ofErrno errno))) ∧
      (¬ Demonstrates arguments → answer' = answer ∧
        Settled libraries arguments environment stdout time) := by
  intro answer answer'
  refine ⟨?_, parse_eq_ok_iff parser, fun h => ⟨run_of_ok (parse_of_demonstrates parser h), ?_⟩,
    fun h => ⟨run_beside parser unforced unforced' h time', settled_run parser h⟩⟩
  · by_cases h : Demonstrates arguments
    · have here : answer = libraries.demonstration environment stdout time :=
        run_of_ok (parse_of_demonstrates parser h)
      have there : answer' = libraries.demonstration environment' stdout time' :=
        run_of_ok (parse_of_demonstrates parser h)
      rw [here, there]
      exact libraries.demonstration_beside environment environment' stdout time time'
    · have same : answer' = answer := run_beside parser unforced unforced' h time'
      rw [same]
      exact ⟨rfl, rfl⟩
  · intro untraced errno
    exact errorReport_io reporter untraced (plain_ofErrno errno)

/-- Settings that cannot be loaded and every event in the log, beside a log without colours; nothing
    of this is seen in `exit` or on an output that takes nothing. -/
theorem full_output_in_two_environments :
    let environment := [("ZERODIV_LOG_LEVEL[0]", "x"), ("RUST_LOG", "trace")]
    let environment' := [("NO_COLOR", "1"), ("ZERODIV_LOG_LEVEL", "debug")]
    let answer := run ["--"] environment Stdout.full.sink "12:00"
    let answer' := run ["--"] environment' Stdout.full.sink "13:00"
    Parser.builtin.Documented ∧ Reporter.builtin.Documented ∧
      isSet environment "CLICOLOR_FORCE" = false ∧ isSet environment' "CLICOLOR_FORCE" = false ∧
      (answer'.exit = answer.exit ∧ answer'.stdout = answer.stdout) ∧
      answer = Libraries.builtin.demonstration environment .full "12:00" := by
  intro environment environment' answer answer'
  have unforced : isSet environment "CLICOLOR_FORCE" = false := by decide
  have unforced' : isSet environment' "CLICOLOR_FORCE" = false := by decide
  obtain ⟨same, _, demonstrated, _⟩ := environment_shows_in_log_only .builtin
    Parser.builtin_documented Reporter.builtin_documented ["--"] .full environment environment'
    "12:00" "13:00" unforced unforced'
  exact ⟨Parser.builtin_documented, Reporter.builtin_documented, unforced, unforced', same,
    (demonstrated (.inr rfl)).1⟩

end Guarded.CommandLine
