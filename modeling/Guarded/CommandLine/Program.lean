import Guarded.CommandLine.Parser
import Guarded.CommandLine.Reporter
import Guarded.Demo
import Guarded.Log.Subscriber
import Guarded.Settings.Load

set_option autoImplicit false

/-! # The command line

What the program answers to its arguments, in an environment and with a standard output. The
demonstration prints to the standard output; the log and the error report go to the standard error,
and only they depend on the environment. The program stands on four libraries, which are parameters:
`Libraries.run` is what it does with them. -/

namespace Guarded.CommandLine

/-! ## Surroundings and answer -/

/-- The standard output, by what stands behind it. -/
inductive Stdout where
  /-- It takes everything. -/
  | pipe
  /-- Nothing is left of the device behind it. -/
  | full
  /-- Nobody reads from it. -/
  | broken
  deriving DecidableEq, Repr, Inhabited

/-- A sink that takes nothing and answers with the error of `errno`. -/
def refusing (errno : Errno) : Sink := { limit := some 0, failure := .error (.ofErrno errno) }

/-- The sink behind a standard output, empty at the start. -/
def Stdout.sink : Stdout → Sink
  | .pipe => {}
  | .full => refusing .noSpaceLeft
  | .broken => refusing .brokenPipe

/-- The answer of the program: its `exit` code, and what it wrote to `stdout` and `stderr`. -/
structure Answer where
  exit : Nat
  stdout : List UInt8
  stderr : String
  deriving DecidableEq

/-- The program as `Parser` is told of it. It declares no arguments. -/
def command : Command where
  name := "zerodiv"
  version := "0.1.0"
  about := "Division / modulo by zero, caught and recovered"

/-! ## Records of the start -/

/-- The warning for settings that cannot be loaded, with the `message` of the error. -/
def loadFailed (error : Settings.ConfigError) : LogRecord :=
  { level := .warn
    target := "zerodiv"
    message := "設定の読み込みに失敗、デフォルトを使用: " ++ error.message
    fields := [] }

/-- The record of the start, which shows the settings in use by `Settings.debug`. -/
def starting (settings : Settings) : LogRecord :=
  { level := .info
    target := "zerodiv"
    message := "starting zerodiv"
    fields := [("settings", .text settings.debug)] }

/-- The settings in use: those that were loaded, or the `default`. -/
def settingsInUse : Except Settings.ConfigError Settings → Settings
  | .ok settings => settings
  | .error _ => default

/-- The records before the demonstration: `loadFailed` if that is so, then `starting`. -/
def startRecords (loaded : Except Settings.ConfigError Settings) : List LogRecord :=
  match loaded with
  | .ok settings => [starting settings]
  | .error error => [loadFailed error, starting default]

/-! ## The libraries and the program -/

/-- The libraries that the program stands on, with nothing said yet of what they do. -/
structure Libraries where
  parser : Parser
  configuration : Settings.Configuration
  subscriber : Log.Subscriber
  reporter : Reporter

namespace Libraries

variable (libraries : Libraries)

/-- The filter of the environment, or else that of `settings.logLevel`, or else `warn`. -/
def chooseFilter (environment : Environment) (settings : Settings) : libraries.subscriber.Filter :=
  ((libraries.subscriber.ofEnvironment? environment).or
    (libraries.subscriber.read? settings.logLevel)).getD (libraries.subscriber.readLossy "warn")

/-- Whether `filter` lets a record through. Only the `metadata` of the record decides. -/
def shows (filter : libraries.subscriber.Filter) (record : LogRecord) : Bool :=
  libraries.subscriber.enables filter record.metadata

/-- The lines of those records that `filter` lets through, in the style of the environment. The same
    `time` stands on every line. -/
def lines (environment : Environment) (time : String) (filter : libraries.subscriber.Filter)
    (records : List LogRecord) : List String :=
  (records.filter (libraries.shows filter)).map
    (libraries.subscriber.format (libraries.subscriber.style environment) time)

/-- What the standard error ends with when the demonstration fails: `Error: ` and the report. -/
def errorReport (environment : Environment) (fault : Fault) : String :=
  "Error: " ++
    libraries.reporter.report environment "failed to write program output" fault.chain ++ "\n"

/-- The demonstration with its log. The exit code is `1` exactly where `Demo.run` has a fault, and
    then the `errorReport` follows the log. -/
def demonstrate (environment : Environment) (sink : Sink) (time : String) : Answer :=
  let loaded := libraries.configuration.load environment
  let filter := libraries.chooseFilter environment (settingsInUse loaded)
  let (report, after) := Demo.run sink
  let log := String.join (libraries.lines environment time filter
    (startRecords loaded ++ report.events.map Event.record))
  match report.result with
  | .ok _ => ⟨0, after.held.toList, log⟩
  | .error fault => ⟨1, after.held.toList, log ++ libraries.errorReport environment fault⟩

/-- The answer where reading the arguments ends the program. That `text` cannot be written is no
    failure of its own. -/
def leave (environment : Environment) (sink : Sink) (error : ParseError) : Answer :=
  let text := libraries.parser.print environment error.text
  let exit := libraries.parser.exitCode error.kind
  if libraries.parser.usesStderr error.kind then ⟨exit, sink.held.toList, text⟩
  else ⟨exit, (sink.writeAll (Sink.bytesOf text)).1.held.toList, ""⟩

/-- The answer of the program. Where `parse` lets it go on it is `demonstrate`, and else `leave`. -/
def run (arguments : List String) (environment : Environment) (sink : Sink) (time : String) :
    Answer :=
  match libraries.parser.parse command arguments with
  | .ok () => libraries.demonstrate environment sink time
  | .error error => libraries.leave environment sink error

end Libraries

end Guarded.CommandLine
