import Guarded.Settings.Configuration
import Guarded.Text.Quoted

set_option autoImplicit false

/-! # Settings

The program has one setting, the level of its log. `Configuration.load` asks the library for it: the
default is `warn`, and a variable of the environment replaces it. -/

namespace Guarded

/-- What the environment decides. -/
structure Settings where
  /-- The log filter as it was given; it need not be valid. -/
  logLevel : String
  deriving DecidableEq, Repr

namespace Settings

instance : Inhabited Settings := ⟨⟨"warn"⟩⟩

/-- The text that shows the settings, with `logLevel` in quotes. -/
def debug (settings : Settings) : String :=
  "Settings \x7b log_level: " ++ Text.Quoted.quote settings.logLevel ++ " \x7d"

/-- The key of `Settings.logLevel`. -/
def logLevelKey : List Char := "log_level".toList

/-- The prefix of the variables that are settings: `ZERODIV_LOG_LEVEL` sets `logLevel`. -/
def variablePrefix : String := "ZERODIV"

/-- The log level that loading starts from. It is given apart from the `default` settings. -/
def startLevel : String := "warn"

/-- Load the settings: `startLevel` is set as the default at `logLevelKey`, the variables come on
    top of it, and the text at `logLevelKey` is taken out of the tree. -/
def Configuration.load (configuration : Configuration) (environment : CommandLine.Environment) :
    Except ConfigError Settings := do
  let builder ← configuration.setDefault configuration.builder logLevelKey startLevel
  let tree ← configuration.build (configuration.addVariables builder variablePrefix environment)
  return ⟨← configuration.text tree logLevelKey⟩

end Settings

end Guarded
