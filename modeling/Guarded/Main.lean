import Guarded.CommandLine.Run
import Std.Time.Format

set_option autoImplicit false

/-! # The program

Collects the arguments, the environment and the time, and carries out the answer of
`CommandLine.run`. How much the standard output takes is known only once something is written to it,
so the answer is found first for an output that takes everything; where `writeLines` has a line
refused it is found again for one that is full at that place. -/

namespace Guarded

/-- The variables of the environment of this process, as `name=value` entries that end in a null
    byte. -/
def readEnvironment : IO CommandLine.Environment := do
  let bytes ← IO.FS.readBinFile "/proc/self/environ"
  let text := (String.fromUTF8? bytes).getD ""
  return (text.splitOn "\x00").filterMap fun entry =>
    match entry.splitOn "=" with
    | name :: value@(_ :: _) => some (name, "=".intercalate value)
    | _ => none

/-- The time in UTC, to the microsecond, as `2024-01-31T12:00:00.000000Z`. -/
def timeText : IO String := do
  let now ← Std.Time.Timestamp.now
  return (Std.Time.DateTime.ofTimestamp now .UTC).format "uuuu-MM-dd'T'HH:mm:ss.SSSSSS'Z'"

/-- The `Errno` behind a failure; every failure that is not told apart is `brokenPipe`. -/
def errnoOf : IO.Error → Errno
  | .resourceExhausted _ _ _ => .noSpaceLeft
  | .permissionDenied _ _ _ => .permissionDenied
  | _ => .brokenPipe

/-- Write lines one by one. Where one is refused, the result is the number of bytes before it, from
    `written` on, and the error. -/
def writeLines (output : IO.FS.Stream) (written : Nat) : List String → IO (Option (Nat × Errno))
  | [] => return none
  | line :: rest => do
    try
      output.putStr line
      output.flush
    catch error => return some (written, errnoOf error)
    writeLines output (written + line.utf8ByteSize) rest

/-- The lines of a text, each with its `\n`. -/
def linesOf (text : String) : List String :=
  (text.splitOn "\n").dropLast.map (· ++ "\n")

end Guarded

open Guarded in
def main (arguments : List String) : IO UInt32 := do
  let environment ← readEnvironment
  let time ← timeText
  let answer := CommandLine.run arguments environment {} time
  let text := (String.fromUTF8? ⟨answer.stdout.toArray⟩).getD ""
  let answer ← match ← writeLines (← IO.getStdout) 0 (linesOf text) with
    | none => pure answer
    | some (written, errno) =>
      let sink : Sink := { limit := some written, failure := .error (.ofErrno errno) }
      pure (CommandLine.run arguments environment sink time)
  (← IO.getStderr).putStr answer.stderr
  return answer.exit.toUInt32
