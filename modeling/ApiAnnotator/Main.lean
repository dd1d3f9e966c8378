import ApiAnnotator.CommandLine.Job
import Std.Time.Zoned

/-!
# The program

The command line on a machine: its files, its clock, its terminal and its environment.
-/

open ApiAnnotator.CommandLine

/-- What an error of the machine means for a file. -/
def systemError (e : IO.Error) : SystemError :=
  match e with
  | .noFileOrDirectory .. => .notFound
  | .alreadyExists .. => .alreadyExists
  | .inappropriateType _ code _ => if code = 21 then .isADirectory else .notADirectory
  | .invalidArgument _ code _ => if code = 36 then .nameTooLong else .other (toString e)
  | e => .other (toString e)

/-- The result of an action on files. -/
def attempt (action : IO α) : IO (Except SystemError α) := do
  return (← action.toBaseIO).mapError systemError

/-- The machine as a host. -/
def machine : Host IO where
  read path := attempt (IO.FS.readBinFile path)
  makeDirectory path := attempt (IO.FS.createDir path)
  write path content := attempt (IO.FS.writeBinFile path content)

/-- Two digits of a number. -/
def twoDigits (n : Int) : String :=
  if n < 10 then s!"0{n}" else toString n

/-- The time of day, in brackets. -/
def timeOfDay : IO String := do
  let now ← Std.Time.PlainTime.now
  let parts := [now.hour.val, now.minute.val, now.second.val].map twoDigits
  return "[" ++ ":".intercalate parts ++ "]"

/-- Carries out the command line of the program. -/
def main (words : List String) : IO UInt32 := do
  let out ← IO.getStdout
  let around : Surroundings := {
    onTerminal := ← out.isTty
    background := ← IO.getEnv "COLORFGBG"
    time := ← timeOfDay }
  let report ← run machine around words
  out.putStr report.out
  (← IO.getStderr).putStr report.err
  return report.status.toUInt32
