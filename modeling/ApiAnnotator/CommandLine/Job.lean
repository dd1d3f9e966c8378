import ApiAnnotator.Annotated.Json
import ApiAnnotator.Annotated.Pass
import ApiAnnotator.CommandLine.Arguments
import ApiAnnotator.CommandLine.Grid
import ApiAnnotator.CommandLine.Host
import ApiAnnotator.Listing
import ApiAnnotator.Model.Codec
import ApiAnnotator.Text.Spellings

/-!
# Carrying out commands

A command reads one file. What comes out of it depends on the content of that file and on the
arguments alone; an annotated model is then written, and last comes the report of what was done. The
report tells how far the command got.

A command runs on a host, which reads and writes files, and tells nothing else about it. It is
defined for any speller; the program has the spellings of `Text/Spellings`.

## Main definitions

* `RunError` — why a command fails, with its wording.
* `AnnotateCommand.result`, `listing` — what comes out of a command.
* `AnnotateCommand.report` — what is told about it.
* `run` — a command line carried out on a host.
-/

namespace ApiAnnotator.CommandLine

/-- Why a command fails. -/
inductive RunError where
  | malformedEntry (entry : String)
  | option (e : OptionError)
  | unreadable (e : SystemError)
  | invalidModel (path : String) (problem : Json.Problem) (place : Json.Place)
  | unmapped (e : UnmappedPackage)
  | unwritable (e : SystemError)

namespace RunError

/-- The wording of a failure. -/
def message : RunError → String
  | malformedEntry entry =>
    s!"Invalid option format '{entry}': expected KEY=VALUE (e.g., per-service-features=true)"
  | option e => e.message
  | unreadable e => e.message
  | invalidModel path problem place =>
    s!"Invalid API model '{path}': " ++ problem.message ++
      s!" at line {place.line} column {place.column}"
  | unmapped e => e.message
  | unwritable e => e.message

end RunError

/-- The key and the value of an entry, without blanks around them. -/
def splitEntry (entry : String) : Except RunError (String × String) :=
  match Text.splitAtFirst '=' entry with
  | some (key, value) => .ok (Text.trim key, Text.trim value)
  | none => .error (.malformedEntry entry)

/-- The keys and values of entries. -/
def splitEntries (entries : List String) : Except RunError (List (String × String)) :=
  entries.mapM splitEntry

/-- The model in the content of a file. -/
def loadModel (path : String) (content : Except SystemError ByteArray) : Except RunError Api :=
  match content with
  | .error e => .error (.unreadable e)
  | .ok text =>
    (Api.codec.ofText text).mapError fun e =>
      .invalidModel path e.problem (.of text (e.position.getD 0))

/-- What a command tells: the status it ends with, and the texts on its two channels. -/
structure Report where
  status : Nat
  out : String
  err : String
  deriving DecidableEq

/-- Lines of text. -/
def unlines (lines : List String) : String :=
  Text.join "" (lines.map (· ++ "\n"))

/-- The line that tells of a failure. -/
def errorLine (e : RunError) : String :=
  "Error: " ++ e.message

namespace AnnotateCommand

variable (c : AnnotateCommand)

/-- The options of the command. -/
def options : Except RunError Options := do
  (Options.ofEntries (← splitEntries c.entries)).mapError .option

/-- The annotated model that the command makes of the content of its input. -/
def result [Speller] (content : Except SystemError ByteArray) : Except RunError Annotated := do
  let options ← c.options
  let api ← loadModel c.input content
  (annotate api options).mapError .unmapped

/-- A line with the time. -/
def timed (style : Style) (time : String) (role : Role) (text : String) : String :=
  style.paint .timestamp time ++ " " ++ style.paint role text

/-- A line of the statistics. -/
def counted (style : Style) (label value : String) : String :=
  "            " ++ style.paint .label label ++ " " ++ style.paint .value value

/-- A line of the statistics that is left out for zero. -/
def countedUnlessZero (style : Style) (label : String) (count : Nat) (value : String) :
    List String :=
  if count = 0 then [] else [counted style label value]

/-- The lines of the statistics. -/
def statisticsLines (style : Style) (s : Statistics) : List String :=
  [counted style "Messages annotated:" (toString s.messages),
    counted style "Enums annotated:" (toString s.enums),
    counted style "External types:" (toString s.external),
    counted style "Services annotated:" (toString s.services),
    counted style "Methods annotated:" (toString s.methods)] ++
  countedUnlessZero style "" s.skipped s!"{s.skipped} gRPC-only skipped" ++
  countedUnlessZero style "Features:" s.features (toString s.features) ++
  countedUnlessZero style "Warnings:" s.warnings.length (toString s.warnings.length)

/-- Whether a warning is told: an advisory always, any other only by a verbose command, and none by
a quiet one. -/
def tells (w : Warning) : Bool :=
  match c.verbosity with
  | .quiet => false
  | .verbose => true
  | .normal => w.isAdvisory

/-- The line of a warning. -/
def warningLine (style : Style) (w : Warning) : String :=
  style.paint .accent (if w.isAdvisory then "Advisory:" else "Warning:") ++ " " ++
    style.paint .primary w.message

/-- The lines of the warnings that are told, after an empty line. -/
def warningLines (style : Style) (warnings : List Warning) : List String :=
  match warnings.filter c.tells with
  | [] => []
  | told => "" :: told.map (warningLine style)

/-- The line before the input is read. -/
def loadingLine (style : Style) (time : String) : String :=
  timed style time .primary ("Loading API model from: " ++ c.input)

/-- The line before the model is annotated. -/
def annotatingLine (style : Style) (time : String) : String :=
  timed style time .primary "Annotating model..."

/-- The line before the output is written. -/
def writingLine (style : Style) (time : String) : String :=
  timed style time .primary ("Writing to: " ++ c.output)

/-- The lines at the end of a command that succeeded. -/
def successLines (style : Style) (time : String) : List String :=
  ["", timed style time .success "Successfully annotated model"]

/-- The lines that tell how far a failing command got. -/
def linesBefore (style : Style) (time : String) : RunError → List String
  | .malformedEntry _ | .option _ => []
  | .unreadable _ | .invalidModel .. => [c.loadingLine style time]
  | .unmapped _ | .unwritable _ => [c.loadingLine style time, annotatingLine style time]

/-- The lines about an annotated model, up to the writing of it. -/
def linesAbout (style : Style) (time : String) (a : Annotated) : List String :=
  [c.loadingLine style time, annotatingLine style time] ++ statisticsLines style a.statistics ++
    [c.writingLine style time]

/-- Lines that a quiet command keeps to itself. -/
def unlessQuiet (lines : List String) : String :=
  if c.verbosity = .quiet then "" else unlines lines

/-- The report of a command with the given result, which was written or not. -/
def report (style : Style) (time : String) (result : Except RunError Annotated)
    (written : Except SystemError Unit) : Report :=
  match result, written with
  | .error e, _ => ⟨1, c.unlessQuiet (c.linesBefore style time e), unlines [errorLine e]⟩
  | .ok a, .error e =>
    ⟨1, c.unlessQuiet (c.linesAbout style time a),
      unlines (c.warningLines style a.statistics.warnings ++ [errorLine (.unwritable e)])⟩
  | .ok a, .ok _ =>
    ⟨0, c.unlessQuiet (c.linesAbout style time a ++ successLines style time),
      unlines (c.warningLines style a.statistics.warnings)⟩

/-- The text that the command writes. -/
def outputText (a : Annotated) : String :=
  a.model.toJson.pretty

end AnnotateCommand

namespace Listed

/-- The columns of a listing. -/
def columns : Listed → List Column
  | services => [⟨"SERVICE", false⟩, ⟨"FEATURE", false⟩, ⟨"METHODS", true⟩, ⟨"HOST", false⟩]
  | methods => [⟨"METHOD", false⟩, ⟨"VERB", true⟩, ⟨"PATH", false⟩]

/-- The rows of a listing. -/
def rows [Speller] : Listed → Api → List (List String)
  | services => serviceRows
  | methods => methodRows

/-- The report of a listing of the content of a file. -/
def report [Speller] (listed : Listed) (path : String) (content : Except SystemError ByteArray) :
    Report :=
  match loadModel path content with
  | .ok api => ⟨0, unlines (Grid.lines listed.columns (listed.rows api)), ""⟩
  | .error e => ⟨1, "", unlines [errorLine e]⟩

end Listed

/-- What a command is told about its surroundings. -/
structure Surroundings where
  /-- Whether the output is shown on a terminal. -/
  onTerminal : Bool := false
  /-- How the terminal tells its colours. -/
  background : Option String := none
  /-- The time of day, in brackets. -/
  time : String

/-- The line that tells the version. -/
def versionLine : String := "libgen-annotate 0.4.0"

/-- The line that tells the commands. -/
def usageLine : String := "Usage: libgen-annotate [OPTIONS] <annotate|list services|list methods>"

/-- The report when no command is carried out. -/
def Stop.report : Stop → Report
  | help => ⟨0, unlines [usageLine], ""⟩
  | version => ⟨0, unlines [versionLine], ""⟩
  | usage => ⟨2, "", unlines [usageLine]⟩

/-- Carries out the annotation command. -/
def AnnotateCommand.run [Speller] [Monad m] (c : AnnotateCommand) (host : Host m) (style : Style)
    (time : String) : m Report := do
  let result := c.result (← host.read c.input)
  let written ← match result with
    | .ok a => host.save c.output (outputText a).toUTF8
    | .error _ => pure (.ok ())
  return c.report style time result written

/-- Carries out a command line. -/
def run [Speller] [Monad m] (host : Host m) (around : Surroundings) (words : List String) :
    m Report :=
  match parse words with
  | .error stop => return stop.report
  | .ok invocation =>
    match invocation.command with
    | .annotate c =>
      c.run host (Style.of invocation.color invocation.theme around.onTerminal around.background)
        around.time
    | .list listed input => return listed.report input (← host.read input)

end ApiAnnotator.CommandLine
