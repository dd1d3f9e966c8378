import ApiAnnotator.CommandLine.Style
import ApiAnnotator.Text.Pieces

/-!
# Arguments

A command line names a command, and before and after it options, by a long name or by a letter. Each
command accepts options of its own. An option that takes a value finds it behind an equals sign, in
the rest of its word if it is given by a letter, or in the next word, which must not look like an
option itself. Letters can be put together in one word. Colour and theme can be set anywhere; the
setting next to the innermost command counts.

Words are read from left to right, and the first thing that is wrong, or asks for help or the
version, settles the matter.

## Main definitions

* `Opt`, `Command`, `Invocation` — options and commands.
* `readOptions` — the options of a command and where they end.
* `Settings.add` — the effect of an option.
* `parse` — reads a command line.
-/

namespace ApiAnnotator.CommandLine

open Text

/-- The options of all commands. -/
inductive Opt where
  | color
  | theme
  | input
  | output
  | entry
  | verbose
  | quiet
  | help
  | version
  deriving DecidableEq

namespace Opt

/-- The long name of an option. -/
def long : Opt → String
  | color => "color"
  | theme => "theme"
  | input => "input"
  | output => "output"
  | entry => "option"
  | verbose => "verbose"
  | quiet => "quiet"
  | help => "help"
  | version => "version"

/-- The letter of an option, if it has one. -/
def letter? : Opt → Option Char
  | color | theme => none
  | input => some 'i'
  | output => some 'o'
  | entry => some 'O'
  | verbose => some 'v'
  | quiet => some 'q'
  | help => some 'h'
  | version => some 'V'

/-- Whether an option takes a value. -/
def takesValue : Opt → Bool
  | color | theme | input | output | entry => true
  | verbose | quiet | help | version => false

/-- The options before a command. -/
def ofProgram : List Opt := [color, theme, help, version]

/-- The options of a command that has further commands. -/
def ofGroup : List Opt := [color, theme, help]

/-- The options of a listing. -/
def ofListing : List Opt := [color, theme, help, input]

/-- The options of the annotation command. -/
def ofAnnotate : List Opt := [color, theme, help, input, output, entry, verbose, quiet]

end Opt

/-- An option as it is given; without a value the text is empty. -/
structure Given where
  opt : Opt
  value : String
  deriving DecidableEq

/-- A word of the command line by its form. -/
inductive Word where
  | terminator
  | long (name : String) (value : Option String)
  | letters (cluster : List Char)
  | plain (text : String)

/-- The form of a word. A single dash is a plain word. -/
def Word.of (text : String) : Word :=
  match text.toList with
  | ['-', '-'] => .terminator
  | '-' :: '-' :: name =>
    match splitOnce '=' name with
    | some (name, value) => .long (String.ofList name) (some (String.ofList value))
    | none => .long (String.ofList name) none
  | '-' :: c :: cluster => .letters (c :: cluster)
  | _ => .plain text

/-- Whether a word can be the value of the option before it. -/
def Word.isValue : Word → Bool
  | .plain _ => true
  | _ => false

/-- What follows the options of a command. -/
inductive Rest where
  /-- Nothing. -/
  | finished
  /-- A word that is no option, and further words. -/
  | word (text : String) (more : List String)
  /-- An option that is not accepted, or lacks its value, or has one too many. -/
  | broken

/-- What follows the letters of a word. -/
inductive Pending where
  /-- Nothing. -/
  | done
  /-- The value of an option in the next word. -/
  | value (opt : Opt)
  /-- A letter that is not accepted. -/
  | broken

/-- The options given by the letters of a word. -/
def readLetters (accepted : List Opt) : List Char → List Given × Pending
  | [] => ([], .done)
  | c :: rest =>
    match accepted.find? (·.letter? = some c) with
    | none => ([], .broken)
    | some opt =>
      if opt.takesValue then
        match rest with
        | [] => ([], .value opt)
        | '=' :: value => ([⟨opt, String.ofList value⟩], .done)
        | value => ([⟨opt, String.ofList value⟩], .done)
      else
        let (given, pending) := readLetters accepted rest
        (⟨opt, ""⟩ :: given, pending)

/-- The options given by one word. -/
def readWord (accepted : List Opt) (text : String) : List Given × Pending :=
  match Word.of text with
  | .long name value =>
    match accepted.find? (·.long = name) with
    | none => ([], .broken)
    | some opt =>
      match opt.takesValue, value with
      | true, some value => ([⟨opt, value⟩], .done)
      | true, none => ([], .value opt)
      | false, none => ([⟨opt, ""⟩], .done)
      | false, some _ => ([], .broken)
  | .letters cluster => readLetters accepted cluster
  | _ => ([], .broken)

/-- The options of a command and what follows them. -/
def readOptions (accepted : List Opt) : List String → List Given × Rest
  | [] => ([], .finished)
  | word :: words =>
    match Word.of word with
    | .plain text => ([], .word text words)
    | .terminator => ([], if words.isEmpty then .finished else .broken)
    | _ =>
      match readWord accepted word, words with
      | (given, .done), words =>
        let (more, rest) := readOptions accepted words
        (given ++ more, rest)
      | (given, .value opt), value :: words =>
        if (Word.of value).isValue then
          let (more, rest) := readOptions accepted words
          (given ++ ⟨opt, value⟩ :: more, rest)
        else (given, .broken)
      | (given, _), _ => (given, .broken)
termination_by words => words.length

/-- Why no command is carried out. -/
inductive Stop where
  | help
  | version
  | usage
  deriving DecidableEq

/-- What the options of a command set. -/
structure Settings where
  color : Option ColorMode := none
  theme : Option ThemeMode := none
  input : Option String := none
  output : Option String := none
  entries : List String := []
  verbose : Bool := false
  quiet : Bool := false

/-- The modes of colour by name. -/
def colorModes : List (String × ColorMode) :=
  [("always", .always), ("auto", .auto), ("never", .never)]

/-- The modes of the theme by name. -/
def themeModes : List (String × ThemeMode) :=
  [("dark", .dark), ("light", .light), ("auto", .auto)]

/-- The value of an option that may be given once. -/
def once (old : Option α) (new : Option α) : Except Stop (Option α) :=
  match old, new with
  | none, some a => .ok (some a)
  | _, _ => .error .usage

/-- A path; it must not be empty. -/
def path? (text : String) : Option String :=
  if text = "" then none else some text

/-- The settings after one more option. -/
def Settings.add (s : Settings) (given : Given) : Except Stop Settings :=
  match given.opt with
  | .color => do return { s with color := ← once s.color (colorModes.lookup given.value) }
  | .theme => do return { s with theme := ← once s.theme (themeModes.lookup given.value) }
  | .input => do return { s with input := ← once s.input (path? given.value) }
  | .output => do return { s with output := ← once s.output (path? given.value) }
  | .entry => .ok { s with entries := s.entries ++ [given.value] }
  | .verbose => if s.verbose then .error .usage else .ok { s with verbose := true }
  | .quiet => if s.quiet then .error .usage else .ok { s with quiet := true }
  | .help => .error .help
  | .version => .error .version

/-- The settings of a command, and what follows them. -/
def settle (accepted : List Opt) (words : List String) : Except Stop (Settings × Rest) := do
  let (given, rest) := readOptions accepted words
  let s ← given.foldlM Settings.add {}
  return (s, rest)

/-- The settings of a command that nothing may follow. -/
def settleLast (accepted : List Opt) (words : List String) : Except Stop Settings := do
  match ← settle accepted words with
  | (s, .finished) => return s
  | _ => .error .usage

/-- How much a command tells. -/
inductive Verbosity where
  | normal
  | verbose
  | quiet
  deriving DecidableEq

/-- The command that annotates a model. -/
structure AnnotateCommand where
  input : String
  output : String
  entries : List String
  verbosity : Verbosity
  deriving DecidableEq

/-- What a listing shows. -/
inductive Listed where
  | services
  | methods
  deriving DecidableEq

/-- A command. -/
inductive Command where
  | annotate (command : AnnotateCommand)
  | list (listed : Listed) (input : String)
  deriving DecidableEq

/-- A command and the look of what it tells. -/
structure Invocation where
  command : Command
  color : ColorMode
  theme : ThemeMode
  deriving DecidableEq

/-- A value that a command cannot do without. -/
def require : Option α → Except Stop α
  | some a => .ok a
  | none => .error .usage

/-- The verbosity of a command; it cannot be verbose and quiet. -/
def Settings.verbosity (s : Settings) : Except Stop Verbosity :=
  match s.verbose, s.quiet with
  | true, true => .error .usage
  | true, false => .ok .verbose
  | false, true => .ok .quiet
  | false, false => .ok .normal

/-- The invocation of a command under the settings around it, innermost first. -/
def invoke (command : Command) (settings : List Settings) : Invocation where
  command
  color := (settings.findSome? (·.color)).getD .auto
  theme := (settings.findSome? (·.theme)).getD .auto

/-- Reads the words after the annotation command. -/
def parseAnnotate (outer : List Settings) (words : List String) : Except Stop Invocation := do
  let s ← settleLast Opt.ofAnnotate words
  let command := {
    input := ← require s.input
    output := ← require s.output
    entries := s.entries
    verbosity := ← s.verbosity }
  return invoke (.annotate command) (s :: outer)

/-- Reads the words after a listing. -/
def parseListing (listed : Listed) (outer : List Settings) (words : List String) :
    Except Stop Invocation := do
  let s ← settleLast Opt.ofListing words
  return invoke (.list listed (← require s.input)) (s :: outer)

/-- The words after which help can be asked for. -/
def helpTopics : List (List String) :=
  [[], ["annotate"], ["list"], ["list", "services"], ["list", "methods"], ["list", "help"],
    ["help"]]

/-- Reads the words after a request for help. -/
def parseHelp (topics : List (List String)) (words : List String) : Except Stop Invocation :=
  .error (if words ∈ topics then .help else .usage)

/-- Reads the words after the group of listings. -/
def parseList (outer : List Settings) (words : List String) : Except Stop Invocation := do
  let (s, rest) ← settle Opt.ofGroup words
  match rest with
  | .word "services" more => parseListing .services (s :: outer) more
  | .word "methods" more => parseListing .methods (s :: outer) more
  | .word "help" more => parseHelp [[], ["services"], ["methods"], ["help"]] more
  | _ => .error .usage

/-- Reads a command line. -/
def parse (words : List String) : Except Stop Invocation := do
  let (s, rest) ← settle Opt.ofProgram words
  match rest with
  | .word "annotate" more => parseAnnotate [s] more
  | .word "list" more => parseList [s] more
  | .word "help" more => parseHelp helpTopics more
  | _ => .error .usage

end ApiAnnotator.CommandLine
