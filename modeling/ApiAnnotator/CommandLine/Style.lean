import ApiAnnotator.Text.Natural
import ApiAnnotator.Text.Pieces

/-!
# Colours on the terminal

Messages are painted by the role of their parts. There are two palettes, for dark and for light
backgrounds; without colours each part still resets the colour before and after itself.

## Main definitions

* `Role`, `Palette` — what is painted, and in which colour.
* `Style.paint` — a painted text.
* `Style.of` — the style for the wishes of the user and what is known about the terminal.
-/

namespace ApiAnnotator.CommandLine

/-- When to use colours. -/
inductive ColorMode where
  | always
  | auto
  | never
  deriving DecidableEq

/-- Which palette to use. -/
inductive ThemeMode where
  | dark
  | light
  | auto
  deriving DecidableEq

/-- The role of a part of a message. -/
inductive Role where
  | timestamp
  | primary
  | accent
  | label
  | value
  | success
  deriving DecidableEq

/-- A colour by its shares of red, green and blue. -/
structure Color where
  red : Nat
  green : Nat
  blue : Nat

/-- A colour for each role. -/
abbrev Palette := Role → Color

/-- The palette for dark backgrounds. -/
def darkPalette : Palette
  | .timestamp | .success => ⟨118, 166, 166⟩
  | .primary => ⟨191, 126, 4⟩
  | .accent => ⟨166, 84, 55⟩
  | .label => ⟨217, 164, 4⟩
  | .value => ⟨242, 211, 56⟩

/-- The palette for light backgrounds. -/
def lightPalette : Palette
  | .timestamp => ⟨92, 62, 38⟩
  | .primary => ⟨70, 42, 25⟩
  | .accent => ⟨211, 99, 70⟩
  | .label => ⟨176, 103, 66⟩
  | .value => ⟨199, 146, 76⟩
  | .success => ⟨34, 142, 90⟩

/-- How messages are painted: with a palette, or without colours. -/
abbrev Style := Option Palette

/-- The terminal's command to change the colour. -/
def colorCommand (parameters : String) : String :=
  "\x1b[" ++ parameters ++ "m"

/-- The command that resets the colour. -/
def resetColor : String :=
  colorCommand "39"

/-- The command that sets a colour. -/
def Color.command (c : Color) : String :=
  colorCommand s!"38;2;{c.red};{c.green};{c.blue}"

/-- A text in the colour of its role. -/
def Style.paint (style : Style) (role : Role) (text : String) : String :=
  (style.map fun palette => (palette role).command).getD resetColor ++ text ++ resetColor

/-- Whether a terminal has a light background. It tells its colours in one text, the background
last, as a number of at most 255; from eight on the colours are light. -/
def isLightBackground (colors : String) : Bool :=
  (((Text.splitAll ';' colors).getLast?).bind (Text.natural? 255)).any (8 ≤ ·)

/-- The style for the given wishes. `onTerminal` tells whether the output is shown on a terminal,
and `background` is the text in which the terminal tells its colours. -/
def Style.of (color : ColorMode) (theme : ThemeMode) (onTerminal : Bool)
    (background : Option String) : Style :=
  let enabled := match color with
    | .always => true
    | .never => false
    | .auto => onTerminal
  let light := match theme with
    | .dark => false
    | .light => true
    | .auto => background.any isLightBackground
  if enabled then some (if light then lightPalette else darkPalette) else none

end ApiAnnotator.CommandLine
