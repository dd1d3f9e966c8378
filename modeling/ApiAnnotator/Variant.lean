import ApiAnnotator.Identifier.Basic
import ApiAnnotator.Model.Basic

/-!
# Variants of an enum

The values of an enum usually repeat its name, as in `STATE_ENABLED` for a value of `State`. A
variant is named without that repetition, unless nothing or a leading digit would be left. Values
whose variants differ at most in case are one variant, that of the first of them.
-/

namespace ApiAnnotator

/-- Whether a text can start a name of its own. -/
def startsName (s : String) : Bool :=
  match s.toList with
  | [] => false
  | c :: _ => !c.isDigit

variable [Speller]

/-- The name of a value without the repeated name of the enum. -/
def valueStem (enumName valueName : String) : String :=
  ((Text.afterPrefix? (Identifier.constName enumName ++ "_") valueName).filter startsName).getD
    valueName

/-- The name of the variant for a value. -/
def variantName (enumName valueName : String) : String :=
  Identifier.typeName (valueStem enumName valueName).toLower

/-- The values whose variants differ from all variants before them even without regard to case,
where `seen` are the variants so far in lower case. -/
def distinctValues (enumName : String) (seen : List String) : List EnumValue → List EnumValue
  | [] => []
  | v :: rest =>
    let variant := (variantName enumName v.name).toLower
    if variant ∈ seen then distinctValues enumName seen rest
    else v :: distinctValues enumName (variant :: seen) rest

namespace Enum

/-- The name of the variant for a value of the enum. -/
def variantOf (e : Enum) (v : EnumValue) : String :=
  variantName e.name v.name

/-- The values of the enum that have a variant of their own. -/
def uniqueValues (e : Enum) : List EnumValue :=
  distinctValues e.name [] e.values

/-- The values of the enum that serve as examples: at most three, neither deprecated nor zero. -/
def exampleValues (e : Enum) : List EnumValue :=
  (e.uniqueValues.filter fun v => !v.deprecated && v.number ≠ 0).take 3

end Enum

end ApiAnnotator
