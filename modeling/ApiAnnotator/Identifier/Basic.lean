import ApiAnnotator.Identifier.Words
import ApiAnnotator.Text.Pieces
import ApiAnnotator.Text.Transliteration

/-!
# Identifiers

The names that generated Rust code uses for the entities of an API. Source names arrive in any
script and any style; what leaves this module is an identifier in the style of its place:
`snake_case` for fields, methods and modules, `PascalCase` for types, `SCREAMING_SNAKE_CASE` for
constants and `kebab-case` for features.

Each conversion reads a name written as a raw identifier (`r#type`) like the bare name, so a
converted name converts to itself.

Which ASCII text stands for a character of another script is left to a `Speller`: the conversions
are defined for any of them, and so is everything that is made of names.

## Main definitions

* `sanitize` — the runs of ASCII letters and digits of a name, joined by single underscores.
* `snake`, `fieldName` — `snake_case` without and with regard to keywords.
* `typeName`, `constName`, `featureName`, `crateNamespace`.
-/

namespace ApiAnnotator.Identifier

open Text

/-- The words that the language uses or keeps for itself, `self` and `Self` apart: they have no raw
form and are treated on their own. -/
def keywords : List String :=
  ["as", "async", "await", "break", "const", "continue", "crate", "dyn", "else", "enum", "extern",
    "false", "fn", "for", "if", "impl", "in", "let", "loop", "match", "mod", "move", "mut", "pub",
    "ref", "return", "static", "struct", "super", "trait", "true", "type", "unsafe", "use", "where",
    "while", "abstract", "become", "box", "do", "final", "gen", "macro", "override", "priv", "try",
    "typeof", "unsized", "virtual", "yield"]

/-- Type names that would hide a name every module can see. -/
def reservedTypeNames : List String :=
  ["Clone", "Copy", "Display", "Option", "Result", "Self", "Send", "Sync", "Type", "Vec"]

/-- The characters of a name without the mark of a raw identifier. -/
def bare : List Char → List Char
  | 'r' :: '#' :: rest => rest
  | name => name

variable [Speller]

/-- The runs of letters and digits of the transliterated name, joined by single underscores. -/
def sanitizeChars (name : List Char) : List Char :=
  ['_'].intercalate (runs (transliterate name))

/-- An underscore between each lower-case letter and an upper-case letter right after it. -/
def separateCase : List Char → List Char
  | c :: d :: rest =>
    if c.isLower && d.isUpper then c :: '_' :: separateCase (d :: rest)
    else c :: separateCase (d :: rest)
  | name => name

/-- The name with `guard` in front if it starts with a digit. -/
def guardDigit (guard : Char) : List Char → List Char
  | [] => []
  | c :: rest => if c.isDigit then guard :: c :: rest else c :: rest

/-- The name in `snake_case`, keywords included. -/
def snakeChars (name : List Char) : List Char :=
  match (separateCase (sanitizeChars (bare name))).map Char.toLower with
  | [] => ['_']
  | ident => guardDigit '_' ident

/-- The name in `SCREAMING_SNAKE_CASE`. -/
def constChars (name : List Char) : List Char :=
  match sanitizeChars name with
  | [] => "UNNAMED".toList
  | ident => guardDigit '_' ((separateCase ident).map Char.toUpper)

/-- Whether a name shows its words by case alone: letters of both cases and no separator. -/
def isMixedCase (name : List Char) : Bool :=
  !name.any (fun c => c == '-' || c == '_' || c == '.' || c == ' ') &&
    name.any Char.isUpper && name.any Char.isLower

/-- The capitalized words of a text, one directly after the other. -/
def pascalWords (ascii : List Char) : List Char :=
  (splitWords ascii).flatMap capitalize

/-- The words of a name in `PascalCase`. Words of one letter each run together into capitals, which
would read as a single word the next time, so that reading is settled on at once. -/
def pascalChars (ascii : List Char) : List Char :=
  let joined := pascalWords ascii
  if joined.any Char.isLower then joined else pascalWords joined

/-- The letters and digits of a name, the first one upper case. -/
def keepCase (ascii : List Char) : List Char :=
  match ascii.filter Char.isAlphanum with
  | [] => []
  | c :: rest => c.toUpper :: rest

/-- The name as a type name before reserved names and leading digits are looked at. -/
def typeStem (name : List Char) : List Char :=
  if isMixedCase name then keepCase (transliterate name) else pascalChars (transliterate name)

/-- The stem with a suffix if it is a reserved name. -/
def avoidReserved (stem : List Char) : List Char :=
  if String.ofList stem ∈ reservedTypeNames then stem ++ "Type".toList else stem

/-- The name in `PascalCase`. -/
def typeChars (name : List Char) : List Char :=
  match typeStem (bare name) with
  | [] => "Unnamed".toList
  | stem => guardDigit 'T' (avoidReserved stem)

/-- The runs of ASCII letters and digits of a name, joined by single underscores. -/
def sanitize (name : String) : String :=
  String.ofList (sanitizeChars name.toList)

/-- The name in `snake_case` for places where something else always stands in front of it, such as
setters, so that a keyword can do no harm. -/
def snake (name : String) : String :=
  String.ofList (snakeChars name.toList)

/-- The name of a field, method or module. A keyword is written as a raw identifier, except `self`,
which has no raw form and gets an underscore. -/
def fieldName (name : String) : String :=
  let ident := snake name
  if ident = "self" then "self_"
  else if ident ∈ keywords then "r#" ++ ident
  else ident

/-- The name of a type. A name in mixed case keeps its case; any other is put together from its
words. -/
def typeName (name : String) : String :=
  String.ofList (typeChars name.toList)

/-- The name of a constant. -/
def constName (name : String) : String :=
  String.ofList (constChars name.toList)

/-- The feature of a service: its name in `kebab-case`. -/
def featureName (name : String) : String :=
  String.ofList (((snakeChars name.toList).dropWhile (· == '_')).map
    fun c => if c = '_' then '-' else c)

/-- The identifier by which code refers to a crate. -/
def crateNamespace (crateName : String) : String :=
  String.ofList (crateName.toList.map fun c => if c = '-' then '_' else c)

end ApiAnnotator.Identifier
