import ApiAnnotator.Decimal.Shortest
import ApiAnnotator.Json.Basic

/-!
# Written JSON

A value is written in one of two layouts: `compact` puts everything on one line without blanks, and
`pretty` gives each member and each item a line of its own, two blanks deeper than its surroundings.
Empty lists and objects stay on one line in both.

Strings escape the quotation mark, the backslash and the controls below the blank; all other
characters stand for themselves. A floating-point number has the fewest digits that read back,
positional as long as the point falls within sixteen places of the first digit; beyond that it has
an exponent, always with a sign.
-/

namespace ApiAnnotator.Json

/-- The hexadecimal digit of a number below sixteen. -/
def hexDigit (n : Nat) : Char :=
  Nat.digitChar (n % 16)

/-- A character as it stands inside a written string. -/
def escapeChar (c : Char) : List Char :=
  match c with
  | '"' => ['\\', '"']
  | '\\' => ['\\', '\\']
  | '\n' => ['\\', 'n']
  | '\r' => ['\\', 'r']
  | '\t' => ['\\', 't']
  | '\x08' => ['\\', 'b']
  | '\x0c' => ['\\', 'f']
  | c =>
    if c.toNat < 0x20 then ['\\', 'u', '0', '0', hexDigit (c.toNat / 16), hexDigit c.toNat] else [c]

/-- A text in quotation marks. -/
def quote (s : String) : String :=
  String.ofList ('"' :: s.toList.flatMap escapeChar ++ ['"'])

/-- `count` zeros. -/
def zeros (count : Nat) : List Char :=
  List.replicate count '0'

/-- An exponent with its sign. -/
def exponentChars (e : Int) : List Char :=
  (if e < 0 then '-' else '+') :: Nat.toDigits 10 e.natAbs

/-- The digits of a decimal with a point or an exponent. -/
def decimalChars (d : Decimal.Numeral) : List Char :=
  let digits := Nat.toDigits 10 d.digits
  let point : Int := digits.length + d.scale
  if 0 ≤ d.scale ∧ point ≤ 16 then digits ++ zeros d.scale.toNat ++ ['.', '0']
  else if 0 < point ∧ point ≤ 16 then
    digits.take point.toNat ++ '.' :: digits.drop point.toNat
  else if -5 < point ∧ point ≤ 0 then '0' :: '.' :: zeros (-point).toNat ++ digits
  else
    let fraction := if digits.length = 1 then [] else '.' :: digits.tail
    digits.take 1 ++ fraction ++ 'e' :: exponentChars (point - 1)

/-- A finite floating-point number. -/
def floatText (x : Float) : String :=
  let sign := if x.toBits >>> 63 == 1 then ['-'] else []
  let magnitude := if x == 0 then ['0', '.', '0'] else decimalChars (Decimal.shortest x)
  String.ofList (sign ++ magnitude)

mutual

/-- The value on one line without blanks. -/
def compact : Json → String
  | .null => "null"
  | .bool b => if b then "true" else "false"
  | .int n => toString n
  | .float x => floatText x
  | .str s => quote s
  | .arr [] => "[]"
  | .arr (item :: items) => "[" ++ compact item ++ compactItems items ++ "]"
  | .obj [] => "\x7b\x7d"
  | .obj ((key, value) :: members) =>
    "\x7b" ++ quote key ++ ":" ++ compact value ++ compactMembers members ++ "\x7d"

/-- The items after the first one, each with the comma before it. -/
def compactItems : List Json → String
  | [] => ""
  | item :: items => "," ++ compact item ++ compactItems items

/-- The members after the first one, each with the comma before it. -/
def compactMembers : List (String × Json) → String
  | [] => ""
  | (key, value) :: members =>
    "," ++ quote key ++ ":" ++ compact value ++ compactMembers members

end

/-- A new line at the given depth. -/
def newLine (depth : Nat) : String :=
  String.ofList ('\n' :: List.replicate (2 * depth) ' ')

mutual

/-- The value with a line for each item and member, at the given depth. -/
def prettyAt (depth : Nat) : Json → String
  | .null => "null"
  | .bool b => if b then "true" else "false"
  | .int n => toString n
  | .float x => floatText x
  | .str s => quote s
  | .arr [] => "[]"
  | .arr (item :: items) =>
    "[" ++ newLine (depth + 1) ++ prettyAt (depth + 1) item ++ prettyItems (depth + 1) items ++
      newLine depth ++ "]"
  | .obj [] => "\x7b\x7d"
  | .obj ((key, value) :: members) =>
    "\x7b" ++ newLine (depth + 1) ++ quote key ++ ": " ++ prettyAt (depth + 1) value ++
      prettyMembers (depth + 1) members ++ newLine depth ++ "\x7d"

/-- The items after the first one, each on a line of its own. -/
def prettyItems (depth : Nat) : List Json → String
  | [] => ""
  | item :: items => "," ++ newLine depth ++ prettyAt depth item ++ prettyItems depth items

/-- The members after the first one, each on a line of its own. -/
def prettyMembers (depth : Nat) : List (String × Json) → String
  | [] => ""
  | (key, value) :: members =>
    "," ++ newLine depth ++ quote key ++ ": " ++ prettyAt depth value ++ prettyMembers depth members

end

/-- The value with a line for each item and member. -/
def pretty (value : Json) : String :=
  prettyAt 0 value

end ApiAnnotator.Json
