import ApiAnnotator.Text.Unprintable

/-!
# Quoted text

A text in quotation marks, written so that it can stand as a literal in generated code. Quotation
marks and backslashes are escaped, four controls have short escapes, every other unprintable
character is shown by its code point in lowercase hexadecimal, and all else stands for itself.
-/

namespace ApiAnnotator.Text

/-- The lowercase hexadecimal digits of a number. -/
def hexDigits (n : Nat) : List Char :=
  Nat.toDigits 16 n

/-- One character of a quoted text. -/
def quotedChar (c : Char) : List Char :=
  match c.toNat with
  | 0x22 => ['\\', c]
  | 0x5C => ['\\', c]
  | 0x0A => ['\\', 'n']
  | 0x0D => ['\\', 'r']
  | 0x09 => ['\\', 't']
  | 0x00 => ['\\', '0']
  | n =>
    if isUnprintable c then ['\\', 'u', '\x7b'] ++ hexDigits n ++ ['\x7d']
    else [c]

/-- The text between quotation marks. -/
def quoted (s : String) : String :=
  "\"" ++ String.ofList (s.toList.flatMap quotedChar) ++ "\""

end ApiAnnotator.Text
