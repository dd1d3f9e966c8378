import ApiAnnotator.Json.Scan

/-!
# String literals

The text between quotation marks. A backslash starts an escape; an escape by code point stands for a
unit of UTF-16, so that a character beyond the basic plane takes two of them, the leading surrogate
first. Controls must be escaped.

A literal is either read, by `stringRest`, or passed over, by `skipString`. What is passed over is
not checked for surrogates, since no text is made of it.
-/

namespace ApiAnnotator.Json.Scan

/-- Whether a byte of a literal stands for itself. -/
def isPlain (byte : UInt8) : Bool :=
  byte != 0x22 && byte != 0x5C && 0x20 ≤ byte

/-- The value of a hexadecimal digit. -/
def hexValue? (byte : UInt8) : Option Nat :=
  let n := byte.toNat
  if 0x30 ≤ n ∧ n ≤ 0x39 then some (n - 0x30)
  else if 0x41 ≤ n ∧ n ≤ 0x46 then some (n - 0x41 + 10)
  else if 0x61 ≤ n ∧ n ≤ 0x66 then some (n - 0x61 + 10)
  else none

/-- The number that hexadecimal digits stand for. -/
def hexNumber? (digits : List UInt8) : Option Nat :=
  (digits.mapM hexValue?).map fun values => values.foldl (fun n d => 16 * n + d) 0

/-- The four hexadecimal digits of an escape by code point. -/
def hexUnit : Scan Nat := do
  let text ← read
  let start ← position
  if start + 4 ≤ text.size then
    skip 4
    match hexNumber? (text.extract start (start + 4)).toList with
    | some unit => return unit
    | none => failHere .badEscape
  else
    set text.size
    failHere .endInString

/-- Takes a byte that has to follow a leading surrogate. -/
def expectAfterSurrogate (byte : UInt8) : Scan Unit := do
  match ← next? with
  | none => failHere .endInString
  | some found => if found == byte then pure () else failHere .endInEscape

/-- The character of an escape by code point. -/
def unicodeEscape : Scan Char := do
  let unit ← hexUnit
  if 0xDC00 ≤ unit ∧ unit ≤ 0xDFFF then failHere .loneSurrogate
  else if 0xD800 ≤ unit ∧ unit ≤ 0xDBFF then
    expectAfterSurrogate 0x5C
    expectAfterSurrogate 0x75
    let trailing ← hexUnit
    if 0xDC00 ≤ trailing ∧ trailing ≤ 0xDFFF then
      return Char.ofNat (0x10000 + (unit - 0xD800) * 0x400 + (trailing - 0xDC00))
    else failHere .loneSurrogate
  else return Char.ofNat unit

/-- The character of an escape of one letter. -/
def shortEscape? (byte : UInt8) : Option Char :=
  match Char.ofNat byte.toNat with
  | '"' => some '"'
  | '\\' => some '\\'
  | '/' => some '/'
  | 'b' => some '\x08'
  | 'f' => some '\x0c'
  | 'n' => some '\n'
  | 'r' => some '\r'
  | 't' => some '\t'
  | _ => none

/-- The character of the escape after a backslash. -/
def escape : Scan Char := do
  match ← next? with
  | none => failHere .endInString
  | some byte =>
    if byte == 0x75 then unicodeEscape
    else match shortEscape? byte with
      | some c => return c
      | none => failHere .badEscape

/-- The text of a literal whose opening quotation mark is taken already. -/
def stringRest : Scan String :=
  loop (fun (done : ByteArray) => do
    let done := done ++ (← takeWhile isPlain)
    match ← next? with
    | none => failHere .endInString
    | some byte =>
      if byte == 0x22 then
        match String.fromUTF8? done with
        | some s => return .inr s
        | none => failHere .badCodePoint
      else if byte == 0x5C then return .inl (done ++ (← escape).toString.toUTF8)
      else failHere .controlCharacter) ByteArray.empty

/-- Passes over the escape after a backslash. -/
def skipEscape : Scan Unit := do
  match ← next? with
  | none => failHere .endInString
  | some byte =>
    if byte == 0x75 then discard hexUnit
    else if (shortEscape? byte).isSome then pure ()
    else failHere .badEscape

/-- Passes over a literal whose opening quotation mark is taken already. -/
def skipString : Scan Unit :=
  loop (fun (_ : Unit) => do
    discard (takeWhile isPlain)
    match ← peek? with
    | none => failHere .endInString
    | some byte =>
      if byte == 0x22 then
        skip 1
        return .inr ()
      else if byte == 0x5C then
        skip 1
        skipEscape
        return .inl ()
      else failHere .controlCharacter) ()

end ApiAnnotator.Json.Scan
