import ApiAnnotator.Json.Basic

/-!
# Scanning text

A scan reads a text from left to right. Its state is the position in the text, counted in bytes, and
it either gives a value or fails. A failure says what the problem is, and where; a problem with a
value that is well formed but unwelcome has no place of its own, and gets the position at which the
surrounding object or list was left.

Positions are reported as a line and a column, both of them counted from the bytes before the
position.

## Main definitions

* `Problem`, `Failure` — what can be wrong, and where.
* `Scan` — a scan for a value; `failHere`, `failAhead` end it.
* `Scan.loop` — a scan step repeated to its end.
* `Place.of` — line and column of a position.
-/

namespace ApiAnnotator.Json

/-- A well-formed value that does not fit what is to be read from it. -/
inductive Misfit where
  | wrongType (found expected : String)
  | outOfRange (found expected : String)
  | wrongLength (count : Nat) (expected : String)
  | unknownVariant (found : String) (variants : List String)
  | missingKey (key : String)
  | repeatedKey (key : String)
  /-- A text that its own reader refuses, with the reason. -/
  | refused (reason : String)

/-- The wording of a misfit. -/
def Misfit.message : Misfit → String
  | .wrongType found expected => s!"invalid type: {found}, expected {expected}"
  | .outOfRange found expected => s!"invalid value: {found}, expected {expected}"
  | .wrongLength count expected => s!"invalid length {count}, expected {expected}"
  | .unknownVariant found variants =>
    let names := ", ".intercalate (variants.map fun name => "`" ++ name ++ "`")
    "unknown variant `" ++ found ++ "`, expected one of " ++ names
  | .missingKey key => "missing field `" ++ key ++ "`"
  | .repeatedKey key => "duplicate field `" ++ key ++ "`"
  | .refused reason => reason

/-- What can be wrong with a text. -/
inductive Problem where
  | endInValue
  | endInString
  | endInList
  | endInObject
  | expectedValue
  | expectedIdent
  | expectedColon
  | expectedListEnd
  | expectedObjectEnd
  | trailingComma
  | trailingCharacters
  | keyNotString
  | badNumber
  | numberOutOfRange
  | badEscape
  | loneSurrogate
  | endInEscape
  | controlCharacter
  | badCodePoint
  | tooDeep
  | misfit (m : Misfit)

/-- The three kinds of problem: ill-formed text, text that ends too early, and well-formed text with
values that do not fit. -/
inductive Problem.Category where
  | malformed
  | truncated
  | data
  deriving DecidableEq

/-- The kind of a problem. -/
def Problem.category : Problem → Category
  | .endInValue | .endInString | .endInList | .endInObject => .truncated
  | .misfit _ => .data
  | _ => .malformed

/-- The wording of a problem. -/
def Problem.message : Problem → String
  | .endInValue => "EOF while parsing a value"
  | .endInString => "EOF while parsing a string"
  | .endInList => "EOF while parsing a list"
  | .endInObject => "EOF while parsing an object"
  | .expectedValue => "expected value"
  | .expectedIdent => "expected ident"
  | .expectedColon => "expected `:`"
  | .expectedListEnd => "expected `,` or `]`"
  | .expectedObjectEnd => "expected `,` or `\x7d`"
  | .trailingComma => "trailing comma"
  | .trailingCharacters => "trailing characters"
  | .keyNotString => "key must be a string"
  | .badNumber => "invalid number"
  | .numberOutOfRange => "number out of range"
  | .badEscape => "invalid escape"
  | .loneSurrogate => "lone leading surrogate in hex escape"
  | .endInEscape => "unexpected end of hex escape"
  | .controlCharacter =>
    "control character (\\u0000-\\u001F) found while parsing a string"
  | .badCodePoint => "invalid unicode code point"
  | .tooDeep => "recursion limit exceeded"
  | .misfit m => m.message

/-- A problem and the position of it, once that is known. -/
structure Failure where
  problem : Problem
  position : Option Nat

/-- A scan for a value of type `α`: it reads the bytes of a text and moves the position. -/
abbrev Scan (α : Type) := ReaderT ByteArray (EStateM Failure Nat) α

namespace Scan

/-- The position in the text. -/
def position : Scan Nat := get

/-- Ends the scan with a problem at the current position. -/
def failHere (problem : Problem) : Scan α := do
  throw ⟨problem, some (← position)⟩

/-- Ends the scan with a problem at the byte that comes next. -/
def failAhead (problem : Problem) : Scan α := do
  throw ⟨problem, some (min (← read).size ((← position) + 1))⟩

/-- Ends the scan with a misfit, whose place is still to be found. -/
def reject (m : Misfit) : Scan α :=
  throw ⟨.misfit m, none⟩

/-- Gives a problem without a place the position at which the scan stopped. -/
def located (scan : Scan α) : Scan α :=
  tryCatch scan fun failure => do
    throw { failure with position := some (failure.position.getD (← position)) }

/-- The byte that comes next, if the text goes on. -/
def peek? : Scan (Option UInt8) := do
  return (← read)[(← position)]?

/-- Moves the position. -/
def skip (count : Nat) : Scan Unit :=
  modify (· + count)

/-- Takes the byte that comes next, if the text goes on. -/
def next? : Scan (Option UInt8) := do
  let byte ← peek?
  if byte.isSome then skip 1
  return byte

/-- The first position from `i` on whose byte does not pass the test. -/
def endOfRun (test : UInt8 → Bool) (text : ByteArray) (i : Nat) : Nat :=
  if h : i < text.size then
    if test text[i] then endOfRun test text (i + 1) else i
  else i
termination_by text.size - i

/-- Takes the longest run of bytes that pass the test. -/
def takeWhile (test : UInt8 → Bool) : Scan ByteArray := do
  let text ← read
  let start ← position
  let stop := endOfRun test text start
  set stop
  return text.extract start stop

/-- Whether a byte is white space between tokens. -/
def isGap (byte : UInt8) : Bool :=
  byte == 0x20 || byte == 0x0A || byte == 0x0D || byte == 0x09

/-- The first byte after white space, if the text goes on. -/
def peekToken? : Scan (Option UInt8) := do
  discard (takeWhile isGap)
  peek?

/-- The first byte after white space; the problem is reported if the text ends. -/
def peekToken (atEnd : Problem) : Scan UInt8 := do
  match ← peekToken? with
  | some byte => return byte
  | none => failAhead atEnd

/-- Takes the given bytes, the rest of a literal whose first byte is taken already. -/
def expectRest : List UInt8 → Scan Unit
  | [] => pure ()
  | byte :: rest => do
    match ← next? with
    | none => failHere .endInValue
    | some found => if found == byte then expectRest rest else failHere .expectedIdent

/-- Repeats a step until it gives a result. Each step that wants to go on has taken at least one
byte; a step that has not would repeat forever and is refused. -/
def loop {σ α : Type} (step : σ → Scan (σ ⊕ α)) (s : σ) : Scan α := fun text i =>
  match step s text i with
  | .ok (.inr a) j => .ok a j
  | .ok (.inl s') j =>
    if i < j ∧ j ≤ text.size then loop step s' text j
    else .error ⟨.expectedValue, some j⟩ j
  | .error failure j => .error failure j
termination_by text i => text.size - i

/-- Runs a scan over a whole text. -/
def runOn (scan : Scan α) (text : ByteArray) : Except Failure α :=
  match scan text 0 with
  | .ok a _ => .ok a
  | .error failure _ => .error failure

end Scan

/-- Line and column of a position. -/
structure Place where
  line : Nat
  column : Nat

/-- The bytes before a position are counted: lines by their line feeds, and the column from the last
line feed on. -/
def Place.of (text : ByteArray) (position : Nat) : Place :=
  let before := (text.extract 0 position).toList
  { line := before.count 0x0A + 1
    column := (before.reverse.takeWhile (· != 0x0A)).length }

end ApiAnnotator.Json
