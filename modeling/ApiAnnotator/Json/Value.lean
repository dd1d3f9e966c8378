import ApiAnnotator.Json.Number
import ApiAnnotator.Json.StringLiteral

/-!
# Values in text

Scans for scalars, lists and objects, and on top of them the scan for a value of any kind. Lists and
objects are scanned by what is to be done with each item or member, so that readers of particular
objects use them as well.

A list or object is closed even if the reading of its items was refused; the problem then gets the
position behind the closing bracket.

## Main definitions

* `foldItems`, `foldMembers` — a state carried through the items of a list, or the members of an
  object.
* `enclosed` — what stands between an opening and a closing bracket.
* `scalar` — a scalar, and of a list or object the opening bracket alone.
* `skipValue` — passes over a value, however deep it is nested.
* `Json.ofText` — the value of a whole text.
-/

namespace ApiAnnotator.Json

namespace Scan

/-- Whether another item follows in a list; takes the comma before it. -/
def hasItem (isFirst : Bool) : Scan Bool := do
  let byte ← peekToken .endInList
  if byte == 0x5D then return false
  else if isFirst then return true
  else if byte == 0x2C then
    skip 1
    if (← peekToken .endInValue) == 0x5D then failAhead .trailingComma
    return true
  else failAhead .expectedListEnd

/-- Whether another member follows in an object; takes the comma before it. -/
def hasMember (isFirst : Bool) : Scan Bool := do
  let byte ← peekToken .endInObject
  if byte == 0x7D then return false
  else if isFirst then
    if byte == 0x22 then return true else failAhead .keyNotString
  else if byte == 0x2C then
    skip 1
    let start ← peekToken .endInValue
    if start == 0x22 then return true
    else failAhead (if start == 0x7D then .trailingComma else .keyNotString)
  else failAhead .expectedObjectEnd

/-- Takes the colon between a key and its value. -/
def colon : Scan Unit := do
  if (← peekToken .endInObject) == 0x3A then skip 1 else failAhead .expectedColon

/-- Takes the bracket at the end of a list. -/
def closeList : Scan Unit := do
  let byte ← peekToken .endInList
  if byte == 0x5D then skip 1
  else if byte == 0x2C then
    skip 1
    failAhead (if (← peekToken?) == some 0x5D then .trailingComma else .trailingCharacters)
  else failAhead .trailingCharacters

/-- Takes the bracket at the end of an object. -/
def closeObject : Scan Unit := do
  let byte ← peekToken .endInObject
  if byte == 0x7D then skip 1
  else failAhead (if byte == 0x2C then .trailingComma else .trailingCharacters)

/-- What stands between an opening bracket, which comes next, and its closing bracket. If the inside
is refused, the closing bracket is still taken when it is there. -/
def enclosed (inside : Scan α) (close : Scan Unit) : Scan α := do
  skip 1
  let a ← tryCatch inside fun failure => do
    tryCatch close fun _ => pure ()
    throw failure
  close
  return a

/-- Carries a state through the items of a list. -/
def foldItems (item : σ → Scan σ) (s : σ) : Scan σ :=
  loop (fun (isFirst, s) => do
    if ← hasItem isFirst then return .inl (false, ← item s) else return .inr s) (true, s)

/-- Carries a state through the members of an object; each key is taken already, and the colon and
the value are left. -/
def foldMembers (member : String → σ → Scan σ) (s : σ) : Scan σ :=
  loop (fun (isFirst, s) => do
    if ← hasMember isFirst then
      skip 1
      return .inl (false, ← member (← stringRest) s)
    else return .inr s) (true, s)

/-- The bytes of an ASCII word. -/
def bytes (word : String) : List UInt8 :=
  word.toUTF8.toList

/-- The scalar that starts with the byte that comes next, if a scalar can start with it. -/
def scalarAt? (byte : UInt8) : Option (Scan Json) :=
  if byte == 0x6E then some do skip 1; expectRest (bytes "ull"); return .null
  else if byte == 0x74 then some do skip 1; expectRest (bytes "rue"); return .bool true
  else if byte == 0x66 then some do skip 1; expectRest (bytes "alse"); return .bool false
  else if byte == 0x2D then some do skip 1; number true
  else if isDigit byte then some (number false)
  else if byte == 0x22 then some do skip 1; return .str (← stringRest)
  else none

/-- A scalar. A list or object is not entered: the scan stops in front of it and gives an empty one
to tell its kind. -/
def scalar : Scan Json := do
  let byte ← peekToken .endInValue
  if byte == 0x5B then return .arr []
  else if byte == 0x7B then return .obj []
  else match scalarAt? byte with
    | some scan => scan
    | none => failAhead .expectedValue

/-- A value with at most `depth` lists and objects around each other. -/
def valueWithin : Nat → Scan Json
  | 0 => do
    match ← scalar with
    | .arr _ | .obj _ => failAhead .tooDeep
    | v => return v
  | depth + 1 => do
    match ← scalar with
    | .arr _ =>
      let items ← enclosed
        (foldItems (fun (items : Array Json) => do return items.push (← valueWithin depth)) #[])
        closeList
      return .arr items.toList
    | .obj _ =>
      let members ← enclosed
        (foldMembers (fun key members => do
          colon
          return setMember key (← valueWithin depth) members) [])
        closeObject
      return .obj members
    | v => return v

/-- An opened list or object whose end is still to come. -/
inductive Opened where
  | list
  | object
  deriving DecidableEq

/-- What is expected next while a value is passed over. -/
inductive Expecting where
  /-- A value. -/
  | value
  /-- The key of a member. -/
  | key
  /-- The first item or key after an opening bracket, or the closing one. -/
  | firstOrEnd
  /-- A comma or the closing bracket after a value. -/
  | commaOrEnd

/-- Passes over a scalar, or over the opening bracket of a list or object, which is then given. -/
def skipStart : Scan (Option Opened) := do
  let byte ← peekToken .endInValue
  if byte == 0x5B then
    skip 1
    return some .list
  else if byte == 0x7B then
    skip 1
    return some .object
  else if byte == 0x2D then
    skip 1
    skipNumber
    return none
  else if isDigit byte then
    skipNumber
    return none
  else if byte == 0x22 then
    skip 1
    skipString
    return none
  else match scalarAt? byte with
    | some scan =>
      discard scan
      return none
    | none => failAhead .expectedValue

/-- Passes over the key of a member and the colon after it. -/
def skipKey : Scan Unit := do
  if (← peekToken .endInObject) == 0x22 then
    skip 1
    skipString
    colon
  else failAhead .keyNotString

/-- What stands at the start of each item of a list or object. -/
def Opened.itemStart : Opened → Expecting
  | .list => .value
  | .object => .key

/-- Whether a byte closes a list or object. -/
def Opened.closedBy (opened : Opened) (byte : UInt8) : Bool :=
  match opened with
  | .list => byte == 0x5D
  | .object => byte == 0x7D

/-- The problem of a text that ends inside a list or object. -/
def Opened.endProblem : Opened → Problem
  | .list => .endInList
  | .object => .endInObject

/-- The problem of a value that is followed by neither a comma nor the closing bracket. -/
def Opened.commaProblem : Opened → Problem
  | .list => .expectedListEnd
  | .object => .expectedObjectEnd

/-- What is left to do after a value inside the given lists and objects, innermost first. -/
def afterValue : List Opened → (Expecting × List Opened) ⊕ Unit
  | [] => .inr ()
  | around => .inl (.commaOrEnd, around)

/-- One step over a value: past a scalar, a key with its colon, a comma or a bracket. -/
def skipStep : Expecting × List Opened → Scan ((Expecting × List Opened) ⊕ Unit)
  | (.firstOrEnd, opened :: around) => do
    if opened.closedBy (← peekToken opened.endProblem) then
      skip 1
      return afterValue around
    else skipItem opened around
  | (.commaOrEnd, opened :: around) => do
    let byte ← peekToken opened.endProblem
    if byte == 0x2C then
      skip 1
      return .inl (opened.itemStart, opened :: around)
    else if opened.closedBy byte then
      skip 1
      return afterValue around
    else failAhead opened.commaProblem
  | (.key, around) => do
    skipKey
    return .inl (.value, around)
  | (_, around) => skipOne around
where
  /-- A scalar or an opening bracket. -/
  skipOne (around : List Opened) : Scan ((Expecting × List Opened) ⊕ Unit) := do
    match ← skipStart with
    | some opened => return .inl (.firstOrEnd, opened :: around)
    | none => return afterValue around
  /-- The start of the first item of a list or object. -/
  skipItem (opened : Opened) (around : List Opened) : Scan ((Expecting × List Opened) ⊕ Unit) := do
    match opened with
    | .list => skipOne (opened :: around)
    | .object =>
      skipKey
      return .inl (.value, opened :: around)

/-- Passes over a value. The open lists and objects are kept in a list, so there is no limit to how
deep they are nested. -/
def skipValue : Scan Unit :=
  loop skipStep (.value, [])

/-- A scan followed by nothing but white space. -/
def whole (scan : Scan α) : Scan α := do
  let a ← scan
  if (← peekToken?).isSome then failAhead .trailingCharacters
  return a

end Scan

/-- The deepest nesting of lists and objects in a value that is read from text. -/
def deepestNesting : Nat := 127

/-- The value of a whole text. -/
def ofText (text : ByteArray) : Except Failure Json :=
  (Scan.whole (Scan.valueWithin deepestNesting)).runOn text

end ApiAnnotator.Json
