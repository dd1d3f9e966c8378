import ApiAnnotator.Json.Scan

/-!
# Number literals

A number is read from its decimal digits. As long as the digits fit into 64 bits and there is
neither a point nor an exponent it is an integer. Otherwise it is a floating-point number: the
digits that fit make an integer, and the place of the last one is a power of ten by which that
integer is multiplied or divided. Digits that no longer fit only count for the place.

A number is either read, by `number`, or passed over, by `skipNumber`, which checks the form alone.
-/

namespace ApiAnnotator.Json

/-- The least number that does not fit into 64 bits. -/
def wordLimit : Nat := Nat.pow 2 64

/-- Appends decimal digits to a number as long as the result fits into 64 bits, and gives the digits
left over. -/
def absorb (n : Nat) : List Nat → Nat × List Nat
  | [] => (n, [])
  | d :: digits => if 10 * n + d < wordLimit then absorb (10 * n + d) digits else (n, d :: digits)

/-- The floating-point number next to ten to the given power. -/
def powerOfTen (exponent : Nat) : Float :=
  Float.ofScientific 1 false exponent

/-- A number divided by a power of ten, in steps that a floating-point number can hold. -/
def scaleDown (x : Float) (exponent : Nat) : Float :=
  if exponent ≤ 308 then x / powerOfTen exponent
  else if x == 0 then x
  else scaleDown (x / powerOfTen 308) (exponent - 308)
termination_by exponent

/-- A number multiplied by a power of ten, unless the result is too great. -/
def scaleUp? (x : Float) (exponent : Nat) : Option Float :=
  if exponent ≤ 308 then
    let y := x * powerOfTen exponent
    if y.isInf then none else some y
  else if x == 0 then some x
  else none

/-- The floating-point number `significand · 10 ^ exponent`, unless it is too great. -/
def floatOf? (significand : Nat) (exponent : Int) : Option Float :=
  let x := significand.toUInt64.toFloat
  if 0 ≤ exponent then scaleUp? x exponent.toNat else some (scaleDown x (-exponent).toNat)

/-- A whole number with its sign. Zero has a sign only as a floating-point number, and a negative
number that does not fit into 64 bits becomes one. -/
def signed (negative : Bool) (n : Nat) : Json :=
  if negative then
    if n = 0 ∨ Nat.pow 2 63 < n then .float (-n.toUInt64.toFloat) else .int (-n)
  else .int n

namespace Scan

/-- Whether a byte is a decimal digit. -/
def isDigit (byte : UInt8) : Bool :=
  0x30 ≤ byte && byte ≤ 0x39

/-- The values of the digits that come next. -/
def digits : Scan (List Nat) := do
  return (← takeWhile isDigit).toList.map fun byte => byte.toNat - 0x30

/-- The digits before the point: a single zero, or digits that start with another one. -/
def wholeDigits : Scan (List Nat) := do
  match ← next? with
  | none => failHere .endInValue
  | some byte =>
    if byte == 0x30 then
      match ← peek? with
      | some after => if isDigit after then failAhead .badNumber else return [0]
      | none => return [0]
    else if isDigit byte then return (byte.toNat - 0x30) :: (← digits)
    else failHere .badNumber

/-- The digits after a point, at least one, if there is a point. -/
def fractionDigits? : Scan (Option (List Nat)) := do
  if (← peek?) == some 0x2E then
    skip 1
    let fraction ← digits
    if fraction.isEmpty then
      failAhead (if (← peek?).isSome then .badNumber else .endInValue)
    return some fraction
  else return none

/-- Whether an exponent comes next. -/
def atExponent : Scan Bool := do
  let byte ← peek?
  return byte == some 0x65 || byte == some 0x45

/-- The sign and the first digit of an exponent whose letter comes next. -/
def exponentStart (badDigit : Problem) (atEnd : Problem) : Scan (Bool × Nat) := do
  skip 1
  let sign ← peek?
  if sign == some 0x2B || sign == some 0x2D then skip 1
  match ← next? with
  | none => failHere atEnd
  | some byte =>
    if isDigit byte then return (sign == some 0x2D, byte.toNat - 0x30) else failHere badDigit

/-- The digits of an exponent after the first. An exponent beyond 31 bits makes the number zero if
it is negative or the number is zero anyway, and too great otherwise. -/
def exponentRest (tooGreat : Bool) (exponent : Nat) : Scan Nat :=
  loop (fun (exponent : Nat) => do
    match ← peek? with
    | some byte =>
      if isDigit byte then
        skip 1
        let exponent := 10 * exponent + (byte.toNat - 0x30)
        if tooGreat && Nat.pow 2 31 ≤ exponent then failHere .numberOutOfRange
        return .inl exponent
      else return .inr exponent
    | none => return .inr exponent) exponent

/-- The floating-point number with the given sign, digits and place, after its exponent if one comes
next. -/
def floatRest (negative : Bool) (significand : Nat) (place : Int) : Scan Json := do
  let mut exponent := place
  if ← atExponent then
    let (down, first) ← exponentStart .badNumber .endInValue
    let size ← exponentRest (!down && significand != 0) first
    exponent := if down then place - size else place + size
  match floatOf? significand exponent with
  | some x => return .float (if negative then -x else x)
  | none => failHere .numberOutOfRange

/-- A number whose sign is taken already. -/
def number (negative : Bool) : Scan Json := do
  let (significand, leftOver) := absorb 0 (← wholeDigits)
  match ← fractionDigits? with
  | some fraction =>
    let (longer, unused) := absorb significand fraction
    floatRest negative longer (leftOver.length - (fraction.length - unused.length : Nat))
  | none =>
    if leftOver.isEmpty && !(← atExponent) then return signed negative significand
    else floatRest negative significand leftOver.length

/-- Passes over a number whose sign is taken already. -/
def skipNumber : Scan Unit := do
  match ← next? with
  | none => failHere .badNumber
  | some byte =>
    if byte == 0x30 then
      if (← peek?).any isDigit then failAhead .badNumber
    else if isDigit byte then discard digits
    else failHere .badNumber
  if (← peek?) == some 0x2E then
    skip 1
    if (← digits).isEmpty then failAhead .badNumber
  if ← atExponent then
    discard (exponentStart .badNumber .badNumber)
    discard digits

end Scan

end ApiAnnotator.Json
