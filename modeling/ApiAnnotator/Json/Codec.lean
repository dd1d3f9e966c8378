import ApiAnnotator.Json.Printer
import ApiAnnotator.Json.Value
import ApiAnnotator.Text.Quoted

/-!
# Codecs

A codec ties a type to its JSON form. It reads a value from a JSON value, scans one from text, and
writes one. Scanning is not reading after parsing: it meets problems in the order of the text, so a
misfit early in a text is reported although the text is broken further on.

A record is written as an object with all its keys. It is read from an object, where unknown keys
are passed over and a missing key leaves the value that the blank record has, or from a list of its
fields, which may stop early.

## Main definitions

* `Codec` — reader, scanner and writer of a type.
* `text`, `flag`, `int32`, `optional`, `list`, `variant` — the codecs of plain values.
* `refine` — a codec whose values are texts in a format of their own.
* `record` — the codec of a record, put together from a `Slot` for each field.
-/

namespace ApiAnnotator.Json

/-- What a message about a misfit calls a value. -/
def describe : Json → String
  | .null => "null"
  | .bool b => "boolean `" ++ (if b then "true" else "false") ++ "`"
  | .int n => "integer `" ++ toString n ++ "`"
  | .float x => "floating point `" ++ floatText x ++ "`"
  | .str s => "string " ++ Text.quoted s
  | .arr _ => "sequence"
  | .obj _ => "map"

/-- How the values of a type are read from JSON, scanned from text and written as JSON. -/
structure Codec (α : Type) where
  read : Json → Except Misfit α
  scan : Scan α
  write : α → Json

namespace Codec

/-- Refuses a value of the wrong kind. -/
def wrongType (expected : String) (found : Json) : Except Misfit α :=
  .error (.wrongType found.describe expected)

/-- Refuses the value that comes next in a text because it is of the wrong kind. -/
def scanWrongType (expected : String) : Scan α := do
  Scan.reject (.wrongType (← Scan.scalar).describe expected)

/-- The result of a reader as the result of a scan. -/
def scanResult : Except Misfit α → Scan α
  | .ok a => pure a
  | .error misfit => Scan.reject misfit

/-- The codec of a type whose values are written as scalars. -/
def ofScalar (read : Json → Except Misfit α) (write : α → Json) : Codec α where
  read
  scan := Scan.located do scanResult (read (← Scan.scalar))
  write

/-- The codec of texts. -/
def text : Codec String :=
  ofScalar (fun
    | .str s => .ok s
    | v => wrongType "a string" v) .str

/-- The codec of truth values. -/
def flag : Codec Bool :=
  ofScalar (fun
    | .bool b => .ok b
    | v => wrongType "a boolean" v) .bool

/-- The codec of integers of 32 bits. -/
def int32 : Codec Int32 :=
  ofScalar (fun
    | .int n =>
      if Int32.minValue.toInt ≤ n ∧ n ≤ Int32.maxValue.toInt then .ok (Int32.ofInt n)
      else .error (.outOfRange (Json.int n).describe "i32")
    | v => wrongType "i32" v) fun n => .int n.toInt

/-- The codec of values that may be absent, which is written `null`. -/
def optional (c : Codec α) : Codec (Option α) where
  read
    | .null => .ok none
    | v => some <$> c.read v
  scan := do
    if (← Scan.peekToken?) == some 0x6E then
      discard Scan.scalar
      return none
    else some <$> c.scan
  write := ofOption c.write

/-- The codec of texts that may be absent. -/
def optionalText : Codec (Option String) :=
  optional text

/-- The codec of lists. -/
def list (c : Codec α) : Codec (List α) where
  read
    | .arr items => items.mapM c.read
    | v => wrongType "a sequence" v
  scan := Scan.located do
    if (← Scan.peekToken .endInValue) == 0x5B then
      let items ← Scan.enclosed
        (Scan.foldItems (fun (items : Array α) => do return items.push (← c.scan)) #[])
        Scan.closeList
      return items.toList
    else scanWrongType "a sequence"
  write items := .arr (items.map c.write)

/-- A codec for a type whose values are given as values of another type, some of which are refused
with a reason. -/
def refine (c : Codec β) (parse : β → Except String α) (print : α → β) : Codec α where
  read v := do ((parse (← c.read v)).mapError .refused)
  scan := do scanResult ((parse (← c.scan)).mapError .refused)
  write a := c.write (print a)

/-- The variant of a name. -/
def variantNamed (variants : List (String × α)) (name : String) : Except Misfit α :=
  match variants.lookup name with
  | some a => .ok a
  | none => .error (.unknownVariant name (variants.map Prod.fst))

/-- The codec of a type of finitely many variants. Each is written as its name; it is also read from
an object whose only key is the name and whose value is `null`. -/
def variant (variants : List (String × α)) (name : α → String) : Codec α where
  read
    | .str s => variantNamed variants s
    | .obj [(key, value)] => do
      let a ← variantNamed variants key
      match value with
      | .null => return a
      | v => wrongType "unit" v
    | .obj _ => .error (.outOfRange "map" "map with a single key")
    | v => wrongType "string or map" v
  scan := do
    let byte ← Scan.peekToken .endInValue
    if byte == 0x7B then
      Scan.skip 1
      let byte ← Scan.peekToken .endInValue
      if byte == 0x7D then Scan.failAhead .expectedValue
      if byte != 0x22 then Scan.failAhead .keyNotString
      let a ← scanName
      Scan.colon
      Scan.located do
        match ← Scan.scalar with
        | .null => pure ()
        | v => Scan.reject (.wrongType v.describe "unit")
      match ← Scan.peekToken? with
      | some byte => if byte == 0x7D then Scan.skip 1 else Scan.failHere .expectedValue
      | none => Scan.failHere .endInObject
      return a
    else if byte == 0x22 then scanName
    else Scan.failAhead .expectedValue
  write a := .str (name a)
where
  /-- The name of a variant in a text, where the quotation mark comes next. -/
  scanName : Scan α := Scan.located do
    Scan.skip 1
    scanResult (variantNamed variants (← Scan.stringRest))

end Codec

/-- A field of a record of type `σ`: the key and how the field is read, scanned and written. -/
structure Slot (σ : Type) where
  key : String
  required : Bool
  read : Json → σ → Except Misfit σ
  scan : σ → Scan σ
  write : σ → Json

/-- The slot of a field that a record may leave out. -/
def slot (key : String) (c : Codec α) (get : σ → α) (set : α → σ → σ) : Slot σ where
  key
  required := false
  read v s := do return set (← c.read v) s
  scan s := do return set (← c.scan) s
  write s := c.write (get s)

/-- The slot of a field that a record must have. -/
def requiredSlot (key : String) (c : Codec α) (get : σ → α) (set : α → σ → σ) : Slot σ :=
  { slot key c get set with required := true }

namespace Slot

/-- Reads the known members of an object in their order. -/
def readMembers (slots : List (Slot σ)) (members : List (String × Json)) (s : σ) :
    Except Misfit σ :=
  members.foldlM (fun s (key, v) =>
    match slots.find? (·.key == key) with
    | some slot => slot.read v s
    | none => .ok s) s

/-- The misfit of a record whose required keys are not all among the given ones. -/
def missing? (slots : List (Slot σ)) (keys : List String) : Option Misfit :=
  (slots.find? fun slot => slot.required && slot.key ∉ keys).map fun slot => .missingKey slot.key

/-- The misfit of a list that ends before a required field. -/
def tooShort (name : String) (fields count : Nat) : Misfit :=
  .wrongLength count s!"struct {name} with {fields} elements"

/-- Reads the items of a list into the slots in order. -/
def readItems (shortfall overflow : Misfit) : List (Slot σ) → List Json → σ → Except Misfit σ
  | [], [], s => .ok s
  | [], _ :: _, _ => .error overflow
  | slots, [], s => if slots.any (·.required) then .error shortfall else .ok s
  | slot :: slots, v :: items, s => do
    readItems shortfall overflow slots items (← slot.read v s)

/-- Scans the members of an object. -/
def scanMembers (slots : List (Slot σ)) (blank : σ) : Scan σ := do
  let (s, keys) ← Scan.foldMembers (fun key (s, keys) =>
    match slots.find? (·.key == key) with
    | some slot => do
      if key ∈ keys then Scan.reject (.repeatedKey key)
      Scan.colon
      return (← slot.scan s, key :: keys)
    | none => do
      Scan.colon
      Scan.skipValue
      return (s, keys)) (blank, ([] : List String))
  match missing? slots keys with
  | some misfit => Scan.reject misfit
  | none => return s

/-- Scans the items of a list into the slots in order, where `count` items precede. -/
def scanItems (shortfall : Nat → Misfit) (count : Nat) : List (Slot σ) → σ → Scan σ
  | [], s => pure s
  | slot :: slots, s => do
    if ← Scan.hasItem (count == 0) then
      scanItems shortfall (count + 1) slots (← slot.scan s)
    else if (slot :: slots).any (·.required) then Scan.reject (shortfall count)
    else return s

end Slot

/-- The codec of a record, built up from a blank one. -/
def Codec.record (name : String) (blank : σ) (slots : List (Slot σ)) : Codec σ where
  read
    | .obj members => do
      let s ← Slot.readMembers slots members blank
      match Slot.missing? slots (members.map Prod.fst) with
      | some misfit => .error misfit
      | none => .ok s
    | .arr items =>
      Slot.readItems (Slot.tooShort name slots.length items.length)
        (.wrongLength items.length "fewer elements in array") slots items blank
    | v => wrongType s!"struct {name}" v
  scan := Scan.located do
    let byte ← Scan.peekToken .endInValue
    if byte == 0x7B then Scan.enclosed (Slot.scanMembers slots blank) Scan.closeObject
    else if byte == 0x5B then
      Scan.enclosed (Slot.scanItems (Slot.tooShort name slots.length) 0 slots blank) Scan.closeList
    else scanWrongType s!"struct {name}"
  write s := .obj (slots.map fun slot => (slot.key, slot.write s))

/-- The value that a whole text stands for. -/
def Codec.ofText (c : Codec α) (text : ByteArray) : Except Failure α :=
  (Scan.whole c.scan).runOn text

end ApiAnnotator.Json
