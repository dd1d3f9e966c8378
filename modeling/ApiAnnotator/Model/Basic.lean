import ApiAnnotator.PathTemplate.Basic

/-!
# The API model

An API consists of messages, enums and services. They refer to each other by ID. Nesting of types is
expressed by the ID of the parent, so messages and enums stand in flat lists, in the order of their
declaration, and those of other packages stand among them.

Nothing ties the references to what is declared: IDs may be unknown or declared more than once, and
parents may form a cycle.
-/

namespace ApiAnnotator

/-- The kind of value that a field holds. -/
inductive FieldKind where
  | double
  | float
  | int64
  | uint64
  | int32
  | fixed64
  | fixed32
  | bool
  | string
  | bytes
  | uint32
  | sfixed32
  | sfixed64
  | sint32
  | sint64
  | message
  | enum
  deriving DecidableEq

/-- A field of a message. -/
structure Field where
  id : String := ""
  name : String := ""
  kind : FieldKind := .string
  /-- The ID of the message or enum that the field holds. -/
  typeId : Option String := none
  repeated : Bool := false
  /-- Whether the field tells absence from the default value. -/
  optional : Bool := false
  /-- Whether the field is a map, whose entries are messages of their own. -/
  map : Bool := false
  deprecated : Bool := false
  resourceReference : Bool := false
  /-- The ID of the oneof that the field belongs to. -/
  oneof : Option String := none
  documentation : String := ""
  deriving DecidableEq

/-- A group of fields of which at most one is set. -/
structure OneOf where
  id : String := ""
  name : String := ""
  documentation : String := ""
  deriving DecidableEq

/-- A message type. -/
structure Message where
  id : String := ""
  name : String := ""
  package : String := ""
  parent : Option String := none
  documentation : String := ""
  deprecated : Bool := false
  fields : List Field := []
  oneofs : List OneOf := []
  /-- Whether the message only describes the entries of a map field. -/
  isMapEntry : Bool := false
  deriving DecidableEq

/-- A value of an enum. -/
structure EnumValue where
  id : String := ""
  name : String := ""
  number : Int32 := 0
  deprecated : Bool := false
  documentation : String := ""
  deriving DecidableEq

/-- An enum type. -/
structure Enum where
  id : String := ""
  name : String := ""
  package : String := ""
  parent : Option String := none
  documentation : String := ""
  deprecated : Bool := false
  values : List EnumValue := []
  deriving DecidableEq

/-- One way to call a method over HTTP. -/
structure Binding where
  verb : String
  template : PathTemplate
  deriving DecidableEq

/-- The ways to call a method over HTTP, and where the request goes into the body: `*` for the whole
request, or the name of a field. -/
structure HttpRule where
  bindings : List Binding := []
  body : Option String := none
  deriving DecidableEq

/-- A method of a service. -/
structure Method where
  id : String := ""
  name : String := ""
  documentation : String := ""
  inputTypeId : String := ""
  outputTypeId : String := ""
  clientSideStreaming : Bool := false
  serverSideStreaming : Bool := false
  deprecated : Bool := false
  http : Option HttpRule := none
  deriving DecidableEq

/-- A service. -/
structure Service where
  id : String := ""
  name : String := ""
  package : String := ""
  documentation : String := ""
  defaultHost : String := ""
  deprecated : Bool := false
  methods : List Method := []
  deriving DecidableEq

/-- An API with all the types that it mentions. -/
structure Api where
  name : String := ""
  packageName : String := ""
  title : String := ""
  description : Option String := none
  messages : List Message := []
  enums : List Enum := []
  services : List Service := []
  deriving DecidableEq

namespace FieldKind

/-- The kinds with their names. -/
def named : List (String × FieldKind) :=
  [("double", double), ("float", float), ("int64", int64), ("uint64", uint64), ("int32", int32),
    ("fixed64", fixed64), ("fixed32", fixed32), ("bool", bool), ("string", string),
    ("bytes", bytes), ("uint32", uint32), ("sfixed32", sfixed32), ("sfixed64", sfixed64),
    ("sint32", sint32), ("sint64", sint64), ("message", message), ("enum", enum)]

/-- The name of a kind. -/
def name : FieldKind → String
  | double => "double"
  | float => "float"
  | int64 => "int64"
  | uint64 => "uint64"
  | int32 => "int32"
  | fixed64 => "fixed64"
  | fixed32 => "fixed32"
  | bool => "bool"
  | string => "string"
  | bytes => "bytes"
  | uint32 => "uint32"
  | sfixed32 => "sfixed32"
  | sfixed64 => "sfixed64"
  | sint32 => "sint32"
  | sint64 => "sint64"
  | message => "message"
  | enum => "enum"

/-- **Every kind is found under its name.** -/
theorem lookup_name (kind : FieldKind) : named.lookup kind.name = some kind := by
  cases kind <;> decide

/-- Whether values of this kind are texts or bytes. -/
def isStringLike (kind : FieldKind) : Bool :=
  kind = string || kind = bytes

/-- Whether a field of this kind refers to a type by ID. -/
def isNamed (kind : FieldKind) : Bool :=
  kind = message || kind = enum

end FieldKind

namespace Field

/-- Whether the field holds one message, present or not. -/
def isSingularMessage (f : Field) : Bool :=
  f.kind = .message && !f.repeated && !f.map

/-- Whether the field holds one text. -/
def isSingularString (f : Field) : Bool :=
  f.kind = .string && !f.repeated && !f.map

/-- The ID of the type that the field refers to; without one it is the empty ID. -/
def typeRef (f : Field) : String :=
  f.typeId.getD ""

end Field

namespace Message

/-- The first field of the given name. -/
def field? (m : Message) (name : String) : Option Field :=
  m.fields.find? (·.name = name)

/-- The fields that belong to a oneof. -/
def members (m : Message) (o : OneOf) : List Field :=
  m.fields.filter (·.oneof = some o.id)

end Message

namespace Method

/-- Whether requests or responses of the method are streams. -/
def isStreaming (m : Method) : Bool :=
  m.clientSideStreaming || m.serverSideStreaming

/-- The bindings of the method, if any. -/
def bindings (m : Method) : List Binding :=
  (m.http.map (·.bindings)).getD []

/-- The body of the method, if any. -/
def body (m : Method) : Option String :=
  m.http.bind (·.body)

end Method

end ApiAnnotator
