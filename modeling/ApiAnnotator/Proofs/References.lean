import ApiAnnotator.Proofs.Completion
import ApiAnnotator.Proofs.Pass
import ApiAnnotator.Proofs.Paths
import ApiAnnotator.Text.Spellings

/-!
# References and what they refer to

The name of a type is made wherever a field or a method refers to it, and once more for the entry of
the type itself: at different times, by the types' own annotations where these exist already, and
from the model where they do not. All of these names agree, because a name depends on nothing but
the declaration that an ID refers to. Where there is none, the unit type stands in, and a warning
says so.

Tables hold one entry for an ID. If fields or methods share an ID, each of them is annotated, but
only the annotation of the last one is kept.

## Main definitions

* `Api.IsEntry`, `Api.KeepsEntriesInMaps` — map entries, which are no types of their own.
* `Annotated.Resolves` — a name is that of the type that an ID refers to.

## Main statements

* `yields_typeOf_of_callType` — types that are annotated already give no other names.
* `resolves_of_yields_typeOf` — names agree with the tables.
* `references_resolve` — **every reference resolves or is reported**.
-/

namespace ApiAnnotator

/-! ## Steps -/

namespace Lexicon

variable [Speller] {lx : Lexicon} {id referrer name : String} {ws : List Warning}

/-- The names of an ID are those of the message that it refers to, or else of the enum. -/
theorem of_ofId_eq_ok_some {names : QualifiedName} (h : lx.ofId id = .ok (some names)) :
    (∃ m, lx.api.message? id = some m ∧ lx.ofMessage m = .ok names) ∨
      lx.api.message? id = none ∧ ∃ e, lx.api.enum? id = some e ∧ lx.ofEnum e = .ok names := by
  unfold ofId at h
  cases hm : lx.api.message? id with
  | some m =>
      rw [hm] at h
      obtain ⟨names', hnames, hsome⟩ := except_bind_eq_ok_iff.1 h
      obtain rfl := Option.some_inj.1 (Except.ok.inj hsome)
      exact .inl ⟨m, rfl, hnames⟩
  | none =>
      cases he : lx.api.enum? id with
      | none => simp [hm, he] at h
      | some e =>
          rw [hm, he] at h
          obtain ⟨names', hnames, hsome⟩ := except_bind_eq_ok_iff.1 h
          obtain rfl := Option.some_inj.1 (Except.ok.inj hsome)
          exact .inr ⟨rfl, e, rfl, hnames⟩

theorem of_ofId_eq_ok_none (h : lx.ofId id = .ok none) :
    lx.api.message? id = none ∧ lx.api.enum? id = none := by
  unfold ofId at h
  cases hm : lx.api.message? id with
  | some m =>
      rw [hm] at h
      obtain ⟨names, -, hsome⟩ := except_bind_eq_ok_iff.1 h
      simp at hsome
  | none =>
      cases he : lx.api.enum? id with
      | none => exact ⟨rfl, rfl⟩
      | some e =>
          rw [hm, he] at h
          obtain ⟨names, -, hsome⟩ := except_bind_eq_ok_iff.1 h
          simp at hsome

/-- The name of an ID is the qualified one, or the unit type with a warning. -/
theorem yields_typeOf_iff :
    Yields (lx.typeOf id referrer) name ws ↔
      (∃ names, lx.ofId id = .ok (some names) ∧ names.qualified = name ∧ ws = []) ∨
        lx.ofId id = .ok none ∧ unitType = name ∧ ws = [.missingType id referrer] := by
  constructor
  · intro h
    obtain ⟨names?, ws₁, ws₂, hnames, hrest, rfl⟩ := yields_bind_iff.1 h
    obtain ⟨hofId, rfl⟩ := yields_except_iff.1 hnames
    cases names? with
    | some names =>
        obtain ⟨hname, rfl⟩ := yields_pure_iff.1 hrest
        exact .inl ⟨names, hofId, hname, rfl⟩
    | none =>
        obtain ⟨_, ws₃, ws₄, hwarn, hunit, rfl⟩ := yields_bind_iff.1 hrest
        obtain ⟨-, rfl⟩ := yields_noted_iff.1 hwarn
        obtain ⟨hname, rfl⟩ := yields_pure_iff.1 hunit
        exact .inr ⟨hofId, hname, rfl⟩
  · intro h
    refine yields_bind_iff.2 ?_
    rcases h with ⟨names, hofId, rfl, rfl⟩ | ⟨hofId, rfl, rfl⟩
    · exact ⟨some names, [], [], yields_except_iff.2 ⟨hofId, rfl⟩,
        yields_pure_iff.2 ⟨rfl, rfl⟩, rfl⟩
    · refine ⟨none, [], _, yields_except_iff.2 ⟨hofId, rfl⟩, yields_bind_iff.2 ?_, rfl⟩
      exact ⟨(), _, [], yields_noted_iff.2 ⟨rfl, rfl⟩, yields_pure_iff.2 ⟨rfl, rfl⟩, rfl⟩

theorem of_yields_annotateField {container : Message} {containerName : String} {f : Field}
    {a : AnnotatedField} (h : Yields (lx.annotateField container containerName f) a ws) :
    ∃ type, Yields (lx.fieldType (lx.api.needsBox container.id f) f) type ws ∧
      a.fieldType = type.full ∧ a.elementType = type.element := by
  obtain ⟨type, ws₁, ws₂, htype, hentry, rfl⟩ := yields_bind_iff.1 h
  obtain ⟨rfl, rfl⟩ := yields_pure_iff.1 hentry
  exact ⟨type, by simpa using htype, rfl, rfl⟩

theorem of_yields_fieldType {boxed : Bool} {f : Field} {type : ResolvedType}
    (hmap : f.map = false) (h : Yields (lx.fieldType boxed f) type ws) :
    Yields (lx.elementType f f.id) type.element ws := by
  rw [fieldType, hmap, if_neg Bool.false_ne_true] at h
  obtain ⟨element, ws₁, ws₂, helement, htype, rfl⟩ := yields_bind_iff.1 h
  obtain ⟨rfl, rfl⟩ := yields_pure_iff.1 htype
  simpa using helement

/-- The type of a map field is made of those of the two fields of its entries. -/
theorem of_yields_fieldType_map {boxed : Bool} {f key value : Field} {type : ResolvedType}
    (hmap : f.map = true) (hkey : lx.api.mapKey? f.typeRef = some key)
    (hvalue : lx.api.mapValue? f.typeRef = some value)
    (h : Yields (lx.fieldType boxed f) type ws) :
    ∃ keyType valueType, type.full = mapOf keyType valueType ∧
      (∃ ws' ⊆ ws, Yields (lx.elementType key f.id) keyType ws') ∧
      ∃ ws' ⊆ ws, Yields (lx.elementType value f.id) valueType ws' := by
  rw [fieldType, if_pos hmap, mapType, hkey, hvalue] at h
  obtain ⟨full, ws₁, ws₂, hfull, htype, rfl⟩ := yields_bind_iff.1 h
  obtain ⟨rfl, rfl⟩ := yields_pure_iff.1 htype
  obtain ⟨keyType, vs₁, vs₂, hkeyType, hrest, rfl⟩ := yields_bind_iff.1 hfull
  obtain ⟨valueType, vs₃, vs₄, hvalueType, hboth, rfl⟩ := yields_bind_iff.1 hrest
  obtain ⟨rfl, rfl⟩ := yields_pure_iff.1 hboth
  exact ⟨keyType, valueType, rfl, ⟨vs₁, by simp, hkeyType⟩, vs₃, by simp, hvalueType⟩

theorem of_yields_annotateMethod {known : KnownTypes} {serviceName : String} {m : Method}
    {a : AnnotatedMethod} (h : Yields (lx.annotateMethod known serviceName m) a ws) :
    (∃ ws' ⊆ ws, Yields (lx.callType known m.inputTypeId m.id) a.inputType ws') ∧
      ∃ ws' ⊆ ws, Yields (lx.returnType known m) a.returnType ws' := by
  obtain ⟨input, ws₁, ws₂, hinput, hrest, rfl⟩ := yields_bind_iff.1 h
  obtain ⟨output, ws₃, ws₄, houtput, hshape, rfl⟩ := yields_bind_iff.1 hrest
  obtain ⟨shape, ws₅, ws₆, -, hentry, rfl⟩ := yields_bind_iff.1 hshape
  obtain ⟨rfl, rfl⟩ := yields_pure_iff.1 hentry
  exact ⟨⟨ws₁, by simp, hinput⟩, ws₃, fun w hw => by simp [hw], houtput⟩

end Lexicon

/-! ## Names are the same everywhere -/

namespace Lexicon

variable [Speller] {lx : Lexicon} {retained : List RetainedService} {d : Drafts}
  {id referrer name : String}  {ws : List Warning}

/-- The entry of a known type is that of an own type with the ID. -/
theorem DraftsFrom.of_name?_eq_some (hd : lx.DraftsFrom retained d ws)
    (h : (Drafts.known d.ownEnums d.ownMessages).name? id = some name) :
    (∃ m ∈ lx.api.ownMessages, m.id = id ∧
      ∃ names, lx.ofMessage m = .ok names ∧ names.qualified = name) ∨
    ∃ e ∈ lx.api.ownEnums, e.id = id ∧
      ∃ names, lx.ofEnum e = .ok names ∧ names.qualified = name := by
  have hmessages : Option.Rel (fun m (entry : AnnotatedMessage) =>
      ∃ names, lx.ofMessage m = .ok names ∧ entry = lx.messageEntry m names)
      (lastWith? Message.id id lx.api.ownMessages)
      (Drafts.known d.ownEnums d.ownMessages).messages[id]? :=
    Table.rel_ofEntries hd.forall₂_ownMessages id
  have henums : Option.Rel (fun e (entry : AnnotatedEnum) =>
      ∃ names, lx.ofEnum e = .ok names ∧ entry = lx.enumEntry e names)
      (lastWith? Enum.id id lx.api.ownEnums) (Drafts.known d.ownEnums d.ownMessages).enums[id]? :=
    Table.rel_ofEntries hd.forall₂_ownEnums id
  unfold KnownTypes.name? at h
  cases hentry : (Drafts.known d.ownEnums d.ownMessages).messages[id]? with
  | some entry =>
      simp only [hentry, Option.some_inj] at h
      rw [hentry] at hmessages
      obtain ⟨m, hlast, names, hnames, rfl⟩ := of_rel_some_right hmessages
      obtain ⟨hm, hid⟩ := of_lastWith?_eq_some hlast
      exact .inl ⟨m, hm, hid, names, hnames, by simpa using h⟩
  | none =>
      simp only [hentry] at h
      obtain ⟨entry, hentry, hname⟩ := Option.map_eq_some_iff.1 h
      rw [hentry] at henums
      obtain ⟨e, hlast, names, hnames, rfl⟩ := of_rel_some_right henums
      obtain ⟨he, hid⟩ := of_lastWith?_eq_some hlast
      exact .inr ⟨e, he, hid, names, hnames, by simpa using hname⟩

/-- **Types that are annotated already give no other names**: the name that they give for an ID is
the one that is found by looking the ID up. -/
theorem yields_typeOf_of_callType {vs : List Warning} (hd : lx.DraftsFrom retained d ws)
    (hids : lx.api.typeIds.Nodup)
    (h : Yields (lx.callType (Drafts.known d.ownEnums d.ownMessages) id referrer) name vs) :
    Yields (lx.typeOf id referrer) name vs := by
  unfold callType at h
  cases hknown : (Drafts.known d.ownEnums d.ownMessages).name? id with
  | none => simpa [hknown] using h
  | some known =>
      rw [hknown] at h
      obtain ⟨rfl, rfl⟩ := yields_pure_iff.1 h
      refine yields_typeOf_iff.2 (.inl ?_)
      unfold ofId
      rcases hd.of_name?_eq_some hknown with
        ⟨m, hm, rfl, names, hnames, hname⟩ | ⟨e, he, rfl, names, hnames, hname⟩
      · have hmem := Api.mem_messages_of_mem_structs (List.mem_filter.1 hm).1
        refine ⟨names, ?_, hname, rfl⟩
        rw [Api.message?_of_mem hids hmem]
        exact except_bind_eq_ok_iff.2 ⟨names, hnames, rfl⟩
      · have hmem := (List.mem_filter.1 he).1
        refine ⟨names, ?_, hname, rfl⟩
        rw [Api.message?_of_mem_enums hids hmem, Api.enum?_of_mem hids hmem]
        exact except_bind_eq_ok_iff.2 ⟨names, hnames, rfl⟩

end Lexicon

/-! ## Names agree with the tables -/

/-- The ID is that of a map entry. -/
def Api.IsEntry (api : Api) (id : String) : Prop :=
  ∃ m ∈ api.messages, m.isMapEntry = true ∧ m.id = id

/-- Only map fields refer to map entries. -/
structure Api.KeepsEntriesInMaps (api : Api) : Prop where
  fields : ∀ m ∈ api.messages, ∀ f ∈ m.fields, f.kind.isNamed = true → f.map = false →
    ¬ api.IsEntry f.typeRef
  methods : ∀ s ∈ api.services, ∀ m ∈ s.methods,
    ¬ api.IsEntry m.inputTypeId ∧ ¬ api.IsEntry m.outputTypeId

/-- A name is that of the type that an ID refers to: the one in the type's entry. If no type has the
ID, the name is the unit type, and a warning tells from where the ID is referred to. -/
structure Annotated.Resolves (result : Annotated) (id referrer name : String) : Prop where
  message : ∀ m, result.model.messages[id]? = some m → name = m.qualifiedName
  enum : ∀ e, result.model.enums[id]? = some e → name = e.qualifiedName
  missing : id ∉ result.model.messages → id ∉ result.model.enums →
    name = unitType ∧ .missingType id referrer ∈ result.statistics.warnings

section Pass

variable [Speller] {api : Api} {options : Options} {result : Annotated}

/-- The name of a message that becomes a type is the one in its entry. -/
theorem resolves_of_message (h : annotate api options = .ok result) (hids : api.typeIds.Nodup)
    {m : Message} (hm : m ∈ api.structs) {names : QualifiedName}
    (hnames : (Lexicon.of api options).ofMessage m = .ok names) (referrer : String) :
    result.Resolves m.id referrer names.qualified := by
  obtain ⟨names', hnames', hvalue⟩ := getElem?_messages_of_annotate h hids hm
  obtain rfl : names = names' := Except.ok.inj (hnames.symm.trans hnames')
  refine ⟨?_, ?_, ?_⟩
  · intro entry hentry
    obtain rfl := Option.some_inj.1 (hvalue.symm.trans hentry)
    simp
  · intro entry hentry
    simp [getElem?_enums_of_message h hids hm] at hentry
  · intro hnone
    exact absurd ((mem_messages_of_annotate h).2 ⟨m, hm, rfl⟩) hnone

/-- The name of an enum is the one in its entry. -/
theorem resolves_of_enum (h : annotate api options = .ok result) (hids : api.typeIds.Nodup)
    {e : Enum} (he : e ∈ api.enums) {names : QualifiedName}
    (hnames : (Lexicon.of api options).ofEnum e = .ok names) (referrer : String) :
    result.Resolves e.id referrer names.qualified := by
  obtain ⟨names', hnames', hvalue⟩ := getElem?_enums_of_annotate h hids he
  obtain rfl : names = names' := Except.ok.inj (hnames.symm.trans hnames')
  refine ⟨?_, ?_, ?_⟩
  · intro entry hentry
    simp [getElem?_messages_of_enum h hids he] at hentry
  · intro entry hentry
    obtain rfl := Option.some_inj.1 (hvalue.symm.trans hentry)
    simp
  · intro _ hnone
    exact absurd ((mem_enums_of_annotate h).2 ⟨e, he, rfl⟩) hnone

/-- The unit type stands for what is not declared, if a warning says so. -/
theorem resolves_of_missing (h : annotate api options = .ok result) {id referrer : String}
    (hm : api.message? id = none) (he : api.enum? id = none)
    (hwarning : .missingType id referrer ∈ result.statistics.warnings) :
    result.Resolves id referrer unitType := by
  have hmessages : id ∉ result.model.messages := by
    rw [mem_messages_of_annotate h]
    rintro ⟨m, hmem, rfl⟩
    exact lastWith?_eq_none_iff.1 hm (List.mem_map_of_mem (Api.mem_messages_of_mem_structs hmem))
  have henums : id ∉ result.model.enums := by
    rw [mem_enums_of_annotate h]
    rintro ⟨e, hmem, rfl⟩
    exact lastWith?_eq_none_iff.1 he (List.mem_map_of_mem hmem)
  refine ⟨?_, ?_, fun _ _ => ⟨rfl, hwarning⟩⟩
  · intro entry hentry
    simp [Std.ExtTreeMap.getElem?_eq_none hmessages] at hentry
  · intro entry hentry
    simp [Std.ExtTreeMap.getElem?_eq_none henums] at hentry

/-- **Names agree with the tables.** -/
theorem resolves_of_yields_typeOf {id referrer name : String} {ws : List Warning}
    (h : annotate api options = .ok result) (hids : api.typeIds.Nodup) (hentry : ¬ api.IsEntry id)
    (hname : Yields ((Lexicon.of api options).typeOf id referrer) name ws)
    (hws : ws ⊆ result.statistics.warnings) : result.Resolves id referrer name := by
  rcases Lexicon.yields_typeOf_iff.1 hname with ⟨names, hofId, rfl, rfl⟩ | ⟨hofId, rfl, rfl⟩
  · rcases Lexicon.of_ofId_eq_ok_some hofId with ⟨m, hm, hnames⟩ | ⟨-, e, he, hnames⟩
    · obtain ⟨hmem, rfl⟩ := Api.of_message?_eq_some hm
      have hstruct : m ∈ api.structs := by
        refine List.mem_filter.2 ⟨hmem, ?_⟩
        by_cases hmap : m.isMapEntry = true
        · exact absurd ⟨m, hmem, hmap, rfl⟩ hentry
        · simpa using hmap
      exact resolves_of_message h hids hstruct hnames referrer
    · obtain ⟨hmem, rfl⟩ := of_lastWith?_eq_some he
      exact resolves_of_enum h hids hmem hnames referrer
  · obtain ⟨hm, he⟩ := Lexicon.of_ofId_eq_ok_none hofId
    exact resolves_of_missing h hm he (hws List.mem_cons_self)

/-- A name is that of the type of a single value of a field: the scalar type, or the name of the
type that the field refers to. A map entry is no type, and a field that refers to one may have any
name. -/
def Annotated.ResolvesValue (result : Annotated) (api : Api) (f : Field) (referrer name : String) :
    Prop :=
  match f.kind.scalarType? with
  | some scalar => name = scalar
  | none => ¬ api.IsEntry f.typeRef → result.Resolves f.typeRef referrer name

theorem resolvesValue_of_yields_elementType {f : Field} {referrer name : String} {ws : List Warning}
    (h : annotate api options = .ok result) (hids : api.typeIds.Nodup)
    (hname : Yields ((Lexicon.of api options).elementType f referrer) name ws)
    (hws : ws ⊆ result.statistics.warnings) : result.ResolvesValue api f referrer name := by
  unfold Lexicon.elementType at hname
  unfold Annotated.ResolvesValue
  cases hscalar : f.kind.scalarType? with
  | some scalar =>
      rw [hscalar] at hname
      exact (yields_pure_iff.1 hname).1.symm
  | none =>
      rw [hscalar] at hname
      exact fun hentry => resolves_of_yields_typeOf h hids hentry hname hws

omit [Speller] in
theorem FieldKind.scalarType?_of_isNamed {kind : FieldKind} (h : kind.isNamed = true) :
    kind.scalarType? = none := by
  cases kind <;> first | rfl | cases h

/-- The name of a declared message is a path, so no scalar and no unit type has it. -/
theorem Lexicon.not_isPart_of_yields_typeOf {lx : Lexicon} {id referrer name : String} {m : Message}
    {ws : List Warning} (hm : lx.api.message? id = some m)
    (h : Yields (lx.typeOf id referrer) name ws) : ¬ IsPart name := by
  rcases yields_typeOf_iff.1 h with ⟨names, hnames, rfl, -⟩ | ⟨hnone, -, -⟩
  · rcases of_ofId_eq_ok_some hnames with ⟨m, -, hqualify⟩ | ⟨hnone, -⟩
    · obtain ⟨root, -, -, -, hqualified⟩ := of_qualify_eq_ok hqualify
      rw [hqualified]
      exact not_isPart_inModule _ _
    · simp [hm] at hnone
  · have hmissing := (of_ofId_eq_ok_none hnone).1
    simp [hm] at hmissing

/-- The name in the entry of a message is a path as well. -/
theorem not_isPart_qualifiedName (h : annotate api options = .ok result) (hids : api.typeIds.Nodup)
    {m : Message} (hm : m ∈ api.structs) :
    ∃ entry, result.model.messages[m.id]? = some entry ∧ ¬ IsPart entry.qualifiedName := by
  obtain ⟨names, hnames, hentry⟩ := getElem?_messages_of_annotate h hids hm
  obtain ⟨root, -, -, -, hqualified⟩ := Lexicon.of_qualify_eq_ok hnames
  refine ⟨_, hentry, ?_⟩
  simp only [Lexicon.qualifiedName_messageEntry, hqualified]
  exact not_isPart_inModule _ _

omit [Speller] in
theorem mapOf_right_injective {key value value' : String} (h : mapOf key value = mapOf key value') :
    value = value' := by
  unfold mapOf at h
  rwa [String.append_left_inj, String.append_right_inj] at h

/-- The name that a field without a map gets, and where it is recorded. -/
theorem exists_value_of_field (h : annotate api options = .ok result) (hids : api.typeIds.Nodup)
    {f : Field} (hf : f ∈ api.ownFields) (hmap : f.map = false) :
    ∃ name, result.ResolvesValue api f f.id name ∧
      (lastWith? Field.id f.id api.ownFields = some f →
        ∃ a, result.model.fields[f.id]? = some a ∧ a.elementType = name) := by
  obtain ⟨a, ⟨m, -, names, -, ws, hws, ha⟩, hlast⟩ := exists_field_of_annotate h hf
  obtain ⟨type, htype, -, helement⟩ := Lexicon.of_yields_annotateField ha
  have hvalue := Lexicon.of_yields_fieldType hmap htype
  rw [← helement] at hvalue
  exact ⟨a.elementType, resolvesValue_of_yields_elementType h hids hvalue hws,
    fun h => ⟨a, hlast h, rfl⟩⟩

/-- The names that the keys and values of a map field get, and where they are recorded. -/
theorem exists_values_of_map (h : annotate api options = .ok result) (hids : api.typeIds.Nodup)
    {f key value : Field} (hf : f ∈ api.ownFields) (hmap : f.map = true)
    (hkey : api.mapKey? f.typeRef = some key) (hvalue : api.mapValue? f.typeRef = some value) :
    ∃ keyType valueType, result.ResolvesValue api key f.id keyType ∧
      result.ResolvesValue api value f.id valueType ∧
      (lastWith? Field.id f.id api.ownFields = some f →
        ∃ a, result.model.fields[f.id]? = some a ∧ a.fieldType = mapOf keyType valueType) := by
  obtain ⟨a, ⟨m, -, names, -, ws, hws, ha⟩, hlast⟩ := exists_field_of_annotate h hf
  obtain ⟨type, htype, hfull, -⟩ := Lexicon.of_yields_annotateField ha
  obtain ⟨keyType, valueType, hmapOf, ⟨ws₁, hws₁, hkeyType⟩, ws₂, hws₂, hvalueType⟩ :=
    Lexicon.of_yields_fieldType_map hmap hkey hvalue htype
  exact ⟨keyType, valueType,
    resolvesValue_of_yields_elementType h hids hkeyType (List.Subset.trans hws₁ hws),
    resolvesValue_of_yields_elementType h hids hvalueType (List.Subset.trans hws₂ hws),
    fun h => ⟨a, hlast h, hfull.trans hmapOf⟩⟩

/-- The names that the request and the response of a method get, and where they are recorded. -/
theorem exists_types_of_method (h : annotate api options = .ok result) (hids : api.typeIds.Nodup)
    {m : Method} (hm : m ∈ api.generated options) (hinput : ¬ api.IsEntry m.inputTypeId)
    (houtput : ¬ api.IsEntry m.outputTypeId) :
    ∃ inputType returnType, result.Resolves m.inputTypeId m.id inputType ∧
      (m.outputTypeId = emptyMessageId → returnType = unitType) ∧
      (m.outputTypeId ≠ emptyMessageId → result.Resolves m.outputTypeId m.id returnType) ∧
      (lastWith? Method.id m.id (api.generated options) = some m →
        ∃ a, result.model.methods[m.id]? = some a ∧
          a.inputType = inputType ∧ a.returnType = returnType) := by
  obtain ⟨a, d, hd, ⟨serviceName, ws, hws, ha⟩, hlast⟩ := exists_method_of_annotate h hm
  obtain ⟨⟨ws₁, hws₁, hinputType⟩, ws₂, hws₂, hreturn⟩ := Lexicon.of_yields_annotateMethod ha
  refine ⟨a.inputType, a.returnType, ?_, ?_, ?_, fun h => ⟨a, hlast h, rfl, rfl⟩⟩
  · exact resolves_of_yields_typeOf h hids hinput
      (Lexicon.yields_typeOf_of_callType hd hids hinputType) (List.Subset.trans hws₁ hws)
  · intro hempty
    rw [Lexicon.returnType, if_pos hempty] at hreturn
    exact (yields_pure_iff.1 hreturn).1.symm
  · intro hnonempty
    rw [Lexicon.returnType, if_neg hnonempty] at hreturn
    exact resolves_of_yields_typeOf h hids houtput
      (Lexicon.yields_typeOf_of_callType hd hids hreturn) (List.Subset.trans hws₂ hws)

/-- **Every reference resolves or is reported.** A field, the keys and values of a map field, and
the request and the response of a generated method get the name in the entry of the type that they
refer to; if there is no such type, they get the unit type, and a warning says who refers to what.
The tables of fields and methods record these names, each for the last field or method with its
ID. -/
theorem references_resolve (h : annotate api options = .ok result) (hids : api.typeIds.Nodup)
    (hentries : api.KeepsEntriesInMaps) :
    (∀ f ∈ api.ownFields, f.kind.isNamed = true → f.map = false →
      ∃ name, result.Resolves f.typeRef f.id name ∧
        (lastWith? Field.id f.id api.ownFields = some f →
          ∃ a, result.model.fields[f.id]? = some a ∧ a.elementType = name)) ∧
    (∀ f ∈ api.ownFields, f.map = true → ∀ key value, api.mapKey? f.typeRef = some key →
      api.mapValue? f.typeRef = some value →
      ∃ keyType valueType, result.ResolvesValue api key f.id keyType ∧
        result.ResolvesValue api value f.id valueType ∧
        (lastWith? Field.id f.id api.ownFields = some f →
          ∃ a, result.model.fields[f.id]? = some a ∧ a.fieldType = mapOf keyType valueType)) ∧
    ∀ m ∈ api.generated options,
      ∃ inputType returnType, result.Resolves m.inputTypeId m.id inputType ∧
        (m.outputTypeId ≠ emptyMessageId → result.Resolves m.outputTypeId m.id returnType) ∧
        (lastWith? Method.id m.id (api.generated options) = some m →
          ∃ a, result.model.methods[m.id]? = some a ∧
            a.inputType = inputType ∧ a.returnType = returnType) := by
  refine ⟨?_, ?_, ?_⟩
  · intro f hf hnamed hmap
    obtain ⟨container, hcontainer, hfield⟩ := List.mem_flatMap.1 hf
    have hentry : ¬ api.IsEntry f.typeRef := hentries.fields container
      (Api.mem_messages_of_mem_structs (List.mem_filter.1 hcontainer).1) f hfield hnamed hmap
    obtain ⟨name, hname, hlast⟩ := exists_value_of_field h hids hf hmap
    rw [Annotated.ResolvesValue, FieldKind.scalarType?_of_isNamed hnamed] at hname
    exact ⟨name, hname hentry, hlast⟩
  · intro f hf hmap key value hkey hvalue
    exact exists_values_of_map h hids hf hmap hkey hvalue
  · intro m hm
    obtain ⟨s, hs, hgenerated⟩ := List.mem_flatMap.1 hm
    obtain ⟨hinput, houtput⟩ := hentries.methods s hs m (List.mem_filter.1 hgenerated).1
    obtain ⟨inputType, returnType, hinputType, -, hreturnType, hlast⟩ :=
      exists_types_of_method h hids hm hinput houtput
    exact ⟨inputType, returnType, hinputType, hreturnType, hlast⟩

end Pass

/-- A field that refers to a message has its name, and a field that refers to nothing is
reported. -/
theorem resolved_and_reported_fields :
    let b : Message := { id := ".p.B", name := "B", package := "p" }
    let found : Field := { id := ".p.A.found", kind := .message, typeId := some ".p.B" }
    let gone : Field := { id := ".p.A.gone", kind := .enum, typeId := some ".p.Gone" }
    let a : Message := { id := ".p.A", name := "A", package := "p", fields := [found, gone] }
    let api : Api := { packageName := "p", messages := [a, b] }
    ∃ result, annotate api {} = .ok result ∧
      (∃ entry target, result.model.fields[found.id]? = some entry ∧
        result.model.messages[b.id]? = some target ∧ entry.elementType = target.qualifiedName) ∧
      (∃ entry, result.model.fields[gone.id]? = some entry ∧ entry.elementType = unitType) ∧
      .missingType ".p.Gone" gone.id ∈ result.statistics.warnings := by
  intro b found gone a api
  obtain ⟨result, h⟩ : ∃ result, annotate api {} = .ok result := by
    apply exists_annotate_eq_ok <;> simp [api, a, b, Api.HasModule, Api.isOwn]
  have hids : api.typeIds.Nodup := by simp [api, Api.typeIds, a, b]
  have hentries : api.KeepsEntriesInMaps :=
    ⟨by simp [api, a, b, Api.IsEntry], by simp [api]⟩
  have hfields : api.ownFields = [found, gone] := by
    simp [Api.ownFields, Api.ownMessages, Api.structs, Api.isOwn, api, a, b]
  obtain ⟨hvalues, -, -⟩ := references_resolve h hids hentries
  rw [hfields] at hvalues
  have hb : b.id ∈ result.model.messages :=
    (mem_messages_of_annotate h).2 ⟨b, by simp [api, Api.structs, a, b], rfl⟩
  have hgone : ".p.Gone" ∉ result.model.messages ∧ ".p.Gone" ∉ result.model.enums := by
    rw [mem_messages_of_annotate h, mem_enums_of_annotate h]
    simp [api, Api.structs, a, b]
  obtain ⟨target, htarget⟩ := Option.isSome_iff_exists.1
    (Std.ExtTreeMap.mem_iff_isSome_getElem?.1 hb)
  obtain ⟨name, hname, hlast⟩ := hvalues found (by simp) rfl rfl
  obtain ⟨entry, hentry, rfl⟩ := hlast (by simp [lastWith?, found, gone])
  obtain ⟨name', hname', hlast'⟩ := hvalues gone (by simp) rfl rfl
  obtain ⟨entry', hentry', rfl⟩ := hlast' (by simp [lastWith?, gone])
  obtain ⟨hunit, hwarning⟩ := hname'.missing hgone.1 hgone.2
  exact ⟨result, h, ⟨entry, target, hentry, htarget, hname.message target htarget⟩,
    ⟨entry', hentry', hunit⟩, hwarning⟩

/-- Not every reference is recorded. Of two fields with one ID only the last one has an entry, and
so it is for methods; and the values of a map whose entries hold maps have the name of a map entry,
though no type of that name is made. -/
theorem unrecorded_references :
    let b : Message := { id := ".p.B", name := "B", package := "p" }
    let key : Field := { id := ".p.Inner.key", name := "key" }
    let inner : Message :=
      { id := ".p.Inner", name := "Inner", package := "p", isMapEntry := true
        fields := [key, { id := ".p.Inner.value", name := "value" }] }
    let values : Field :=
      { id := ".p.Outer.value", name := "value", kind := .message, typeId := some ".p.Inner"
        map := true }
    let outer : Message :=
      { id := ".p.Outer", name := "Outer", package := "p", isMapEntry := true
        fields := [key, values] }
    let single : Field :=
      { id := ".p.A.x", name := "single", kind := .message, typeId := some ".p.B" }
    let flag : Field := { id := ".p.A.x", name := "flag", kind := .bool }
    let table : Field :=
      { id := ".p.A.table", name := "table", kind := .message, typeId := some ".p.Outer"
        map := true }
    let a : Message :=
      { id := ".p.A", name := "A", package := "p", fields := [single, flag, table] }
    let get : Method :=
      { id := ".p.S.Get", name := "Get", inputTypeId := ".p.B", outputTypeId := ".p.B"
        http := some {} }
    let clear : Method :=
      { id := ".p.S.Get", name := "Clear", inputTypeId := ".p.B", outputTypeId := emptyMessageId
        http := some {} }
    let s : Service := { id := ".p.S", name := "S", package := "p", methods := [get, clear] }
    let api : Api := { packageName := "p", messages := [a, b, outer, inner], services := [s] }
    api.typeIds.Nodup ∧ api.KeepsEntriesInMaps ∧ ∃ result, annotate api {} = .ok result ∧
      ∃ target, result.model.messages[b.id]? = some target ∧
        (∃ entry, result.model.fields[single.id]? = some entry ∧
          entry.elementType ≠ target.qualifiedName) ∧
        (∃ entry, result.model.methods[get.id]? = some entry ∧
          entry.returnType ≠ target.qualifiedName) ∧
        ∃ entry, result.model.fields[table.id]? = some entry ∧
          inner.id ∉ result.model.messages ∧ inner.id ∉ result.model.enums ∧
          entry.fieldType ≠ mapOf "std::string::String" unitType := by
  intro b key inner values outer single flag table a get clear s api
  have hids : api.typeIds.Nodup := by simp [api, Api.typeIds, a, b, outer, inner]
  have hentries : api.KeepsEntriesInMaps := by
    refine ⟨?_, ?_⟩
    · simp [api, a, b, outer, inner, single, flag, table, key, values, Api.IsEntry,
        FieldKind.isNamed, Field.typeRef]
    · simp [api, s, get, clear, Api.IsEntry, a, b, outer, inner, emptyMessageId]
  refine ⟨hids, hentries, ?_⟩
  obtain ⟨result, h⟩ : ∃ result, annotate api {} = .ok result := by
    apply exists_annotate_eq_ok <;>
      simp [api, a, b, outer, inner, Api.HasModule, Api.isOwn]
  have hfields : api.ownFields = [single, flag, table] := by
    simp [Api.ownFields, Api.ownMessages, Api.structs, Api.isOwn, api, a, b, outer, inner]
  have hmethods : api.generated {} = [get, clear] := by
    simp [Api.generated, generatedMethods, isGenerated, Method.isStreaming, api, s, get, clear]
  obtain ⟨target, htarget, hpath⟩ := not_isPart_qualifiedName h hids (m := b)
    (by simp [api, Api.structs, a, b, outer, inner])
  refine ⟨result, h, target, htarget, ?_, ?_, ?_⟩
  · -- the entry is that of the flag
    obtain ⟨name, hname, hlast⟩ := exists_value_of_field h hids (f := flag) (by simp [hfields]) rfl
    obtain ⟨entry, hentry, rfl⟩ := hlast (by simp [hfields, lastWith?, single, flag, table])
    have hbool : entry.elementType = "bool" := hname
    refine ⟨entry, hentry, fun heq => hpath ?_⟩
    simp [← heq, hbool, IsPart]
  · -- the entry is that of the method without a response
    obtain ⟨hinput, houtput⟩ := hentries.methods s (by simp [api]) clear (by simp [s])
    obtain ⟨_, _, -, hunit, -, hlast⟩ :=
      exists_types_of_method h hids (m := clear) (by simp [hmethods]) hinput houtput
    obtain ⟨entry, hentry, -, rfl⟩ := hlast (by simp [hmethods, lastWith?, get, clear])
    refine ⟨entry, hentry, fun heq => hpath ?_⟩
    simp [← heq, hunit rfl, IsPart, unitType]
  · have hkey : api.mapKey? table.typeRef = some key := by
      simp [Api.mapKey?, Api.message?, Message.field?, Field.typeRef, api, a, b, outer, inner,
        table, key, values]
    have hvalue : api.mapValue? table.typeRef = some values := by
      simp [Api.mapValue?, Api.message?, Message.field?, Field.typeRef, api, a, b, outer, inner,
        table, key, values]
    obtain ⟨entry, ⟨m, -, names, -, ws, -, hentry⟩, hlast⟩ :=
      exists_field_of_annotate h (f := table) (by simp [hfields])
    obtain ⟨type, htype, hfull, -⟩ := Lexicon.of_yields_annotateField hentry
    obtain ⟨keyType, valueType, hmapOf, ⟨_, -, hkeyType⟩, _, -, hvalueType⟩ :=
      Lexicon.of_yields_fieldType_map rfl hkey hvalue htype
    obtain ⟨rfl, -⟩ := yields_pure_iff.1 hkeyType
    have hinner : api.message? inner.id = some inner := Api.message?_of_mem hids (by simp [api])
    have hvalueName : Yields ((Lexicon.of api {}).typeOf inner.id table.id) valueType _ :=
      hvalueType
    have hpath := Lexicon.not_isPart_of_yields_typeOf hinner hvalueName
    refine ⟨entry, hlast (by simp [hfields, lastWith?, single, flag, table]), ?_, ?_, ?_⟩
    · rw [mem_messages_of_annotate h]
      simp [api, Api.structs, a, b, outer, inner]
    · rw [mem_enums_of_annotate h]
      simp [api]
    · intro heq
      rw [hfull, hmapOf] at heq
      obtain rfl := mapOf_right_injective heq
      exact hpath (by simp [IsPart, unitType])

end ApiAnnotator
