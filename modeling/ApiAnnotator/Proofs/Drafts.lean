import ApiAnnotator.Annotated.Pass
import ApiAnnotator.Proofs.Outcome
import ApiAnnotator.Proofs.Records

/-!
# The drafts of a pass

A pass goes over all types and services of an API and drafts an annotation for each of them, in
order. The statements here take a finished run apart: every draft is what annotating its item gives,
and whatever was noted for the item is among the warnings. They say what the steps of a pass do, so
that nothing after this module has to look at the steps again.

## Main definitions

* `Api.ownMessages`, `Api.otherMessages`, `Api.ownEnums`, `Api.otherEnums` — the types in the order
  in which they are annotated.
* `Lexicon.messageEntry`, `Lexicon.enumEntry` — the annotation of a type with given names.
* `Lexicon.DraftsFrom` — drafts, item by item.

## Main statements

* `draftsFrom_of_yields` — the drafts of a finished run.
* `rel_messages`, `rel_enums` — the type tables before the gates are set.
* `forall₂_fields`, `forall₂_oneofs`, `forall₂_values`, `forall₂_methods` — the entries for the
  parts of types and services.
-/

namespace ApiAnnotator

/-! ## The types in order -/

namespace Api

/-- The messages of the API's own package that become types. -/
def ownMessages (api : Api) : List Message :=
  api.structs.filter (api.isOwn ·.package)

/-- The messages of other packages that become types. -/
def otherMessages (api : Api) : List Message :=
  api.structs.filter (!api.isOwn ·.package)

/-- The enums of the API's own package. -/
def ownEnums (api : Api) : List Enum :=
  api.enums.filter (api.isOwn ·.package)

/-- The enums of other packages. -/
def otherEnums (api : Api) : List Enum :=
  api.enums.filter (!api.isOwn ·.package)

/-- The fields of the own messages. -/
def ownFields (api : Api) : List Field :=
  api.ownMessages.flatMap (·.fields)

/-- The oneofs of the own messages, each with its message. -/
def ownOneOfs (api : Api) : List (Message × OneOf) :=
  api.ownMessages.flatMap fun m => m.oneofs.map fun o => (m, o)

/-- The values of the own enums, each with its enum. -/
def ownValues (api : Api) : List (Enum × EnumValue) :=
  api.ownEnums.flatMap fun e => e.values.map fun v => (e, v)

/-- The methods that are generated. -/
def generated (api : Api) (options : Options) : List Method :=
  api.services.flatMap (generatedMethods options)

/-- A service without generated methods is not kept, so all generated methods are in those that are.
-/
theorem retained_flatMap_methods [Speller] (api : Api) (options : Options) :
    (api.retained options).flatMap (·.methods) = api.generated options := by
  unfold retained generated
  induction api.services with
  | nil => rfl
  | cons s services ih =>
      have hkept : ((retain? options s).map (·.methods)).getD [] = generatedMethods options s := by
        unfold retain?
        cases generatedMethods options s <;> rfl
      rw [List.flatMap_cons, List.filterMap_cons, ← ih, ← hkept]
      cases retain? options s <;> rfl

end Api

namespace Lexicon

variable [Speller] (lx : Lexicon)

/-! ## Single annotations -/

/-- The annotation of a message with the given names, without its gates. -/
def messageEntry (m : Message) (names : QualifiedName) : AnnotatedMessage :=
  if lx.api.isOwn m.package then
    { lx.nameMessage m names with
      internal := m.id ∈ lx.options.internalTypes
      deprecated := m.deprecated
      docs := Text.docLines m.documentation
      basic := false
      hasNestedTypes := lx.api.hasNestedTypes m.id
      fields := m.fields.map (·.id)
      oneofs := m.oneofs.map (·.id) }
  else lx.nameMessage m names

/-- The annotation of an enum with the given names, without its gates. -/
def enumEntry (e : Enum) (names : QualifiedName) : AnnotatedEnum :=
  if lx.api.isOwn e.package then
    { nameEnum names with
      uniqueValues := e.uniqueValues.map (·.id)
      examples := e.exampleValues.map (enumExample names e)
      internal := e.id ∈ lx.options.internalTypes
      deprecated := e.deprecated
      docs := Text.docLines e.documentation
      basic := false }
  else nameEnum names

@[simp] theorem basic_messageEntry (m : Message) (names : QualifiedName) :
    (lx.messageEntry m names).basic = !lx.api.isOwn m.package := by
  by_cases h : lx.api.isOwn m.package = true <;> simp [messageEntry, nameMessage, h]

@[simp] theorem qualifiedName_messageEntry (m : Message) (names : QualifiedName) :
    (lx.messageEntry m names).qualifiedName = names.qualified := by
  by_cases h : lx.api.isOwn m.package = true <;> simp [messageEntry, nameMessage, h]

@[simp] theorem name_messageEntry (m : Message) (names : QualifiedName) :
    (lx.messageEntry m names).name = names.name := by
  by_cases h : lx.api.isOwn m.package = true <;> simp [messageEntry, nameMessage, h]

@[simp] theorem modulePath_messageEntry (m : Message) (names : QualifiedName) :
    (lx.messageEntry m names).modulePath = names.modulePath := by
  by_cases h : lx.api.isOwn m.package = true <;> simp [messageEntry, nameMessage, h]

@[simp] theorem moduleName_messageEntry (m : Message) (names : QualifiedName) :
    (lx.messageEntry m names).moduleName = lx.moduleName m := by
  by_cases h : lx.api.isOwn m.package = true <;> simp [messageEntry, nameMessage, h]

theorem hasNestedTypes_messageEntry {m : Message} (h : lx.api.isOwn m.package = true)
    (names : QualifiedName) :
    (lx.messageEntry m names).hasNestedTypes = lx.api.hasNestedTypes m.id := by
  simp [messageEntry, h]

theorem featureGates_messageEntry (m : Message) (names : QualifiedName) :
    (lx.messageEntry m names).featureGates = {} := by
  by_cases h : lx.api.isOwn m.package = true <;> simp [messageEntry, nameMessage, h]

@[simp] theorem basic_enumEntry (e : Enum) (names : QualifiedName) :
    (lx.enumEntry e names).basic = !lx.api.isOwn e.package := by
  by_cases h : lx.api.isOwn e.package = true <;> simp [enumEntry, nameEnum, h]

@[simp] theorem qualifiedName_enumEntry (e : Enum) (names : QualifiedName) :
    (lx.enumEntry e names).qualifiedName = names.qualified := by
  by_cases h : lx.api.isOwn e.package = true <;> simp [enumEntry, nameEnum, h]

@[simp] theorem name_enumEntry (e : Enum) (names : QualifiedName) :
    (lx.enumEntry e names).name = names.name := by
  by_cases h : lx.api.isOwn e.package = true <;> simp [enumEntry, nameEnum, h]

@[simp] theorem modulePath_enumEntry (e : Enum) (names : QualifiedName) :
    (lx.enumEntry e names).modulePath = names.modulePath := by
  by_cases h : lx.api.isOwn e.package = true <;> simp [enumEntry, nameEnum, h]

theorem featureGates_enumEntry (e : Enum) (names : QualifiedName) :
    (lx.enumEntry e names).featureGates = {} := by
  by_cases h : lx.api.isOwn e.package = true <;> simp [enumEntry, nameEnum, h]

variable {lx}

/-- What annotating an own message gives. -/
theorem of_yields_annotateMessage {m : Message} {parts : MessageParts} {ws : List Warning}
    (hown : lx.api.isOwn m.package = true) (h : Yields (lx.annotateMessage m) parts ws) :
    ∃ names, lx.ofMessage m = .ok names ∧ parts.entry = lx.messageEntry m names ∧
      parts.oneofs = m.oneofs.map (fun o => (o.id, lx.annotateOneOf m names o)) ∧
      List.Forall₂ (fun f entry => entry.1 = f.id ∧
        ∃ ws' ⊆ ws, Yields (lx.annotateField m names.name f) entry.2 ws')
        m.fields parts.fields := by
  obtain ⟨names, ws₁, ws₂, hnames, hrest, rfl⟩ := yields_bind_iff.1 h
  obtain ⟨fields, ws₃, ws₄, hfields, hparts, rfl⟩ := yields_bind_iff.1 hrest
  obtain ⟨rfl, rfl⟩ := yields_pure_iff.1 hparts
  obtain ⟨hnamed, rfl⟩ := yields_except_iff.1 hnames
  refine ⟨names, hnamed, ?_, rfl, ?_⟩
  · simp [messageEntry, hown]
  · simpa using hfields.forall₂_of_mapM_keyed

/-- What annotating a kept service gives. -/
theorem of_yields_annotateService {known : KnownTypes} {r : RetainedService} {parts : ServiceParts}
    {ws : List Warning} (h : Yields (lx.annotateService known r) parts ws) :
    List.Forall₂ (fun m entry => entry.1 = m.id ∧ ∃ ws' ⊆ ws,
      Yields (lx.annotateMethod known (Identifier.typeName r.service.name) m) entry.2 ws')
      r.methods parts.methods := by
  obtain ⟨methods, ws₁, ws₂, hmethods, hparts, rfl⟩ := yields_bind_iff.1 h
  obtain ⟨rfl, rfl⟩ := yields_pure_iff.1 hparts
  simpa using hmethods.forall₂_of_mapM_keyed

/-- What annotating an own enum gives. -/
theorem of_annotateEnum_eq_ok {e : Enum} {parts : EnumParts} (hown : lx.api.isOwn e.package = true)
    (h : lx.annotateEnum e = .ok parts) :
    ∃ names, lx.ofEnum e = .ok names ∧ parts.entry = lx.enumEntry e names ∧
      parts.values = e.values.map fun v => (v.id, annotateValue e v) := by
  obtain ⟨names, hnames, hparts⟩ := except_bind_eq_ok_iff.1 h
  obtain rfl := Except.ok.inj hparts
  exact ⟨names, hnames, by simp [enumEntry, hown], rfl⟩

theorem of_basicMessage_eq_ok {m : Message} {entry : AnnotatedMessage}
    (hother : lx.api.isOwn m.package = false) (h : lx.basicMessage m = .ok entry) :
    ∃ names, lx.ofMessage m = .ok names ∧ entry = lx.messageEntry m names := by
  obtain ⟨names, hnames, hentry⟩ := except_bind_eq_ok_iff.1 h
  obtain rfl := Except.ok.inj hentry
  exact ⟨names, hnames, by simp [messageEntry, hother]⟩

theorem of_basicEnum_eq_ok {e : Enum} {entry : AnnotatedEnum}
    (hother : lx.api.isOwn e.package = false) (h : lx.basicEnum e = .ok entry) :
    ∃ names, lx.ofEnum e = .ok names ∧ entry = lx.enumEntry e names := by
  obtain ⟨names, hnames, hentry⟩ := except_bind_eq_ok_iff.1 h
  obtain rfl := Except.ok.inj hentry
  exact ⟨names, hnames, by simp [enumEntry, hother]⟩

/-! ## The drafts -/

/-- The drafts are the annotations of the types and services in order, and whatever was noted for
any of them is among the warnings. -/
structure DraftsFrom (lx : Lexicon) (retained : List RetainedService) (d : Drafts)
    (ws : List Warning) : Prop where
  ownEnums : List.Forall₂ (fun e entry => entry.1 = e.id ∧ lx.annotateEnum e = .ok entry.2)
    lx.api.ownEnums d.ownEnums
  ownMessages : List.Forall₂ (fun m entry => entry.1 = m.id ∧
    ∃ ws' ⊆ ws, Yields (lx.annotateMessage m) entry.2 ws') lx.api.ownMessages d.ownMessages
  services : List.Forall₂ (fun r entry => entry.1 = r.service.id ∧
    ∃ ws' ⊆ ws, Yields (lx.annotateService (Drafts.known d.ownEnums d.ownMessages) r) entry.2 ws')
    retained d.services
  otherEnums : List.Forall₂ (fun e entry => entry.1 = e.id ∧ lx.basicEnum e = .ok entry.2)
    lx.api.otherEnums d.otherEnums
  otherMessages : List.Forall₂ (fun m entry => entry.1 = m.id ∧ lx.basicMessage m = .ok entry.2)
    lx.api.otherMessages d.otherMessages

omit [Speller] in
/-- A run over types that notes nothing, type by type. -/
private theorem forall₂_of_mapM_except {α β : Type} {key : α → String}
    {f : α → Except UnmappedPackage β} {xs : List α} {entries : List (String × β)}
    {ws : List Warning}
    (h : Yields (xs.mapM fun x => do return (key x, ← (f x : Annotating β))) entries ws) :
    List.Forall₂ (fun x entry => entry.1 = key x ∧ f x = .ok entry.2) xs entries := by
  refine h.forall₂_of_mapM_keyed.imp ?_
  rintro x entry ⟨hkey, ws', -, hx⟩
  exact ⟨hkey, (yields_except_iff.1 hx).1⟩

omit [Speller] in
/-- A run over items stays one when there is more to note. -/
private theorem forall₂_mono_warnings {α β : Type} {key : α → String} {f : α → Annotating β}
    {xs : List α} {entries : List (String × β)} {ws ws' : List Warning} (hsub : ws ⊆ ws')
    (h : List.Forall₂ (fun x entry => entry.1 = key x ∧ ∃ vs ⊆ ws, Yields (f x) entry.2 vs)
      xs entries) :
    List.Forall₂ (fun x entry => entry.1 = key x ∧ ∃ vs ⊆ ws', Yields (f x) entry.2 vs)
      xs entries := by
  refine h.imp ?_
  rintro x entry ⟨hkey, vs, hvs, hx⟩
  exact ⟨hkey, vs, List.Subset.trans hvs hsub, hx⟩

/-- The steps of making the drafts. -/
theorem draftsFrom_of_yields {retained : List RetainedService} {d : Drafts} {ws : List Warning}
    (h : Yields (lx.drafts retained) d ws) : lx.DraftsFrom retained d ws := by
  obtain ⟨ownEnums, ws₁, vs₁, hownEnums, h₁, rfl⟩ := yields_bind_iff.1 h
  obtain ⟨ownMessages, ws₂, vs₂, hownMessages, h₂, rfl⟩ := yields_bind_iff.1 h₁
  obtain ⟨services, ws₃, vs₃, hservices, h₃, rfl⟩ := yields_bind_iff.1 h₂
  obtain ⟨-, ws₄, vs₄, -, h₄, rfl⟩ := yields_bind_iff.1 h₃
  obtain ⟨otherEnums, ws₅, vs₅, hotherEnums, h₅, rfl⟩ := yields_bind_iff.1 h₄
  obtain ⟨otherMessages, ws₆, vs₆, hotherMessages, h₆, rfl⟩ := yields_bind_iff.1 h₅
  obtain ⟨rfl, rfl⟩ := yields_pure_iff.1 h₆
  exact {
    ownEnums := forall₂_of_mapM_except hownEnums
    ownMessages := forall₂_mono_warnings (fun w hw => by simp [hw])
      hownMessages.forall₂_of_mapM_keyed
    services := forall₂_mono_warnings (fun w hw => by simp [hw]) hservices.forall₂_of_mapM_keyed
    otherEnums := forall₂_of_mapM_except hotherEnums
    otherMessages := forall₂_of_mapM_except hotherMessages }

/-! ## The type tables before the gates are set -/

namespace DraftsFrom

variable {retained : List RetainedService} {d : Drafts} {ws : List Warning}

theorem forall₂_ownMessages (h : lx.DraftsFrom retained d ws) :
    List.Forall₂ (fun m entry => entry.1 = m.id ∧
      ∃ names, lx.ofMessage m = .ok names ∧ entry.2 = lx.messageEntry m names)
      lx.api.ownMessages (d.ownMessages.map fun (id, parts) => (id, parts.entry)) := by
  have hown : ∀ m ∈ lx.api.ownMessages, lx.api.isOwn m.package = true := by
    simp [Api.ownMessages]
  rw [List.forall₂_map_right_iff]
  refine ((List.forall₂_and_left _ _).2 ⟨hown, h.ownMessages⟩).imp ?_
  rintro m entry ⟨hm, hkey, ws', -, hyields⟩
  obtain ⟨names, hnames, hentry, -⟩ := of_yields_annotateMessage hm hyields
  exact ⟨hkey, names, hnames, hentry⟩

theorem forall₂_ownEnums (h : lx.DraftsFrom retained d ws) :
    List.Forall₂ (fun e entry => entry.1 = e.id ∧
      ∃ names, lx.ofEnum e = .ok names ∧ entry.2 = lx.enumEntry e names)
      lx.api.ownEnums (d.ownEnums.map fun (id, parts) => (id, parts.entry)) := by
  have hown : ∀ e ∈ lx.api.ownEnums, lx.api.isOwn e.package = true := by
    simp [Api.ownEnums]
  rw [List.forall₂_map_right_iff]
  refine ((List.forall₂_and_left _ _).2 ⟨hown, h.ownEnums⟩).imp ?_
  rintro e entry ⟨he, hkey, hannotated⟩
  obtain ⟨names, hnames, hentry, -⟩ := of_annotateEnum_eq_ok he hannotated
  exact ⟨hkey, names, hnames, hentry⟩

theorem forall₂_otherMessages (h : lx.DraftsFrom retained d ws) :
    List.Forall₂ (fun m entry => entry.1 = m.id ∧
      ∃ names, lx.ofMessage m = .ok names ∧ entry.2 = lx.messageEntry m names)
      lx.api.otherMessages d.otherMessages := by
  have hother : ∀ m ∈ lx.api.otherMessages, lx.api.isOwn m.package = false := by
    simp [Api.otherMessages]
  refine ((List.forall₂_and_left _ _).2 ⟨hother, h.otherMessages⟩).imp ?_
  rintro m entry ⟨hm, hkey, hannotated⟩
  exact ⟨hkey, of_basicMessage_eq_ok hm hannotated⟩

theorem forall₂_otherEnums (h : lx.DraftsFrom retained d ws) :
    List.Forall₂ (fun e entry => entry.1 = e.id ∧
      ∃ names, lx.ofEnum e = .ok names ∧ entry.2 = lx.enumEntry e names)
      lx.api.otherEnums d.otherEnums := by
  have hother : ∀ e ∈ lx.api.otherEnums, lx.api.isOwn e.package = false := by
    simp [Api.otherEnums]
  refine ((List.forall₂_and_left _ _).2 ⟨hother, h.otherEnums⟩).imp ?_
  rintro e entry ⟨he, hkey, hannotated⟩
  exact ⟨hkey, of_basicEnum_eq_ok he hannotated⟩

/-- The annotations of all messages. -/
theorem forall₂_messages (h : lx.DraftsFrom retained d ws) :
    List.Forall₂ (fun m entry => entry.1 = m.id ∧
      ∃ names, lx.ofMessage m = .ok names ∧ entry.2 = lx.messageEntry m names)
      (lx.api.ownMessages ++ lx.api.otherMessages)
      ((d.ownMessages.map fun (id, parts) => (id, parts.entry)) ++ d.otherMessages) :=
  List.rel_append h.forall₂_ownMessages h.forall₂_otherMessages

/-- The annotations of all enums. -/
theorem forall₂_enums (h : lx.DraftsFrom retained d ws) :
    List.Forall₂ (fun e entry => entry.1 = e.id ∧
      ∃ names, lx.ofEnum e = .ok names ∧ entry.2 = lx.enumEntry e names)
      (lx.api.ownEnums ++ lx.api.otherEnums)
      ((d.ownEnums.map fun (id, parts) => (id, parts.entry)) ++ d.otherEnums) :=
  List.rel_append h.forall₂_ownEnums h.forall₂_otherEnums

/-- The message table holds the annotation of the last message with an ID. -/
theorem rel_messages (h : lx.DraftsFrom retained d ws) (id : String) :
    Option.Rel (fun m entry => ∃ names, lx.ofMessage m = .ok names ∧
      entry = lx.messageEntry m names)
      (lastWith? Message.id id (lx.api.ownMessages ++ lx.api.otherMessages)) d.messages[id]? :=
  Table.rel_ofEntries h.forall₂_messages id

/-- The enum table holds the annotation of the last enum with an ID. -/
theorem rel_enums (h : lx.DraftsFrom retained d ws) (id : String) :
    Option.Rel (fun e entry => ∃ names, lx.ofEnum e = .ok names ∧ entry = lx.enumEntry e names)
      (lastWith? Enum.id id (lx.api.ownEnums ++ lx.api.otherEnums)) d.enums[id]? :=
  Table.rel_ofEntries h.forall₂_enums id

/-- The annotations of the fields of own messages. -/
theorem forall₂_fields (h : lx.DraftsFrom retained d ws) :
    List.Forall₂ (fun f entry => entry.1 = f.id ∧
      ∃ m ∈ lx.api.ownMessages, ∃ names, lx.ofMessage m = .ok names ∧
        ∃ ws' ⊆ ws, Yields (lx.annotateField m names.name f) entry.2 ws')
      lx.api.ownFields (d.ownMessages.flatMap fun (_, parts) => parts.fields) := by
  refine List.rel_flatMap ((List.forall₂_and_left _ _).2 ⟨fun _ hm => hm, h.ownMessages⟩) ?_
  rintro m entry ⟨hm, -, ws', hws', hyields⟩
  have hown : lx.api.isOwn m.package = true := (List.mem_filter.1 hm).2
  obtain ⟨names, hnames, -, -, hfields⟩ := of_yields_annotateMessage hown hyields
  refine hfields.imp ?_
  rintro f field ⟨hkey, vs, hvs, hfield⟩
  exact ⟨hkey, m, hm, names, hnames, vs, List.Subset.trans hvs hws', hfield⟩

/-- The annotations of the oneofs of own messages. -/
theorem forall₂_oneofs (h : lx.DraftsFrom retained d ws) :
    List.Forall₂ (fun item entry => entry.1 = item.2.id ∧ ∃ names,
      lx.ofMessage item.1 = .ok names ∧ entry.2 = lx.annotateOneOf item.1 names item.2)
      lx.api.ownOneOfs (d.ownMessages.flatMap fun (_, parts) => parts.oneofs) := by
  refine List.rel_flatMap ((List.forall₂_and_left _ _).2 ⟨fun _ hm => hm, h.ownMessages⟩) ?_
  rintro m ⟨id, parts⟩ ⟨hm, -, ws', -, hyields⟩
  have hown : lx.api.isOwn m.package = true := (List.mem_filter.1 hm).2
  obtain ⟨names, hnames, -, honeofs, -⟩ := of_yields_annotateMessage hown hyields
  simp only at honeofs ⊢
  rw [honeofs, List.forall₂_map_left_iff, List.forall₂_map_right_iff, List.forall₂_same]
  exact fun o _ => ⟨rfl, names, hnames, rfl⟩

/-- The oneof table holds the annotation of the last oneof with an ID. -/
theorem rel_oneofs (h : lx.DraftsFrom retained d ws) (id : String) :
    Option.Rel (fun item entry => ∃ names, lx.ofMessage item.1 = .ok names ∧
      entry = lx.annotateOneOf item.1 names item.2)
      (lastWith? (·.2.id) id lx.api.ownOneOfs)
      (Table.ofEntries (d.ownMessages.flatMap fun (_, parts) => parts.oneofs))[id]? :=
  Table.rel_ofEntries h.forall₂_oneofs id

/-- The annotations of the values of own enums. -/
theorem forall₂_values (h : lx.DraftsFrom retained d ws) :
    List.Forall₂ (fun item entry => entry.1 = item.2.id ∧ entry.2 = annotateValue item.1 item.2)
      lx.api.ownValues (d.ownEnums.flatMap fun (_, parts) => parts.values) := by
  refine List.rel_flatMap ((List.forall₂_and_left _ _).2 ⟨fun _ he => he, h.ownEnums⟩) ?_
  rintro e ⟨id, parts⟩ ⟨he, -, hannotated⟩
  have hown : lx.api.isOwn e.package = true := (List.mem_filter.1 he).2
  obtain ⟨-, -, -, hvalues⟩ := of_annotateEnum_eq_ok hown hannotated
  simp only at hvalues ⊢
  rw [hvalues, List.forall₂_map_left_iff, List.forall₂_map_right_iff, List.forall₂_same]
  exact fun v _ => ⟨rfl, rfl⟩

/-- The value table holds the annotation of the last value with an ID. -/
theorem rel_values (h : lx.DraftsFrom retained d ws) (id : String) :
    Option.Rel (fun item entry => entry = annotateValue item.1 item.2)
      (lastWith? (·.2.id) id lx.api.ownValues)
      (Table.ofEntries (d.ownEnums.flatMap fun (_, parts) => parts.values))[id]? :=
  Table.rel_ofEntries h.forall₂_values id

/-- The annotations of the generated methods. -/
theorem forall₂_methods (h : lx.DraftsFrom retained d ws) :
    List.Forall₂ (fun m entry => entry.1 = m.id ∧ ∃ serviceName, ∃ ws' ⊆ ws,
      Yields (lx.annotateMethod (Drafts.known d.ownEnums d.ownMessages) serviceName m) entry.2 ws')
      (retained.flatMap (·.methods)) (d.services.flatMap fun (_, parts) => parts.methods) := by
  refine List.rel_flatMap h.services ?_
  rintro r entry ⟨-, ws', hws', hyields⟩
  refine (of_yields_annotateService hyields).imp ?_
  rintro m method ⟨hkey, vs, hvs, hmethod⟩
  exact ⟨hkey, _, vs, List.Subset.trans hvs hws', hmethod⟩

end DraftsFrom

end Lexicon

end ApiAnnotator
