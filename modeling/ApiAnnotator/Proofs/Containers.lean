import ApiAnnotator.Proofs.JoinedParts
import ApiAnnotator.Proofs.Outcome
import ApiAnnotator.Text.Spellings
import Mathlib.Data.List.Find

/-!
# The adapter of a field has the shape of its type

The adapter of a field is wrapped by one list of conditions and its type by another one. They ask in
a different order: the adapter of a oneof member is never wrapped, while its type is optional if the
field says so. So both have the same outermost wrapper, pointers aside, for every field but a member
of a oneof that holds no message and tells absence from the default value.

The shape of a type is read off its text. A oneof member that holds a message has the type behind a
pointer, so its shape is that of the name of the message. No name looks like a wrapper unless the
options give it a module or an alias that does.

## Main definitions

* `Container`, `Container.outermost` — the outermost wrapper in the text of a type or an adapter.
* `Field.adapterContainer`, `Field.typeContainer` — the two lists of conditions.
* `Field.isOptionalMember` — the fields on which they disagree.

## Main statements

* `Api.outermost_fieldAdapter?` — the shape of an adapter.
* `Lexicon.outermost_fieldType` — the shape of a type.
* `Lexicon.outermost_adapter_eq_iff` — **when the two shapes are the same**.
-/

namespace ApiAnnotator

/-! ## Wrappers in texts -/

namespace Text

variable {lead other text : String}

/-- Of two beginnings of a text, one starts with the other. -/
theorem prefix_or_prefix_of_isSome (h : (afterPrefix? lead (other ++ text)).isSome = true) :
    lead.toList <+: other.toList ∨ other.toList <+: lead.toList := by
  rw [isSome_afterPrefix?_iff, String.toList_append] at h
  exact List.prefix_or_prefix_of_prefix h (List.prefix_append _ _)

end Text

/-- The outermost wrapper of a type. -/
inductive Container where
  | bare
  | list
  | optional
  | map
  deriving DecidableEq

namespace Container

/-- The wrappers with the texts that they start with. -/
def leads : List (String × Container) :=
  [("std::vec::Vec<", .list), ("std::option::Option<", .optional),
    ("std::collections::HashMap<", .map)]

/-- The text that a pointer starts with. -/
def boxLead : String := "std::boxed::Box<"

/-- The wrapper that a text starts with. -/
def ofText (text : String) : Container :=
  ((leads.find? fun entry => (Text.afterPrefix? entry.1 text).isSome).map Prod.snd).getD .bare

/-- The outermost wrapper in a text, which may be behind a pointer. -/
def outermost (text : String) : Container :=
  ofText ((Text.afterPrefix? boxLead text).getD text)

/-- A text that starts with a wrapper starts with no other one. -/
theorem ofText_append {lead : String} {c : Container} (h : (lead, c) ∈ leads) (rest : String) :
    ofText (lead ++ rest) = c := by
  have hdistinct : ∀ e ∈ leads, ∀ e' ∈ leads, e.1.toList <+: e'.1.toList → e = e' := by decide
  cases hfound : leads.find? fun e => (Text.afterPrefix? e.1 (lead ++ rest)).isSome with
  | none =>
      have hlead := List.find?_eq_none.1 hfound (lead, c) h
      simp [Text.afterPrefix?_append] at hlead
  | some e =>
      have he := List.mem_of_find?_eq_some hfound
      have hsome : (Text.afterPrefix? e.1 (lead ++ rest)).isSome = true := by
        simpa using List.find?_some hfound
      have heq : e = (lead, c) := by
        rcases Text.prefix_or_prefix_of_isSome hsome with hle | hle
        · exact hdistinct e he _ h hle
        · exact (hdistinct _ h e he hle).symm
      rw [ofText, hfound, heq]
      rfl

/-- A text that starts with a wrapper does not start with a pointer. -/
theorem outermost_append {lead : String} {c : Container} (h : (lead, c) ∈ leads) (rest : String) :
    outermost (lead ++ rest) = c := by
  have hdistinct : ∀ e ∈ leads,
      ¬ (boxLead.toList <+: e.1.toList ∨ e.1.toList <+: boxLead.toList) := by decide
  have hbox : Text.afterPrefix? boxLead (lead ++ rest) = none := by
    rw [← Option.not_isSome_iff_eq_none]
    exact fun hsome => hdistinct _ h (Text.prefix_or_prefix_of_isSome hsome)
  rw [outermost, hbox, Option.getD_none, ofText_append h]

/-- What closes a pointer is no part of what a wrapper starts with. -/
theorem ofText_append_close (text : String) : ofText (text ++ ">") = ofText text := by
  have hopen : ∀ e ∈ leads, e.1.toList.getLast? = some '<' := by decide
  have hsame : ∀ e ∈ leads, (Text.afterPrefix? e.1 (text ++ ">")).isSome =
      (Text.afterPrefix? e.1 text).isSome := by
    intro e he
    have hclose : e.1.toList ≠ text.toList ++ ['>'] := by
      intro heq
      have hlast := hopen e he
      simp [heq] at hlast
    rw [Bool.eq_iff_iff, Text.isSome_afterPrefix?_iff, Text.isSome_afterPrefix?_iff,
      String.toList_append]
    exact List.prefix_concat_iff.trans (or_iff_right hclose)
  rw [ofText, ofText, List.find?_congr hsame]

@[simp] theorem outermost_vecOf (element : String) : outermost (vecOf element) = .list := by
  have hlead : ("std::vec::Vec<", .list) ∈ leads := by simp [leads]
  have htext : vecOf element = "std::vec::Vec<" ++ (element ++ ">") := String.append_assoc
  rw [htext, outermost_append hlead]

@[simp] theorem outermost_optionOf (element : String) :
    outermost (optionOf element) = .optional := by
  have hlead : ("std::option::Option<", .optional) ∈ leads := by simp [leads]
  have htext : optionOf element = "std::option::Option<" ++ (element ++ ">") := String.append_assoc
  rw [htext, outermost_append hlead]

@[simp] theorem outermost_mapOf (key value : String) : outermost (mapOf key value) = .map := by
  have hlead : ("std::collections::HashMap<", .map) ∈ leads := by simp [leads]
  have htext : mapOf key value =
      "std::collections::HashMap<" ++ (key ++ (", " ++ (value ++ ">"))) := by
    unfold mapOf
    simp only [String.append_assoc]
  rw [htext, outermost_append hlead]

/-- A pointer has the shape of what it points to. -/
@[simp] theorem outermost_boxOf (element : String) :
    outermost (boxOf element) = ofText element := by
  have htext : boxOf element = boxLead ++ (element ++ ">") := String.append_assoc
  have hbox : Text.afterPrefix? boxLead (boxOf element) = some (element ++ ">") := by
    rw [htext, Text.afterPrefix?_append]
  rw [outermost, hbox, Option.getD_some, ofText_append_close]

/-- The type of a scalar has no wrapper. -/
theorem outermost_scalarType? {kind : FieldKind} {scalar : String}
    (h : kind.scalarType? = some scalar) : outermost scalar = .bare := by
  have hall : ∀ scalar ∈ kind.scalarType?, outermost scalar = .bare := by
    cases kind <;> decide
  exact hall scalar h

/-- The adapter of a scalar has no wrapper. -/
theorem outermost_adapter? {alphabet : BytesAlphabet} {kind : FieldKind} {adapter : String}
    (h : kind.adapter? alphabet = some adapter) : outermost adapter = .bare := by
  have hall : ∀ adapter ∈ kind.adapter? alphabet, outermost adapter = .bare := by
    cases kind <;> cases alphabet <;> decide
  exact hall adapter h

end Container

/-! ## Shapes of adapters -/

namespace Field

variable {f : Field} {alphabet : BytesAlphabet} {adapter : String}

/-- The shape of the adapter of a field that has one. -/
def adapterContainer (f : Field) : Container :=
  if f.map then .map
  else if f.repeated then .list
  else if f.oneof.isSome then .bare
  else if f.optional || f.kind = .message then .optional
  else .bare

/-- A member of a oneof that holds a single value, but no message, and tells absence from the
default value. -/
def isOptionalMember (f : Field) : Bool :=
  !f.map && !f.repeated && f.oneof.isSome && f.optional && f.kind ≠ .message

/-- Only scalars and wrapper messages have an adapter, and these adapters have no wrapper. -/
theorem of_elementAdapter?_eq_some (h : f.elementAdapter? alphabet = some adapter) :
    Container.outermost adapter = .bare ∧ f.isWrapper = decide (f.kind = .message) ∧
      f.kind ≠ .enum := by
  unfold elementAdapter? at h
  by_cases hkind : f.kind = .message
  · have hnames : ∀ entry ∈ wrappedKinds,
        ("Value".toList.isSuffixOf entry.1.toList && entry.1 ≠ "Value") = true := by decide
    rw [if_pos hkind] at h
    obtain ⟨id, hid, hadapter⟩ := Option.bind_eq_some_iff.1 h
    obtain ⟨name, hname, hrest⟩ := Option.bind_eq_some_iff.1 hadapter
    obtain ⟨kind, hlookup, hscalar⟩ := Option.bind_eq_some_iff.1 hrest
    obtain ⟨before, after, hsplit, -⟩ := List.lookup_eq_some_iff.1 hlookup
    have hentry : (name, kind) ∈ wrappedKinds := by simp [hsplit]
    refine ⟨Container.outermost_adapter? hscalar, ?_, by simp [hkind]⟩
    rw [isWrapper, hid, Option.bind_some, hname, Option.any_some, hnames _ hentry, Bool.and_true]
  · rw [if_neg hkind] at h
    refine ⟨Container.outermost_adapter? h, by simp [isWrapper, hkind], ?_⟩
    intro henum
    simp [henum, FieldKind.adapter?] at h

end Field

/-- The adapter of a map is made of those of its keys and its values. -/
theorem Api.exists_mapOf_of_mapAdapter? {api : Api} {alphabet : BytesAlphabet} {f : Field}
    {adapter : String} (h : api.mapAdapter? alphabet f = some adapter) :
    ∃ key value, adapter = mapOf key value := by
  obtain ⟨entry, -, hentry⟩ := Option.bind_eq_some_iff.1 h
  dsimp only at hentry
  split at hentry
  · cases hentry
  · exact ⟨_, _, (Option.some_inj.1 hentry).symm⟩

/-- The shape of an adapter. -/
theorem Api.outermost_fieldAdapter? {api : Api} {alphabet : BytesAlphabet} {f : Field}
    {adapter : String} (h : api.fieldAdapter? alphabet f = some adapter) :
    Container.outermost adapter = f.adapterContainer := by
  unfold fieldAdapter? at h
  unfold Field.adapterContainer
  by_cases hmap : f.map = true
  · rw [if_pos hmap] at h ⊢
    obtain ⟨key, value, rfl⟩ := exists_mapOf_of_mapAdapter? h
    exact Container.outermost_mapOf key value
  rw [if_neg hmap] at h ⊢
  obtain ⟨element, helement, hwrapped⟩ := Option.bind_eq_some_iff.1 h
  obtain ⟨hbare, hwrapper, -⟩ := Field.of_elementAdapter?_eq_some helement
  rw [hwrapper] at hwrapped
  by_cases hrepeated : f.repeated = true
  · rw [if_pos hrepeated] at hwrapped ⊢
    rw [← Option.some_inj.1 hwrapped, Container.outermost_vecOf]
  rw [if_neg hrepeated] at hwrapped ⊢
  by_cases hmember : f.oneof.isSome = true
  · rw [if_pos hmember] at hwrapped ⊢
    rw [← Option.some_inj.1 hwrapped, hbare]
  rw [if_neg hmember] at hwrapped ⊢
  by_cases habsent : (f.optional || decide (f.kind = .message)) = true
  · rw [if_pos habsent] at hwrapped ⊢
    rw [← Option.some_inj.1 hwrapped, Container.outermost_optionOf]
  · rw [if_neg habsent] at hwrapped ⊢
    rw [← Option.some_inj.1 hwrapped, hbare]

/-! ## Shapes of types -/

/-- The shape of the type of a field, given the type of a single value. -/
def Field.typeContainer (f : Field) (element : String) : Container :=
  if f.map then .map
  else if f.repeated then .list
  else if f.kind = .message then
    if f.oneof.isSome then .ofText element else .optional
  else if f.optional then .optional
  else .bare

namespace Field

variable {f : Field} {element : String}

/-- The type of a single message. As a oneof member it is behind a pointer. -/
theorem outermost_wrapType_of_message {boxed : Bool} (hsingle : f.repeated = false)
    (hkind : f.kind = .message) (hboxed : f.oneof.isSome = true → boxed = true) :
    Container.outermost (f.wrapType boxed element) =
      if f.oneof.isSome then .ofText element else .optional := by
  unfold wrapType
  rw [if_neg (by simp [hsingle])]
  by_cases hmember : f.oneof.isSome = true
  · rw [if_pos (hboxed hmember), if_pos hmember, if_pos hmember, Container.outermost_boxOf]
  · have hpresence : (f.optional || decide (f.kind = .message) && f.oneof.isNone) = true := by
      simp [hkind, Option.not_isSome_iff_eq_none.1 hmember]
    cases boxed <;> simp [hmember, hpresence]

/-- The type of a single scalar. -/
theorem outermost_wrapType_of_scalar (hsingle : f.repeated = false) (hkind : f.kind ≠ .message)
    (hbare : Container.outermost element = .bare) :
    Container.outermost (f.wrapType false element) = if f.optional then .optional else .bare := by
  unfold wrapType
  cases f.optional <;> simp [hsingle, hkind, hbare]

end Field

namespace Lexicon

section FieldTypes

variable [Speller] {lx : Lexicon} {id : String} {f : Field} {type : ResolvedType}
  {ws : List Warning}

/-- The type of a map is made of those of its keys and its values. -/
theorem exists_mapOf_of_mapType {text : String} (h : Yields (lx.mapType f) text ws) :
    ∃ key value, text = mapOf key value := by
  unfold mapType at h
  split at h
  · obtain ⟨key, _, _, -, hrest, -⟩ := yields_bind_iff.1 h
    obtain ⟨value, _, _, -, hboth, -⟩ := yields_bind_iff.1 hrest
    exact ⟨key, value, (yields_pure_iff.1 hboth).1.symm⟩
  · obtain ⟨_, _, _, -, hunit, -⟩ := yields_bind_iff.1 h
    exact ⟨unitType, unitType, (yields_pure_iff.1 hunit).1.symm⟩

/-- The type of a single value of a scalar has no wrapper. -/
theorem outermost_elementType {element referrer : String} (hkind : f.kind ≠ .message)
    (hkind' : f.kind ≠ .enum) (h : Yields (lx.elementType f referrer) element ws) :
    Container.outermost element = .bare := by
  unfold elementType at h
  cases hscalar : f.kind.scalarType? with
  | some scalar =>
      rw [hscalar] at h
      obtain ⟨rfl, -⟩ := yields_pure_iff.1 h
      exact Container.outermost_scalarType? hscalar
  | none =>
      cases hf : f.kind <;> simp_all [FieldKind.scalarType?]

/-- The shape of a type. -/
theorem outermost_fieldType (hkind : f.map = false → f.kind ≠ .enum)
    (h : Yields (lx.fieldType (lx.api.needsBox id f) f) type ws) :
    Container.outermost type.full = f.typeContainer type.element := by
  unfold fieldType at h
  unfold Field.typeContainer
  by_cases hmap : f.map = true
  · rw [if_pos hmap] at h ⊢
    obtain ⟨text, _, _, htext, hpair, -⟩ := yields_bind_iff.1 h
    obtain ⟨rfl, -⟩ := yields_pure_iff.1 hpair
    obtain ⟨key, value, rfl⟩ := exists_mapOf_of_mapType htext
    exact Container.outermost_mapOf key value
  rw [if_neg hmap] at h ⊢
  rw [Bool.not_eq_true] at hmap
  obtain ⟨element, _, _, helement, hpair, -⟩ := yields_bind_iff.1 h
  obtain ⟨rfl, -⟩ := yields_pure_iff.1 hpair
  by_cases hrepeated : f.repeated = true
  · rw [if_pos hrepeated, Field.wrapType, if_pos hrepeated, Container.outermost_vecOf]
  rw [if_neg hrepeated]
  rw [Bool.not_eq_true] at hrepeated
  -- only messages are behind pointers, and in a oneof all of them are
  by_cases hmessage : f.kind = .message
  · rw [if_pos hmessage]
    refine Field.outermost_wrapType_of_message hrepeated hmessage fun hmember => ?_
    simp [Api.needsBox, Field.isSingularMessage, hmessage, hrepeated, hmap, hmember]
  · have hunboxed : lx.api.needsBox id f = false := by
      simp [Api.needsBox, Field.isSingularMessage, hmessage]
    rw [if_neg hmessage, hunboxed]
    exact Field.outermost_wrapType_of_scalar hrepeated hmessage
      (outermost_elementType hmessage (hkind hmap) helement)

/-- **When the two shapes are the same.** The adapter of a field, if it has one, has the same
outermost wrapper as the type of the field, pointers aside, unless the field is an optional member
of a oneof. For a message in a oneof the name of the message must not look like a wrapper. -/
theorem outermost_adapter_eq_iff {alphabet : BytesAlphabet} {adapter : String}
    (hadapter : lx.api.fieldAdapter? alphabet f = some adapter)
    (htype : Yields (lx.fieldType (lx.api.needsBox id f) f) type ws) :
    Container.outermost adapter = Container.outermost type.full ↔
      f.isOptionalMember = false ∧
        (f.isSingularMessage = true → f.oneof.isSome = true →
          Container.ofText type.element = .bare) := by
  have hkind : f.map = false → f.kind ≠ .enum := by
    intro hmap
    rw [Api.fieldAdapter?, hmap, if_neg Bool.false_ne_true] at hadapter
    obtain ⟨element, helement, -⟩ := Option.bind_eq_some_iff.1 hadapter
    exact (Field.of_elementAdapter?_eq_some helement).2.2
  rw [Api.outermost_fieldAdapter? hadapter, outermost_fieldType hkind htype]
  unfold Field.adapterContainer Field.typeContainer Field.isOptionalMember Field.isSingularMessage
  by_cases hmap : f.map = true
  · simp [hmap]
  by_cases hrepeated : f.repeated = true
  · simp [hmap, hrepeated]
  -- of the fields with a single value only the oneof members without a message can disagree
  by_cases hmember : f.oneof.isSome = true <;> by_cases hmessage : f.kind = .message
  · simp [hmap, hrepeated, hmember, hmessage, eq_comm]
  · cases f.optional <;> simp [hmap, hrepeated, hmember, hmessage]
  · simp [hmap, hrepeated, hmember, hmessage]
  · cases f.optional <;> simp [hmap, hrepeated, hmember, hmessage]

end FieldTypes

/-- The adapter of an optional number in a oneof is not wrapped, but the type of the field is. -/
theorem outermost_adapter_ne_of_optional_member :
    let count : Field :=
      { id := ".p.M.count", name := "count", kind := .int64, optional := true
        oneof := some ".p.M.kind" }
    let kind : OneOf := { id := ".p.M.kind", name := "kind" }
    let m : Message :=
      { id := ".p.M", name := "M", package := "p", fields := [count], oneofs := [kind] }
    let api : Api := { packageName := "p", messages := [m] }
    let lx := Lexicon.of api {}
    let adapter := "wkt::internal::I64"
    let type : ResolvedType := ⟨"std::option::Option<i64>", "i64"⟩
    api.fieldAdapter? .standard count = some adapter ∧
      Yields (lx.fieldType (api.needsBox m.id count) count) type [] ∧
      Container.outermost adapter ≠ Container.outermost type.full := by
  intro count kind m api lx adapter type
  have hadapter : lx.api.fieldAdapter? .standard count = some adapter := rfl
  have htype : Yields (lx.fieldType (lx.api.needsBox m.id count) count) type [] := ⟨rfl, rfl⟩
  refine ⟨hadapter, htype, fun hsame => ?_⟩
  have hnot := ((outermost_adapter_eq_iff hadapter htype).1 hsame).1
  simp [Field.isOptionalMember, count] at hnot

end Lexicon

end ApiAnnotator
