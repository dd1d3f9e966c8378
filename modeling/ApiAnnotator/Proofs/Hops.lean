import ApiAnnotator.Accessor
import ApiAnnotator.Proofs.Alphabet
import ApiAnnotator.Proofs.Containers
import ApiAnnotator.Proofs.References
import ApiAnnotator.Text.Spellings

/-!
# Accessors fit the types of fields

Whether a field can be absent is decided in two places: an accessor chooses the hop to the field,
and the type of the field is built around the type of a single value. Neither asks the other, and a
pointer comes in between where a message could contain itself. Still they agree. A hop goes into an
optional value exactly where the type is one, and to the field itself where it is not.

A field path goes through one field for each of its names. If the fields of a message have distinct
names, these fields are determined, and the accessor is made of the hops to them, one after the
other. What an accessor ends in is read off its text: the last name in it follows the last dot, and
before that dot stands what the hop calls its argument.

## Main definitions

* `getterHop`, `optionalHop`, `directHop`, `textHop` — the forms of the steps of an accessor.
* `Api.Follows` — a field path goes through fields.
* `ResolvedType.HoldsOptional` — a type is that of an optional value, pointers aside.
* `Field.HopFits` — the hop to a field is the one for its type.

## Main statements

* `Api.hops_of_follows`, `Api.exists_follows_of_hops` — an accessor goes along the field path.
* `Lexicon.holdsOptional_iff` — when the type of a field is that of an optional value.
* `textHop_suffix_iff` — what an accessor ends in.
* `accessor_fits_types` — **accessors fit the types of fields**.
-/

namespace ApiAnnotator

/-! ## The forms of hops -/

/-- The hop through the getter of a oneof member. -/
def getterHop (name : String) : String :=
  ".and_then(|m| m." ++ name ++ "())"

/-- The hop into an optional value. -/
def optionalHop (name : String) : String :=
  ".and_then(|m| m." ++ name ++ ".as_ref())"

/-- The hop to a value that is always there. -/
def directHop (name : String) : String :=
  ".map(|m| &m." ++ name ++ ")"

/-- The step from a text to its slice. -/
def textHop : String := ".map(|s| s.as_str())"

theorem optionalHop_ne_directHop (name name' : String) : optionalHop name ≠ directHop name' := by
  have hleads : ∀ rest rest' : String, ".and_then(|m| m." ++ rest ≠ ".map(|m| &m." ++ rest' := by
    intro rest rest' h
    have hchars := congrArg String.toList h
    simp [String.toList_append] at hchars
  intro h
  exact hleads (name ++ ".as_ref())") (name' ++ ")")
    (String.append_assoc.symm.trans (h.trans String.append_assoc))

section

variable {f : Field}

/-- A field that holds a single message holds no single text. -/
theorem Field.isSingularString_of_isSingularMessage (h : f.isSingularMessage = true) :
    f.isSingularString = false := by
  have hkind : f.kind = .message := by
    simp only [Field.isSingularMessage, Bool.and_eq_true, decide_eq_true_eq] at h
    exact h.1.1
  simp [Field.isSingularString, hkind]

variable [Speller]

/-- A oneof member is read through its getter. -/
theorem hop_of_member (hmember : f.oneof.isSome = true) :
    hop f = getterHop (Identifier.fieldName f.name) := by
  rw [hop, if_pos hmember]
  rfl

/-- Any other field is read by one of the two other hops. -/
theorem hop_of_free (hfree : f.oneof = none) :
    hop f = if (f.optional || f.isSingularMessage) = true
      then optionalHop (Identifier.fieldName f.name)
      else directHop (Identifier.fieldName f.name) := by
  rw [hop, hfree, if_neg (by simp)]
  rfl

theorem hop_eq_optionalHop_iff (hfree : f.oneof = none) :
    hop f = optionalHop (Identifier.fieldName f.name) ↔
      (f.optional || f.isSingularMessage) = true := by
  rw [hop_of_free hfree]
  split
  · simp_all
  · simp_all [(optionalHop_ne_directHop _ _).symm]

theorem hop_eq_directHop_iff (hfree : f.oneof = none) :
    hop f = directHop (Identifier.fieldName f.name) ↔
      ¬ (f.optional || f.isSingularMessage) = true := by
  rw [hop_of_free hfree]
  split
  · simp_all [optionalHop_ne_directHop]
  · simp_all

end

/-! ## Paths of fields -/

/-- With distinct names, a field is found under its name. -/
theorem Message.field?_of_mem {m : Message} (hnames : (m.fields.map (·.name)).Nodup) {f : Field}
    (hf : f ∈ m.fields) : m.field? f.name = some f := by
  cases hfound : m.field? f.name with
  | none =>
      have hnone := List.find?_eq_none.1 hfound f hf
      simp at hnone
  | some g =>
      have hg := List.mem_of_find?_eq_some hfound
      have hname : g.name = f.name := by simpa using List.find?_some hfound
      rw [List.inj_on_of_nodup_map hnames hg hf hname]

namespace Api

/-- A field path that starts in a message goes through the given fields, each listed with the
message that it is a field of. All but the last one hold a single message that is declared. -/
inductive Follows (api : Api) : Message → List String → List (Message × Field) → Prop
  | last {m : Message} {f : Field} : f ∈ m.fields → Follows api m [f.name] [(m, f)]
  | through {m next : Message} {f : Field} {rest : List String} {steps : List (Message × Field)} :
      f ∈ m.fields → f.isSingularMessage = true → api.message? f.typeRef = some next →
      Follows api next rest steps → Follows api m (f.name :: rest) ((m, f) :: steps)

/-- Whether the last of the fields holds a single text. -/
def endsInText (steps : List (Message × Field)) : Bool :=
  steps.getLast?.any (·.2.isSingularString)

/-- The text of an accessor that goes through the given fields. -/
def along [Speller] (steps : List (Message × Field)) : String :=
  String.join (steps.map fun step => hop step.2) ++ if endsInText steps then textHop else ""

variable {api : Api} {m : Message} {path : List String} {steps : List (Message × Field)}

theorem Follows.path_ne_nil (h : api.Follows m path steps) : path ≠ [] := by
  cases h <;> simp

theorem Follows.steps_ne_nil (h : api.Follows m path steps) : steps ≠ [] := by
  cases h <;> simp

/-- A field path goes through fields of the messages at hand. -/
theorem Follows.mem_fields (h : api.Follows m path steps) {step : Message × Field}
    (hstep : step ∈ steps) : step.2 ∈ step.1.fields := by
  induction h with
  | last hf =>
      obtain rfl := List.mem_singleton.1 hstep
      exact hf
  | through hf _ _ _ ih =>
      rcases List.mem_cons.1 hstep with rfl | hstep
      · exact hf
      · exact ih hstep

variable [Speller]

theorem along_singleton (m : Message) (f : Field) : along [(m, f)] = lastHop f := by
  by_cases htext : f.isSingularString = true <;> simp [along, endsInText, lastHop, textHop, htext]

theorem along_cons (m : Message) (f : Field) (hsteps : steps ≠ []) :
    along ((m, f) :: steps) = hop f ++ along steps := by
  have hend : endsInText ((m, f) :: steps) = endsInText steps := by
    rw [endsInText, endsInText, List.getLast?_cons_of_ne_nil hsteps]
  simp [along, hend, String.append_assoc]

/-- Before its last name, a field path goes on in the message of a field. -/
theorem hops_cons (api : Api) (m : Message) (name : String) {rest : List String}
    (hrest : rest ≠ []) :
    api.hops m (name :: rest) = (do
      let f ← fieldOf m name
      let next ← api.messageOf name f
      return hop f ++ (← api.hops next rest)) := by
  rw [hops]
  exact hrest

/-- The steps along a field path are the hops to the fields that it goes through. -/
theorem hops_of_follows (h : api.Follows m path steps) (hm : (m.fields.map (·.name)).Nodup)
    (hnames : ∀ m ∈ api.messages, (m.fields.map (·.name)).Nodup) :
    api.hops m path = .ok (along steps) := by
  induction h with
  | @last m f hf =>
      rw [hops, fieldOf, Message.field?_of_mem hm hf, along_singleton]
      rfl
  | @through m next f rest steps hf hsingle hnext hrest ih =>
      obtain ⟨name, rest, rfl⟩ := List.exists_cons_of_ne_nil hrest.path_ne_nil
      have hmem := (of_message?_eq_some hnext).1
      rw [hops_cons api m f.name (List.cons_ne_nil name rest), fieldOf,
        Message.field?_of_mem hm hf, along_cons m f hrest.steps_ne_nil]
      simp only [bind, Except.bind, messageOf, hsingle, hnext, if_true, ih (hnames next hmem)]
      rfl

omit [Speller] in
theorem of_fieldOf_eq_ok {name : String} {f : Field} (h : fieldOf m name = .ok f) :
    f ∈ m.fields ∧ f.name = name := by
  unfold fieldOf at h
  cases hfound : m.field? name with
  | none => simp [hfound] at h
  | some g =>
      rw [hfound] at h
      obtain rfl := Except.ok.inj h
      exact ⟨List.mem_of_find?_eq_some hfound, by simpa using List.find?_some hfound⟩

omit [Speller] in
theorem of_messageOf_eq_ok {name : String} {f : Field} {next : Message}
    (h : api.messageOf name f = .ok next) :
    f.isSingularMessage = true ∧ api.message? f.typeRef = some next := by
  unfold messageOf at h
  by_cases hsingle : f.isSingularMessage = true
  · cases hfound : api.message? f.typeRef with
    | none => simp [hsingle, hfound] at h
    | some next' =>
        simp only [hsingle, hfound, if_true] at h
        exact ⟨hsingle, by rw [Except.ok.inj h]⟩
  · simp [hsingle] at h

/-- A field path that an accessor is made for goes through fields. -/
theorem exists_follows_of_hops {text : String} (h : api.hops m path = .ok text) :
    ∃ steps, api.Follows m path steps := by
  fun_induction hops api m path generalizing text with
  | case1 m => cases h
  | case2 m name =>
      obtain ⟨f, hf, -⟩ := except_bind_eq_ok_iff.1 h
      obtain ⟨hmem, rfl⟩ := of_fieldOf_eq_ok hf
      exact ⟨[(m, f)], .last hmem⟩
  | case3 m name rest hrest ih =>
      obtain ⟨f, hf, hnext⟩ := except_bind_eq_ok_iff.1 h
      obtain ⟨next, hmessage, hhops⟩ := except_bind_eq_ok_iff.1 hnext
      obtain ⟨tail, htail, -⟩ := except_bind_eq_ok_iff.1 hhops
      obtain ⟨hmem, rfl⟩ := of_fieldOf_eq_ok hf
      obtain ⟨hsingle, hfound⟩ := of_messageOf_eq_ok hmessage
      obtain ⟨steps, hsteps⟩ := ih next htail
      exact ⟨(m, f) :: steps, .through hmem hsingle hfound hsteps⟩

end Api

/-! ## Types of optional values -/

/-- The type is that of an optional value: of a single value, which may be behind a pointer. -/
def ResolvedType.HoldsOptional (type : ResolvedType) : Prop :=
  type.full = optionOf type.element ∨ type.full = optionOf (boxOf type.element)

/-- What is closed by a bracket is longer than what is inside. -/
theorem length_lt_bracketed (lead text : String) : text.length < (lead ++ text ++ ">").length := by
  have hclose : 0 < ">".length := by decide
  generalize ">" = close at hclose ⊢
  rw [String.length_append, String.length_append]
  omega

/-- A bare value is not optional. -/
theorem ResolvedType.not_holdsOptional_bare (element : String) :
    ¬ (ResolvedType.mk element element).HoldsOptional := by
  have hbox : element.length < (boxOf element).length := length_lt_bracketed _ element
  have hboth : (boxOf element).length < (optionOf (boxOf element)).length :=
    length_lt_bracketed _ (boxOf element)
  rintro (h | h)
  · exact (length_lt_bracketed _ element).ne (congrArg String.length h)
  · exact (hbox.trans hboth).ne (congrArg String.length h)

/-- A list is not optional. -/
theorem ResolvedType.not_holdsOptional_vecOf (element : String) :
    ¬ (ResolvedType.mk (vecOf element) element).HoldsOptional := by
  rintro (h | h) <;> simpa using congrArg Container.outermost h

/-- **When the type of a field is that of an optional value**: if the field tells absence from the
default value, or holds a single message. -/
theorem Lexicon.holdsOptional_iff [Speller] {lx : Lexicon} {id : String} {f : Field}
    {type : ResolvedType} {ws : List Warning} (hfree : f.oneof = none)
    (hsingle : ¬ (f.optional = true ∧ (f.repeated = true ∨ f.map = true)))
    (h : Yields (lx.fieldType (lx.api.needsBox id f) f) type ws) :
    type.HoldsOptional ↔ (f.optional || f.isSingularMessage) = true := by
  unfold fieldType at h
  by_cases hmap : f.map = true
  · rw [if_pos hmap] at h
    obtain ⟨text, _, _, -, hpair, -⟩ := yields_bind_iff.1 h
    obtain ⟨rfl, -⟩ := yields_pure_iff.1 hpair
    have hnot := ResolvedType.not_holdsOptional_bare text
    simp_all [Field.isSingularMessage]
  rw [if_neg hmap] at h
  obtain ⟨element, _, _, -, hpair, -⟩ := yields_bind_iff.1 h
  obtain ⟨rfl, -⟩ := yields_pure_iff.1 hpair
  unfold Field.wrapType
  by_cases hrepeated : f.repeated = true
  · have hnot := ResolvedType.not_holdsOptional_vecOf element
    simp_all [Field.isSingularMessage]
  rw [if_neg hrepeated]
  -- only single messages are behind pointers
  by_cases hboxed : lx.api.needsBox id f = true
  · have hmessage : f.isSingularMessage = true := (Bool.and_eq_true_iff.1 hboxed).1
    simp [hboxed, hfree, hmessage, ResolvedType.HoldsOptional]
  · rw [if_neg hboxed]
    have hpresence : (f.optional || decide (f.kind = .message) && f.oneof.isNone) =
        (f.optional || f.isSingularMessage) := by
      simp_all [Field.isSingularMessage]
    rw [hpresence]
    by_cases hoptional : (f.optional || f.isSingularMessage) = true
    · simp [hoptional, ResolvedType.HoldsOptional]
    · have hnot := ResolvedType.not_holdsOptional_bare element
      simpa [hoptional] using hnot

/-! ## What an accessor ends in -/

/-- If one list ends in another one, then both are the same after the last place of an item. -/
theorem of_append_cons_suffix {α : Type} {item : α} {before before' after after' : List α}
    (hafter : item ∉ after) (hafter' : item ∉ after')
    (h : before ++ item :: after <:+ before' ++ item :: after') :
    before <:+ before' ∧ after = after' := by
  obtain ⟨more, hmore⟩ := h
  rw [← List.append_assoc] at hmore
  rcases List.append_eq_append_iff.1 hmore with ⟨between, rfl, htail⟩ | ⟨between, hlead, htail⟩
  · cases between with
    | nil => exact ⟨⟨more, by simp⟩, by simpa using htail⟩
    | cons c between =>
        obtain ⟨-, rfl⟩ := List.cons.inj htail
        exact absurd (by simp) hafter
  · cases between with
    | nil => exact ⟨⟨more, by simpa using hlead⟩, by simpa using htail.symm⟩
    | cons c between =>
        obtain ⟨-, rfl⟩ := List.cons.inj htail
        exact absurd (by simp) hafter'

theorem toList_textHop : textHop.toList = ".map(|s| s".toList ++ '.' :: "as_str())".toList := by
  simp [textHop]

/-- If the last dot of a text comes after the argument of a hop, the text does not end in a text
slice, where the argument has another name. -/
theorem not_textHop_suffix_member {lead opening rest : String}
    (hopening : ['m', '.'] <:+ opening.toList) (hrest : '.' ∉ rest.toList) :
    ¬ textHop.toList <:+ (lead ++ (opening ++ rest)).toList := by
  obtain ⟨front, hfront⟩ := hopening
  have htext : (lead ++ (opening ++ rest)).toList =
      (lead.toList ++ front ++ ['m']) ++ '.' :: rest.toList := by
    simp [String.toList_append, ← hfront]
  rw [htext, toList_textHop]
  intro h
  -- before the last dot stands the argument of the step
  obtain ⟨hbefore, -⟩ := of_append_cons_suffix (by simp) hrest h
  obtain hnil | ⟨before, hmap, -⟩ := List.suffix_concat_iff.1 hbefore
  · simp at hnil
  · have hlast := congrArg List.getLast? hmap
    simp at hlast

theorem not_textHop_suffix_optional {lead : String} :
    ¬ textHop.toList <:+ (lead ++ ".as_ref())").toList := by
  have htext : (lead ++ ".as_ref())").toList = lead.toList ++ '.' :: "as_ref())".toList := by
    simp [String.toList_append]
  rw [htext, toList_textHop]
  intro h
  obtain ⟨-, hafter⟩ := of_append_cons_suffix (by simp) (by simp) h
  simp at hafter

/-- A field name has no dot. -/
theorem Identifier.dot_notMem_fieldName [Speller] (name : String) :
    '.' ∉ (fieldName name).toList := by
  intro hc
  have hdot : ¬ (IsSnake '.' ∨ '.' = '#') := by
    unfold IsSnake
    decide
  exact hdot (of_mem_fieldName hc)

/-- No hop ends in a text slice. -/
theorem not_textHop_suffix_hop [Speller] (lead : String) (f : Field) :
    ¬ textHop.toList <:+ (lead ++ hop f).toList := by
  generalize hname : Identifier.fieldName f.name = name
  have hdot : '.' ∉ name.toList := hname ▸ Identifier.dot_notMem_fieldName f.name
  cases hmember : f.oneof with
  | some o =>
      have hhop : getterHop name = ".and_then(|m| m." ++ (name ++ "())") := String.append_assoc
      rw [hop_of_member (by simp [hmember]), hname, hhop]
      exact not_textHop_suffix_member (by decide) (by simp [String.toList_append, hdot])
  | none =>
      rw [hop_of_free hmember, hname]
      split
      · have htext : lead ++ optionalHop name =
            lead ++ (".and_then(|m| m." ++ name) ++ ".as_ref())" := String.append_assoc.symm
        rw [htext]
        exact not_textHop_suffix_optional
      · have hhop : directHop name = ".map(|m| &m." ++ (name ++ ")") := String.append_assoc
        rw [hhop]
        exact not_textHop_suffix_member (by decide) (by simp [String.toList_append, hdot])

/-- An accessor ends in a text slice exactly if its last field holds a single text. -/
theorem textHop_suffix_iff [Speller] {steps : List (Message × Field)} (hsteps : steps ≠ [])
    (lead : String) :
    textHop.toList <:+ (lead ++ Api.along steps).toList ↔ Api.endsInText steps = true := by
  obtain ⟨front, step, rfl⟩ := (List.eq_nil_or_concat' steps).resolve_left hsteps
  cases htext : Api.endsInText (front ++ [step]) with
  | true =>
      rw [Api.along, if_pos htext, ← String.append_assoc, String.toList_append]
      exact iff_of_true (List.suffix_append _ _) rfl
  | false =>
      have hhops : lead ++ Api.along (front ++ [step]) =
          lead ++ String.join (front.map fun step => hop step.2) ++ hop step.2 := by
        simp [Api.along, htext, String.append_assoc]
      rw [hhops]
      exact iff_of_false (not_textHop_suffix_hop _ step.2) Bool.false_ne_true

/-! ## Hops and types -/

/-- The hop to a field is the one for a type of the field, given the name of the field in generated
code. A oneof member is read through its getter. Any other field, unless it is optional and a list
or a map as well, is read by the hop into an optional value or by the hop to the field itself,
according to whether the type is that of an optional value. -/
structure Field.HopFits [Speller] (f : Field) (name : String) (type : ResolvedType) : Prop where
  member : f.oneof.isSome = true → hop f = getterHop name
  optional_iff : f.oneof = none → ¬ (f.optional = true ∧ (f.repeated = true ∨ f.map = true)) →
    (hop f = optionalHop name ↔ type.HoldsOptional)
  direct_iff : f.oneof = none → ¬ (f.optional = true ∧ (f.repeated = true ∨ f.map = true)) →
    (hop f = directHop name ↔ ¬ type.HoldsOptional)

namespace Lexicon

variable [Speller] {lx : Lexicon} {f : Field} {ws : List Warning}

/-- The hop to a field fits the type of the field, whichever message the field is declared in. -/
theorem hopFits_of_yields_fieldType {id : String} {type : ResolvedType}
    (h : Yields (lx.fieldType (lx.api.needsBox id f) f) type ws) :
    f.HopFits (Identifier.fieldName f.name) type where
  member := hop_of_member
  optional_iff hfree hsingle :=
    (hop_eq_optionalHop_iff hfree).trans (holdsOptional_iff hfree hsingle h).symm
  direct_iff hfree hsingle :=
    (hop_eq_directHop_iff hfree).trans (not_congr (holdsOptional_iff hfree hsingle h).symm)

theorem fieldName_of_yields_annotateField {container : Message} {containerName : String}
    {a : AnnotatedField} (h : Yields (lx.annotateField container containerName f) a ws) :
    a.fieldName = Identifier.fieldName f.name := by
  obtain ⟨type, _, _, -, hentry, -⟩ := yields_bind_iff.1 h
  rw [← (yields_pure_iff.1 hentry).1]

/-- The hop to a field fits the annotation of the field. -/
theorem hopFits_of_yields_annotateField {container : Message} {containerName : String}
    {a : AnnotatedField} (h : Yields (lx.annotateField container containerName f) a ws) :
    f.HopFits a.fieldName ⟨a.fieldType, a.elementType⟩ := by
  obtain ⟨type, htype, hfull, helement⟩ := of_yields_annotateField h
  rw [fieldName_of_yields_annotateField h, hfull, helement]
  exact hopFits_of_yields_fieldType htype

end Lexicon

variable {api : Api} {root : Message} {path : List String} {text : String}

/-- **Accessors fit the types of fields.** If the fields of each message have distinct names, an
accessor is made of the hops to the fields that its path goes through, and ends in a text slice
exactly if the last of these holds a single text. The hop to a field fits every type that the field
can be given. If the field belongs to a message of the API's own package, it fits the annotation
that is recorded for the field, unless a later field has the same ID. -/
theorem accessor_fits_types [Speller] (options : Options) (hroot : (root.fields.map (·.name)).Nodup)
    (hnames : ∀ m ∈ api.messages, (m.fields.map (·.name)).Nodup)
    (h : api.accessor root path = .ok text) :
    (∃ steps, api.Follows root path steps) ∧ ∀ steps, api.Follows root path steps →
      text = accessorRoot ++ String.join (steps.map fun step => hop step.2) ++
        (if Api.endsInText steps then textHop else "") ∧
      (textHop.toList <:+ text.toList ↔ Api.endsInText steps = true) ∧
      ∀ m f, (m, f) ∈ steps →
        (∀ type ws, Yields ((Lexicon.of api options).fieldType (api.needsBox m.id f) f) type ws →
          f.HopFits (Identifier.fieldName f.name) type) ∧
        ∀ result, annotate api options = .ok result → m ∈ api.ownMessages →
          lastWith? Field.id f.id api.ownFields = some f →
          ∃ a, result.model.fields[f.id]? = some a ∧
            f.HopFits a.fieldName ⟨a.fieldType, a.elementType⟩ := by
  obtain ⟨tail, htail, hpure⟩ := except_bind_eq_ok_iff.1 h
  obtain rfl := Except.ok.inj hpure
  refine ⟨Api.exists_follows_of_hops htail, fun steps hsteps => ?_⟩
  obtain rfl := Except.ok.inj (htail.symm.trans (Api.hops_of_follows hsteps hroot hnames))
  refine ⟨by rw [Api.along, String.append_assoc], textHop_suffix_iff hsteps.steps_ne_nil _, ?_⟩
  intro m f hstep
  refine ⟨fun type ws htype => Lexicon.hopFits_of_yields_fieldType htype, ?_⟩
  intro result hresult hm hlast
  have hf : f ∈ api.ownFields := List.mem_flatMap.2 ⟨m, hm, hsteps.mem_fields hstep⟩
  obtain ⟨a, ⟨container, -, names, -, ws, -, ha⟩, hrecorded⟩ := exists_field_of_annotate hresult hf
  exact ⟨a, hrecorded hlast, Lexicon.hopFits_of_yields_annotateField ha⟩

/-- A list of texts: the next item is behind a pointer, and may be absent all the same. -/
theorem accessor_fits_types_of_linked_list :
    let next : Field :=
      { id := ".p.Item.next", name := "next", kind := .message, typeId := some ".p.Item" }
    let title : Field := { id := ".p.Item.title", name := "title" }
    let item : Message :=
      { id := ".p.Item", name := "Item", package := "p", fields := [next, title] }
    let api : Api := { packageName := "p", messages := [item] }
    let text := "Some(&req).and_then(|m| m.next.as_ref()).map(|m| &m.title).map(|s| s.as_str())"
    api.accessor item ["next", "title"] = .ok text ∧
      api.Follows item ["next", "title"] [(item, next), (item, title)] ∧
      ∃ result, annotate api {} = .ok result ∧
        (∃ a, result.model.fields[next.id]? = some a ∧
          (ResolvedType.mk a.fieldType a.elementType).HoldsOptional) ∧
        ∃ a, result.model.fields[title.id]? = some a ∧
          ¬ (ResolvedType.mk a.fieldType a.elementType).HoldsOptional := by
  intro next title item api text
  have h : api.accessor item ["next", "title"] = .ok text := by decide
  have hlast : api.Follows item [title.name] [(item, title)] := .last (by simp [item])
  have hfollows : api.Follows item [next.name, title.name] [(item, next), (item, title)] :=
    .through (by simp [item]) rfl rfl hlast
  refine ⟨h, hfollows, ?_⟩
  obtain ⟨result, hresult⟩ : ∃ result, annotate api {} = .ok result := by
    apply exists_annotate_eq_ok <;> simp [api, item, Api.HasModule, Api.isOwn]
  have hown : item ∈ api.ownMessages := by
    simp [Api.ownMessages, Api.structs, Api.isOwn, api, item]
  have hfields : api.ownFields = [next, title] := by
    simp [Api.ownFields, Api.ownMessages, Api.structs, Api.isOwn, api, item]
  have hnames : (item.fields.map (·.name)).Nodup := by simp [item, next, title]
  obtain ⟨-, hsteps⟩ := accessor_fits_types {} hnames (by simpa [api] using hnames) h
  obtain ⟨-, -, hfits⟩ := hsteps _ hfollows
  obtain ⟨a, ha, hnext⟩ := (hfits item next (by simp)).2 result hresult hown
    (by simp [hfields, lastWith?, next, title])
  obtain ⟨b, hb, htitle⟩ := (hfits item title (by simp)).2 result hresult hown
    (by simp [hfields, lastWith?, title])
  refine ⟨result, hresult, ⟨a, ha, ?_⟩, b, hb, ?_⟩
  · by_contra hnot
    have hdirect := (hnext.direct_iff rfl (by simp [next])).2 hnot
    exact optionalHop_ne_directHop _ _ (((hop_eq_optionalHop_iff rfl).2 rfl).symm.trans hdirect)
  · intro hholds
    have hoptional := (htitle.optional_iff rfl (by simp [title])).2 hholds
    have hdirect := (hop_eq_directHop_iff (f := title) rfl).2 (by decide)
    exact optionalHop_ne_directHop _ _ (hoptional.symm.trans hdirect)

end ApiAnnotator
