import ApiAnnotator.Proofs.Drafts

/-!
# What a finished pass has recorded

The tables of a finished pass hold for each ID the annotation of what was declared with that ID
last, and the types of the API's own package have the gates that the services ask for. The
statements here say so table by table, and everything that is proved about the annotated model rests
on them.

## Main definitions

* `Api.typeIds` — the IDs of all types.
* `Api.typeGates` — the gates that a pass sets for a type.

## Main statements

* `exists_drafts_of_annotate` — a pass that succeeds has drafts from which its result is made.
* `exists_names_of_annotate` — a pass that succeeds has made a name for every declared type.
* `getElem?_messages_of_annotate`, `getElem?_enums_of_annotate` — the entries of types.
* `exists_field_of_annotate`, `exists_method_of_annotate` — the entries of fields and methods.
-/

namespace ApiAnnotator

namespace Lexicon

/-! ## The type tables with their gates -/

variable (lx : Lexicon) (retained : List RetainedService) (features : List String) (d : Drafts)
  (id : String)

theorem getElem?_model_messages :
    (lx.model retained features d).messages[id]? = d.messages[id]?.map fun m =>
      if lx.options.perServiceFeatures && !m.basic then
        { m with featureGates := gatesOf (retained.map lx.api.need) id }
      else m := by
  cases hgated : lx.options.perServiceFeatures with
  | false => simp [model, hgated]
  | true =>
      simp only [model, hgated, if_true, gateMessages, Std.ExtTreeMap.getElem?_map, Bool.true_and]
      congr 1
      funext m
      cases m.basic <;> simp

theorem getElem?_model_enums :
    (lx.model retained features d).enums[id]? = d.enums[id]?.map fun e =>
      if lx.options.perServiceFeatures && !e.basic then
        { e with featureGates :=
            if (d.messages[id]?).any (!·.basic) then allGates (retained.map lx.api.need)
            else gatesOf (retained.map lx.api.need) id }
      else e := by
  cases hgated : lx.options.perServiceFeatures with
  | false => simp [model, hgated]
  | true =>
      simp only [model, hgated, if_true, gateEnums, Std.ExtTreeMap.getElem?_map, Bool.true_and]
      congr 1
      funext e
      cases e.basic <;> cases (d.messages[id]?).any (!·.basic) <;> simp

variable {lx retained features d id}

/-- The gates are all that is changed about an enum. -/
theorem map_model_enums {γ : Type} {f : AnnotatedEnum → γ}
    (hf : ∀ e gates, f { e with featureGates := gates } = f e) :
    (lx.model retained features d).enums[id]?.map f = d.enums[id]?.map f := by
  rw [getElem?_model_enums, Option.map_map]
  congr 1
  funext e
  rw [Function.comp_apply]
  split
  · exact hf e _
  · rfl

end Lexicon

/-! ## The result of a pass -/

/-- The IDs of all messages and enums. -/
def Api.typeIds (api : Api) : List String :=
  api.messages.map (·.id) ++ api.enums.map (·.id)

/-- What the kept services need. -/
def Api.needs [Speller] (api : Api) (options : Options) : List Need :=
  (api.retained options).map api.need

/-- The gates that a pass sets for a type, given whether it is the API's own. -/
def Api.typeGates [Speller] (api : Api) (options : Options) (own : Bool) (id : String) :
    FeatureGates :=
  if options.perServiceFeatures && own then gatesOf (api.needs options) id else {}

namespace Api

variable {api : Api} {m : Message} {e : Enum}

theorem mem_messages_of_mem_structs (hm : m ∈ api.structs) : m ∈ api.messages :=
  (List.mem_filter.1 hm).1

theorem perm_structs (api : Api) : (api.ownMessages ++ api.otherMessages).Perm api.structs :=
  List.filter_append_perm _ _

theorem perm_enums (api : Api) : (api.ownEnums ++ api.otherEnums).Perm api.enums :=
  List.filter_append_perm _ _

/-- The IDs of declared types are among those of all types. -/
theorem nodup_ids_declaredTypes (hids : api.typeIds.Nodup) :
    (api.declaredTypes.map (·.id)).Nodup := by
  have hmessages : (api.structs.map (·.id)).Sublist (api.messages.map (·.id)) :=
    List.filter_sublist.map _
  have hsub : (api.declaredTypes.map (·.id)).Sublist api.typeIds := by
    simpa [declaredTypes, typeIds, DeclaredType.ofMessage, DeclaredType.ofEnum,
      Function.comp_def] using hmessages.append_right (api.enums.map (·.id))
  exact hids.sublist hsub

theorem nodup_messageIds (hids : api.typeIds.Nodup) : (api.messages.map (·.id)).Nodup :=
  (List.nodup_append.1 hids).1

theorem nodup_enumIds (hids : api.typeIds.Nodup) : (api.enums.map (·.id)).Nodup :=
  (List.nodup_append.1 hids).2.1

/-- With distinct IDs an ID refers to the message that is declared with it. -/
theorem message?_of_mem (hids : api.typeIds.Nodup) {m : Message} (hm : m ∈ api.messages) :
    api.message? m.id = some m :=
  lastWith?_of_mem (nodup_messageIds hids) hm

/-- With distinct IDs an ID refers to the enum that is declared with it. -/
theorem enum?_of_mem (hids : api.typeIds.Nodup) {e : Enum} (he : e ∈ api.enums) :
    api.enum? e.id = some e :=
  lastWith?_of_mem (nodup_enumIds hids) he

/-- With distinct IDs no message is declared with the ID of an enum. -/
theorem message?_of_mem_enums (hids : api.typeIds.Nodup) {e : Enum} (he : e ∈ api.enums) :
    api.message? e.id = none := by
  refine lastWith?_eq_none_iff.2 fun hmem => ?_
  exact (List.nodup_append.1 hids).2.2 e.id hmem e.id (List.mem_map_of_mem he) rfl

/-- If messages have distinct IDs, so have those that become types. -/
theorem nodup_ids_structs (hids : (api.messages.map (·.id)).Nodup) :
    ((api.ownMessages ++ api.otherMessages).map (·.id)).Nodup :=
  (api.perm_structs.map _).nodup_iff.2 (hids.sublist (List.filter_sublist.map _))

/-- If enums have distinct IDs, so they have in the order in which they are annotated. -/
theorem nodup_ids_enums (hids : (api.enums.map (·.id)).Nodup) :
    ((api.ownEnums ++ api.otherEnums).map (·.id)).Nodup :=
  (api.perm_enums.map _).nodup_iff.2 hids

/-- If messages have distinct IDs, each of them is the last one with its ID. -/
theorem lastWith?_message (hids : (api.messages.map (·.id)).Nodup) (hm : m ∈ api.structs) :
    lastWith? Message.id m.id (api.ownMessages ++ api.otherMessages) = some m :=
  lastWith?_of_mem (nodup_ids_structs hids) (api.perm_structs.mem_iff.2 hm)

/-- If enums have distinct IDs, each of them is the last one with its ID. -/
theorem lastWith?_enum (hids : (api.enums.map (·.id)).Nodup) (he : e ∈ api.enums) :
    lastWith? Enum.id e.id (api.ownEnums ++ api.otherEnums) = some e :=
  lastWith?_of_mem (nodup_ids_enums hids) (api.perm_enums.mem_iff.2 he)

/-- With distinct IDs no message has the ID of an enum. -/
theorem lastWith?_message_of_enum (hids : api.typeIds.Nodup) (he : e ∈ api.enums) :
    lastWith? Message.id e.id (api.ownMessages ++ api.otherMessages) = none := by
  rw [lastWith?_eq_none_iff]
  intro hmem
  obtain ⟨m, hm, hid⟩ := List.mem_map.1 hmem
  have hmessage := mem_messages_of_mem_structs (api.perm_structs.mem_iff.1 hm)
  exact (List.nodup_append.1 hids).2.2 m.id (List.mem_map_of_mem hmessage) e.id
    (List.mem_map_of_mem he) hid

end Api

variable [Speller] {api : Api} {options : Options} {result : Annotated}

/-- **A pass that succeeds has drafts from which its result is made.** -/
theorem exists_drafts_of_annotate (h : annotate api options = .ok result) :
    let lx := Lexicon.of api options
    let retained := api.retained options
    let features := if options.perServiceFeatures then featuresOf retained else []
    ∃ d ws, lx.DraftsFrom retained d ws ∧
      result = ⟨lx.model retained features d, lx.statistics retained features d ws⟩ := by
  unfold annotate at h
  cases hvalue : ((Lexicon.of api options).drafts (api.retained options)).run.value with
  | error problem => simp [hvalue, Except.map] at h
  | ok d =>
      simp only [hvalue, Except.map, Except.ok.injEq] at h
      exact ⟨d, _, Lexicon.draftsFrom_of_yields ⟨hvalue, rfl⟩, h.symm⟩

/-- The model is made of the drafts, and what was noted for them is kept. -/
theorem draftsFrom_of_annotate (h : annotate api options = .ok result) :
    ∃ d, (Lexicon.of api options).DraftsFrom (api.retained options) d result.statistics.warnings ∧
      result.model = (Lexicon.of api options).model (api.retained options)
        (if options.perServiceFeatures then featuresOf (api.retained options) else []) d := by
  obtain ⟨d, ws, hd, rfl⟩ := exists_drafts_of_annotate h
  exact ⟨d, hd, rfl⟩

/-- A pass that succeeds has made a name for every declared type. -/
theorem exists_names_of_annotate (h : annotate api options = .ok result) {d : DeclaredType}
    (hd : d ∈ api.declaredTypes) : ∃ names, (Lexicon.of api options).qualify d = .ok names := by
  obtain ⟨drafts, hdrafts, -⟩ := draftsFrom_of_annotate h
  rw [Api.declaredTypes, List.mem_append, List.mem_map, List.mem_map] at hd
  rcases hd with ⟨m, hm, rfl⟩ | ⟨e, he, rfl⟩
  · obtain ⟨_, ⟨names, hnames, -⟩, -⟩ :=
      Table.exists_entry_of_mem (R := fun m entry => ∃ names,
        (Lexicon.of api options).ofMessage m = .ok names ∧
          entry = (Lexicon.of api options).messageEntry m names)
        hdrafts.forall₂_messages (api.perm_structs.mem_iff.2 hm)
    exact ⟨names, hnames⟩
  · obtain ⟨_, ⟨names, hnames, -⟩, -⟩ :=
      Table.exists_entry_of_mem (R := fun e entry => ∃ names,
        (Lexicon.of api options).ofEnum e = .ok names ∧
          entry = (Lexicon.of api options).enumEntry e names)
        hdrafts.forall₂_enums (api.perm_enums.mem_iff.2 he)
    exact ⟨names, hnames⟩

/-- The message table has the IDs of all messages that become types. -/
theorem mem_messages_of_annotate (h : annotate api options = .ok result) {id : String} :
    id ∈ result.model.messages ↔ ∃ m ∈ api.structs, m.id = id := by
  obtain ⟨d, hd, hmodel⟩ := draftsFrom_of_annotate h
  rw [Std.ExtTreeMap.mem_iff_isSome_getElem?, hmodel, Lexicon.getElem?_model_messages,
    Option.isSome_map, ← isSome_eq_of_rel (hd.rel_messages id), Lexicon.api_of,
    isSome_lastWith?_iff, (api.perm_structs.map _).mem_iff, List.mem_map]

/-- The enum table has the IDs of all enums. -/
theorem mem_enums_of_annotate (h : annotate api options = .ok result) {id : String} :
    id ∈ result.model.enums ↔ ∃ e ∈ api.enums, e.id = id := by
  obtain ⟨d, hd, hmodel⟩ := draftsFrom_of_annotate h
  rw [Std.ExtTreeMap.mem_iff_isSome_getElem?, hmodel, Lexicon.getElem?_model_enums,
    Option.isSome_map, ← isSome_eq_of_rel (hd.rel_enums id), Lexicon.api_of,
    isSome_lastWith?_iff, (api.perm_enums.map _).mem_iff, List.mem_map]

/-- **The entry of a message**: its names, and the gates that the services ask for. -/
theorem getElem?_messages_of_annotate (h : annotate api options = .ok result)
    (hids : api.typeIds.Nodup) {m : Message} (hm : m ∈ api.structs) :
    ∃ names, (Lexicon.of api options).ofMessage m = .ok names ∧
      result.model.messages[m.id]? = some { (Lexicon.of api options).messageEntry m names with
        featureGates := api.typeGates options (api.isOwn m.package) m.id } := by
  obtain ⟨d, hd, hmodel⟩ := draftsFrom_of_annotate h
  have hrel := hd.rel_messages m.id
  rw [Lexicon.api_of, Api.lastWith?_message (Api.nodup_messageIds hids) hm] at hrel
  obtain ⟨entry, hentry, names, hnames, rfl⟩ := of_rel_some_left hrel
  refine ⟨names, hnames, ?_⟩
  rw [hmodel, Lexicon.getElem?_model_messages, hentry, Option.map_some, Option.some_inj,
    Lexicon.basic_messageEntry, Bool.not_not, Lexicon.api_of, Lexicon.options_of]
  by_cases hgated : (options.perServiceFeatures && api.isOwn m.package) = true
  · simp [Api.typeGates, hgated, Api.needs]
  · rw [if_neg hgated, Api.typeGates, if_neg hgated,
      ← Lexicon.featureGates_messageEntry (Lexicon.of api options) m names]

/-- What is recorded of an enum, its gates apart. -/
theorem exists_map_enums_of_annotate {γ : Type} {f : AnnotatedEnum → γ}
    (h : annotate api options = .ok result) (hids : (api.enums.map (·.id)).Nodup) {e : Enum}
    (he : e ∈ api.enums) (hf : ∀ e gates, f { e with featureGates := gates } = f e) :
    ∃ names, (Lexicon.of api options).ofEnum e = .ok names ∧
      result.model.enums[e.id]?.map f = some (f ((Lexicon.of api options).enumEntry e names)) := by
  obtain ⟨d, hd, hmodel⟩ := draftsFrom_of_annotate h
  have hrel := hd.rel_enums e.id
  rw [Lexicon.api_of, Api.lastWith?_enum hids he] at hrel
  obtain ⟨draft, hdraft, names, hnames, rfl⟩ := of_rel_some_left hrel
  exact ⟨names, hnames, by rw [hmodel, Lexicon.map_model_enums hf, hdraft, Option.map_some]⟩

/-- **The entry of an enum**: its names, and the gates that the services ask for. -/
theorem getElem?_enums_of_annotate (h : annotate api options = .ok result)
    (hids : api.typeIds.Nodup) {e : Enum} (he : e ∈ api.enums) :
    ∃ names, (Lexicon.of api options).ofEnum e = .ok names ∧
      result.model.enums[e.id]? = some { (Lexicon.of api options).enumEntry e names with
        featureGates := api.typeGates options (api.isOwn e.package) e.id } := by
  obtain ⟨d, hd, hmodel⟩ := draftsFrom_of_annotate h
  have hmessage := hd.rel_messages e.id
  have hrel := hd.rel_enums e.id
  rw [Lexicon.api_of, Api.lastWith?_message_of_enum hids he] at hmessage
  rw [Lexicon.api_of, Api.lastWith?_enum (Api.nodup_enumIds hids) he] at hrel
  have hnone : d.messages[e.id]? = none := eq_none_of_rel_none hmessage
  obtain ⟨entry, hentry, names, hnames, rfl⟩ := of_rel_some_left hrel
  refine ⟨names, hnames, ?_⟩
  rw [hmodel, Lexicon.getElem?_model_enums, hentry, hnone, Option.map_some, Option.some_inj,
    Lexicon.basic_enumEntry, Bool.not_not, Lexicon.api_of, Lexicon.options_of]
  by_cases hgated : (options.perServiceFeatures && api.isOwn e.package) = true
  · simp [Api.typeGates, hgated, Api.needs]
  · rw [if_neg hgated, Api.typeGates, if_neg hgated,
      ← Lexicon.featureGates_enumEntry (Lexicon.of api options) e names]

/-- With distinct IDs a message is no key of the enum table. -/
theorem getElem?_enums_of_message (h : annotate api options = .ok result)
    (hids : api.typeIds.Nodup) {m : Message} (hm : m ∈ api.structs) :
    result.model.enums[m.id]? = none := by
  have hkey : m.id ∉ result.model.enums := by
    rw [mem_enums_of_annotate h]
    rintro ⟨e, he, hid⟩
    exact (List.nodup_append.1 hids).2.2 m.id
      (List.mem_map_of_mem (Api.mem_messages_of_mem_structs hm)) e.id (List.mem_map_of_mem he)
      hid.symm
  exact Std.ExtTreeMap.getElem?_eq_none hkey

/-- With distinct IDs an enum is no key of the message table. -/
theorem getElem?_messages_of_enum (h : annotate api options = .ok result)
    (hids : api.typeIds.Nodup) {e : Enum} (he : e ∈ api.enums) :
    result.model.messages[e.id]? = none := by
  have hkey : e.id ∉ result.model.messages := by
    rw [mem_messages_of_annotate h]
    rintro ⟨m, hm, hid⟩
    exact (List.nodup_append.1 hids).2.2 m.id
      (List.mem_map_of_mem (Api.mem_messages_of_mem_structs hm)) e.id (List.mem_map_of_mem he) hid
  exact Std.ExtTreeMap.getElem?_eq_none hkey

/-- **The entry of a field**: each field of an own message is annotated, and the annotation of the
last one with an ID is recorded. -/
theorem exists_field_of_annotate (h : annotate api options = .ok result) {f : Field}
    (hf : f ∈ api.ownFields) :
    ∃ a, (∃ m ∈ api.ownMessages, ∃ names, (Lexicon.of api options).ofMessage m = .ok names ∧
        ∃ ws ⊆ result.statistics.warnings,
          Yields ((Lexicon.of api options).annotateField m names.name f) a ws) ∧
      (lastWith? Field.id f.id api.ownFields = some f → result.model.fields[f.id]? = some a) := by
  obtain ⟨d, hd, hmodel⟩ := draftsFrom_of_annotate h
  rw [hmodel]
  exact Table.exists_entry_of_mem (R := fun f a => ∃ m ∈ api.ownMessages, ∃ names,
    (Lexicon.of api options).ofMessage m = .ok names ∧ ∃ ws ⊆ result.statistics.warnings,
      Yields ((Lexicon.of api options).annotateField m names.name f) a ws) hd.forall₂_fields hf

/-- **The entry of a method**: each generated method is annotated when the own types are, and the
annotation of the last one with an ID is recorded. -/
theorem exists_method_of_annotate (h : annotate api options = .ok result) {m : Method}
    (hm : m ∈ api.generated options) :
    ∃ a d, (Lexicon.of api options).DraftsFrom (api.retained options) d result.statistics.warnings ∧
      (∃ serviceName, ∃ ws ⊆ result.statistics.warnings,
        Yields ((Lexicon.of api options).annotateMethod (Drafts.known d.ownEnums d.ownMessages)
          serviceName m) a ws) ∧
      (lastWith? Method.id m.id (api.generated options) = some m →
        result.model.methods[m.id]? = some a) := by
  obtain ⟨d, hd, hmodel⟩ := draftsFrom_of_annotate h
  rw [← Api.retained_flatMap_methods] at hm ⊢
  obtain ⟨a, hannotated, hlast⟩ := Table.exists_entry_of_mem (R := fun m a => ∃ serviceName,
    ∃ ws ⊆ result.statistics.warnings, Yields ((Lexicon.of api options).annotateMethod
      (Drafts.known d.ownEnums d.ownMessages) serviceName m) a ws) hd.forall₂_methods hm
  refine ⟨a, d, hd, hannotated, ?_⟩
  rw [hmodel]
  exact hlast

end ApiAnnotator
