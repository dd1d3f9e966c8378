import ApiAnnotator.Proofs.Gating
import ApiAnnotator.Text.Spellings

/-!
# What a pass accounts for

Every step of a pass goes over a part of the API, and together they leave nothing out: a type goes
with its package either to the own types or to the others, a service without generated methods is
dropped before the services are annotated, and a method is either generated or skipped. So the keys
of each table are the IDs of one kind of entity, and the numbers add up. An annotation can be lost
only to a later one under the same ID, so the tables are as large as the numbers say if IDs are
distinct.

## Main definitions

* `AnnotatedModel.Covers` — the keys of all tables.
* `AnnotatedModel.MarksOthers` — which types have basic annotations.

## Main statements

* `covers_of_annotate` — every entity is annotated, and nothing else is.
* `marksOthers_of_annotate` — the types of other packages have basic annotations.
* `types_counted_of_annotate`, `methods_counted_of_annotate` — the numbers add up.
* `annotate_accounts_for_all` — **a pass accounts for all entities**.
-/

namespace ApiAnnotator

/-- The keys of the tables are the IDs of the entities that a pass has to annotate, and the kept
services stand in the order of their declaration. -/
structure AnnotatedModel.Covers (model : AnnotatedModel) (api : Api) (options : Options) :
    Prop where
  messages : ∀ id, id ∈ model.messages ↔ ∃ m ∈ api.structs, m.id = id
  enums : ∀ id, id ∈ model.enums ↔ ∃ e ∈ api.enums, e.id = id
  fields : ∀ id, id ∈ model.fields ↔ ∃ f ∈ api.ownFields, f.id = id
  oneofs : ∀ id, id ∈ model.oneofs ↔ ∃ m ∈ api.ownMessages, ∃ o ∈ m.oneofs, o.id = id
  enumValues : ∀ id, id ∈ model.enumValues ↔ ∃ e ∈ api.ownEnums, ∃ v ∈ e.values, v.id = id
  methods : ∀ id, id ∈ model.methods ↔ ∃ m ∈ api.generated options, m.id = id
  services : ∀ id, id ∈ model.services ↔
    ∃ s ∈ api.services, generatedMethods options s ≠ [] ∧ s.id = id
  crateServices : model.crate.services =
    (api.services.filter (generatedMethods options · ≠ [])).map (·.id)

/-- The types of other packages, and no others, have basic annotations. -/
structure AnnotatedModel.MarksOthers (model : AnnotatedModel) (api : Api) : Prop where
  messages : ∀ m ∈ api.structs, ∃ entry, model.messages[m.id]? = some entry ∧
    (entry.basic = true ↔ m.package ≠ api.packageName)
  enums : ∀ e ∈ api.enums, ∃ entry, model.enums[e.id]? = some entry ∧
    (entry.basic = true ↔ e.package ≠ api.packageName)

namespace Api

variable (api : Api) (options : Options)

/-- The kept services are the services with a generated method, in order. -/
theorem map_service_retained [Speller] :
    (api.retained options).map (·.service) =
      api.services.filter (generatedMethods options · ≠ []) := by
  unfold retained
  induction api.services with
  | nil => rfl
  | cons s services ih =>
      rw [List.filterMap_cons]
      unfold retain? at ih ⊢
      cases hgenerated : generatedMethods options s with
      | nil => simpa [hgenerated] using ih
      | cons m methods => simpa [hgenerated] using ih

/-- The generated methods stand in the order of all methods. -/
theorem generated_eq_filter :
    api.generated options = (api.services.flatMap (·.methods)).filter (isGenerated options) := by
  rw [List.filter_flatMap]
  rfl

/-- Every method is either generated or not. -/
theorem length_generated_add_countP :
    (api.generated options).length +
        (api.services.flatMap (·.methods)).countP (fun m => !isGenerated options m) =
      (api.services.flatMap (·.methods)).length := by
  rw [generated_eq_filter, ← List.countP_eq_length_filter]
  simpa using (List.length_eq_countP_add_countP (isGenerated options)
    (l := api.services.flatMap (·.methods))).symm

end Api

namespace Lexicon

/-! ## The type tables without their gates -/

variable {lx : Lexicon} {retained : List RetainedService} {features : List String} {d : Drafts}
  {ws : List Warning}

theorem size_model_messages : (lx.model retained features d).messages.size = d.messages.size := by
  cases hgated : lx.options.perServiceFeatures <;> simp [model, gateMessages, hgated]

theorem size_model_enums : (lx.model retained features d).enums.size = d.enums.size := by
  cases hgated : lx.options.perServiceFeatures <;> simp [model, gateEnums, hgated]

/-- The gates do not change whether a message is basic. -/
theorem map_basic_model_messages (id : String) :
    (lx.model retained features d).messages[id]?.map (·.basic) = d.messages[id]?.map (·.basic) := by
  rw [getElem?_model_messages, Option.map_map]
  congr 1
  funext m
  rw [Function.comp_apply]
  split <;> rfl

variable [Speller]

/-- With distinct IDs no annotation of a message is lost. -/
theorem DraftsFrom.size_messages (h : lx.DraftsFrom retained d ws)
    (hids : (lx.api.messages.map (·.id)).Nodup) :
    d.messages.size = d.ownMessages.length + d.otherMessages.length := by
  rw [Drafts.messages, Table.size_eq_length_items (h.forall₂_messages.imp fun _ _ hx => hx.1)
    (Api.nodup_ids_structs hids), List.length_append, h.ownMessages.length_eq,
    h.otherMessages.length_eq]

/-- With distinct IDs no annotation of an enum is lost. -/
theorem DraftsFrom.size_enums (h : lx.DraftsFrom retained d ws)
    (hids : (lx.api.enums.map (·.id)).Nodup) :
    d.enums.size = d.ownEnums.length + d.otherEnums.length := by
  rw [Drafts.enums, Table.size_eq_length_items (h.forall₂_enums.imp fun _ _ hx => hx.1)
    (Api.nodup_ids_enums hids), List.length_append, h.ownEnums.length_eq, h.otherEnums.length_eq]

end Lexicon

/-! ## The account of a pass -/

section Pass

variable [Speller] {api : Api} {options : Options} {result : Annotated}

/-- Every entity is annotated, and nothing else is. -/
theorem covers_of_annotate (h : annotate api options = .ok result) :
    result.model.Covers api options := by
  have hmessages : ∀ id, id ∈ result.model.messages ↔ _ := fun id => mem_messages_of_annotate h
  have henums : ∀ id, id ∈ result.model.enums ↔ _ := fun id => mem_enums_of_annotate h
  obtain ⟨d, hd, hmodel⟩ := draftsFrom_of_annotate h
  have honeofs : ∀ id, id ∈ result.model.oneofs ↔ ∃ item ∈ api.ownOneOfs, item.2.id = id := by
    intro id
    rw [hmodel]
    exact Table.mem_iff_exists_item (hd.forall₂_oneofs.imp fun _ _ hx => hx.1)
  have hvalues : ∀ id, id ∈ result.model.enumValues ↔ ∃ item ∈ api.ownValues, item.2.id = id := by
    intro id
    rw [hmodel]
    exact Table.mem_iff_exists_item (hd.forall₂_values.imp fun _ _ hx => hx.1)
  have hservices : ∀ id, id ∈ result.model.services ↔
      ∃ r ∈ api.retained options, r.service.id = id := by
    intro id
    rw [hmodel]
    exact Table.mem_iff_exists_item
      (List.forall₂_map_right_iff.2 (hd.services.imp fun _ _ hx => hx.1))
  exact {
    messages := hmessages
    enums := henums
    fields := by
      intro id
      rw [hmodel]
      exact Table.mem_iff_exists_item (hd.forall₂_fields.imp fun _ _ hx => hx.1)
    oneofs := by simpa [Api.ownOneOfs, and_assoc] using honeofs
    enumValues := by simpa [Api.ownValues, and_assoc] using hvalues
    methods := by
      intro id
      rw [hmodel, ← Api.retained_flatMap_methods]
      exact Table.mem_iff_exists_item (hd.forall₂_methods.imp fun _ _ hx => hx.1)
    services := by simpa [Api.mem_retained_iff, and_assoc] using hservices
    crateServices := by
      rw [hmodel, ← Api.map_service_retained, List.map_map]
      rfl }

/-- The types of other packages have basic annotations. -/
theorem marksOthers_of_annotate (h : annotate api options = .ok result)
    (hmessages : (api.messages.map (·.id)).Nodup) (henums : (api.enums.map (·.id)).Nodup) :
    result.model.MarksOthers api := by
  have hbasic : ∀ package, (!api.isOwn package) = true ↔ package ≠ api.packageName := by
    simp [Api.isOwn]
  obtain ⟨d, hd, hmodel⟩ := draftsFrom_of_annotate h
  refine ⟨fun m hm => ?_, fun e he => ?_⟩
  · have hrel := hd.rel_messages m.id
    rw [Lexicon.api_of, Api.lastWith?_message hmessages hm] at hrel
    obtain ⟨draft, hdraft, names, -, rfl⟩ := of_rel_some_left hrel
    have hentry : result.model.messages[m.id]?.map (·.basic) = some (!api.isOwn m.package) := by
      rw [hmodel, Lexicon.map_basic_model_messages, hdraft, Option.map_some,
        Lexicon.basic_messageEntry, Lexicon.api_of]
    obtain ⟨entry, hentry, hmarked⟩ := Option.map_eq_some_iff.1 hentry
    exact ⟨entry, hentry, hmarked ▸ hbasic m.package⟩
  · obtain ⟨names, -, hentry⟩ :=
      exists_map_enums_of_annotate h henums he (f := (·.basic)) fun _ _ => rfl
    rw [Lexicon.basic_enumEntry, Lexicon.api_of] at hentry
    obtain ⟨entry, hentry, hmarked⟩ := Option.map_eq_some_iff.1 hentry
    exact ⟨entry, hentry, hmarked ▸ hbasic e.package⟩

/-- The numbers of types are the sizes of their tables. -/
theorem types_counted_of_annotate (h : annotate api options = .ok result)
    (hmessages : (api.messages.map (·.id)).Nodup) (henums : (api.enums.map (·.id)).Nodup) :
    result.statistics.messages + result.statistics.enums + result.statistics.external =
      result.model.messages.size + result.model.enums.size := by
  obtain ⟨d, ws, hd, rfl⟩ := exists_drafts_of_annotate h
  simp only [Lexicon.statistics, Lexicon.size_model_messages, Lexicon.size_model_enums,
    hd.size_messages hmessages, hd.size_enums henums]
  omega

/-- The methods are those that are annotated and those that are skipped. -/
theorem methods_counted_of_annotate (h : annotate api options = .ok result) :
    result.statistics.methods + result.statistics.skipped =
      (api.services.flatMap (·.methods)).length := by
  obtain ⟨d, ws, -, rfl⟩ := exists_drafts_of_annotate h
  simp only [Lexicon.statistics, Api.retained_flatMap_methods, Lexicon.api_of, Lexicon.options_of]
  exact api.length_generated_add_countP options

/-- **A pass accounts for all entities.** Every table has an entry for each entity of its kind that
is not left out on purpose, and for nothing else. If IDs are distinct, the basic annotations are
those of types of other packages, and the numbers of types add up to the sizes of the two type
tables. And every method of a service is counted as annotated or as skipped, whether the service is
kept or dropped. -/
theorem annotate_accounts_for_all (h : annotate api options = .ok result) :
    result.model.Covers api options ∧
    ((api.messages.map (·.id)).Nodup → (api.enums.map (·.id)).Nodup →
      result.model.MarksOthers api ∧
      result.statistics.messages + result.statistics.enums + result.statistics.external =
        result.model.messages.size + result.model.enums.size) ∧
    result.statistics.methods + result.statistics.skipped =
      (api.services.flatMap (·.methods)).length := by
  refine ⟨covers_of_annotate h, fun hmessages henums => ⟨?_, ?_⟩, methods_counted_of_annotate h⟩
  · exact marksOthers_of_annotate h hmessages henums
  · exact types_counted_of_annotate h hmessages henums

end Pass

/-- A map entry, a stream and a service with nothing but streams are left out, and the message of
another package is annotated without its field. -/
theorem accounts_for_what_is_left_out :
    let f : Field := { id := ".p.M.f", name := "f" }
    let o : OneOf := { id := ".p.M.o", name := "o" }
    let m : Message := { id := ".p.M", package := "p", fields := [f], oneofs := [o] }
    let entry : Message := { id := ".p.M.Entry", package := "p", isMapEntry := true }
    let other : Message := { id := ".q.T", package := "q", fields := [{ id := ".q.T.f" }] }
    let e : Enum := { id := ".p.E", package := "p", values := [{ id := ".p.E.V" }] }
    let get : Method := { id := ".p.S.Get", http := some {} }
    let watch : Method := { id := ".p.S.Watch", http := some {}, serverSideStreaming := true }
    let upload : Method := { id := ".p.D.Upload", http := some {}, clientSideStreaming := true }
    let kept : Service := { id := ".p.S", methods := [get, watch] }
    let dropped : Service := { id := ".p.D", methods := [upload] }
    let api : Api := {
      packageName := "p"
      messages := [m, entry, other]
      enums := [e]
      services := [dropped, kept] }
    let options : Options := { externPackages := [⟨"q", "q", ["q"], none⟩] }
    ∃ result, annotate api options = .ok result ∧
      (∀ id, id ∈ result.model.messages ↔ id = ".p.M" ∨ id = ".q.T") ∧
      (∀ id, id ∈ result.model.fields ↔ id = ".p.M.f") ∧
      (∀ id, id ∈ result.model.methods ↔ id = ".p.S.Get") ∧
      result.model.crate.services = [".p.S"] ∧
      (∃ entry, result.model.messages[".q.T"]? = some entry ∧ entry.basic = true) ∧
      result.statistics.messages + result.statistics.enums + result.statistics.external =
        result.model.messages.size + result.model.enums.size ∧
      result.statistics.methods + result.statistics.skipped = 3 := by
  intro f o m entry other e get watch upload kept dropped api options
  have hstructs : api.structs = [m, other] := rfl
  have hfields : api.ownFields = [f] := rfl
  have hgenerated : api.generated options = [get] := rfl
  have hother : Options.packageSource "q" = "q" := by decide
  obtain ⟨result, h⟩ : ∃ result, annotate api options = .ok result := by
    apply exists_annotate_eq_ok <;>
      simp [api, m, entry, other, e, options, Api.HasModule, Api.isOwn, Options.externPackage?,
        hother]
  obtain ⟨hcovers, htypes, hmethods⟩ := annotate_accounts_for_all h
  have hmessages : (api.messages.map (·.id)).Nodup := by simp [api, m, entry, other]
  have henums : (api.enums.map (·.id)).Nodup := by simp [api]
  obtain ⟨hmarks, hcounted⟩ := htypes hmessages henums
  obtain ⟨basic, hentry, hbasic⟩ := hmarks.messages other (by simp [hstructs])
  refine ⟨result, h, ?_, ?_, ?_, hcovers.crateServices, ?_, hcounted, hmethods⟩
  · simp [hcovers.messages, hstructs, m, other, eq_comm]
  · simp [hcovers.fields, hfields, f, eq_comm]
  · simp [hcovers.methods, hgenerated, get, eq_comm]
  · exact ⟨basic, hentry, hbasic.2 (by simp [other, api])⟩

end ApiAnnotator
