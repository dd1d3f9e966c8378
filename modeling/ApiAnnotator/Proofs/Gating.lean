import ApiAnnotator.Proofs.Completion
import ApiAnnotator.Proofs.Pass
import ApiAnnotator.Proofs.Usage
import ApiAnnotator.Text.Spellings

/-!
# Gates are closed under use

With a part of the features only some types are compiled, and a type is of no use unless all types
that it uses are compiled too. A service that needs a type also needs whatever the type uses, so the
used type is gated on at least the features that the using type is gated on. A type that no service
needs is compiled only with all features together, and then everything else is compiled as well.

## Main definitions

* `AnnotatedModel.Compiles` — a type is compiled when some features are enabled.
* `Api.IsOwnType`, `Api.HeldBy` — the own types, and those that a field is made of.

## Main statements

* `holds_gatesOf_iff` — when the gates of a type hold.
* `compiles_iff` — which own types are compiled.
* `compiled_types_closed_under_use` — **what is compiled is closed under use**.
-/

namespace ApiAnnotator

/-! ## When gates hold -/

theorem FeatureGates.holds_iff {g : FeatureGates} {enabled : String → Bool} :
    g.holds enabled = true ↔ g.isEmpty = true ∨
      match g.operator with
      | .any => ∃ feature ∈ g.features, enabled feature = true
      | .all => ∀ feature ∈ g.features, enabled feature = true := by
  cases h : g.operator <;> simp [holds, h]

section Needs

variable {needs : List Need} {id : String} {enabled : String → Bool}

theorem holds_allGates_iff :
    (allGates needs).holds enabled = true ↔ ∀ n ∈ needs, enabled n.feature = true := by
  have hempty : (allGates needs).isEmpty = true ↔ needs = [] := by
    simp [FeatureGates.isEmpty, allGates, Std.ExtTreeSet.isEmpty_iff]
  rw [FeatureGates.holds_iff, hempty]
  constructor
  · rintro (rfl | h) n hn
    · simp at hn
    · exact h n.feature (by simpa [allGates] using ⟨n, hn, rfl⟩)
  · intro h
    right
    simpa [allGates] using h

/-- A type that is needed is gated on any of the features of those that need it. -/
theorem gatesOf_of_exists (h : ∃ n ∈ needs, id ∈ n.types) :
    gatesOf needs id =
      ⟨.ofList ((needs.filter (id ∈ ·.types)).map (·.feature)), .any⟩ := by
  have hne : needs.filter (id ∈ ·.types) ≠ [] := by simpa [List.filter_eq_nil_iff] using h
  obtain ⟨user, users, husers⟩ := List.exists_cons_of_ne_nil hne
  simp [gatesOf, husers]

/-- A type that is not needed is gated on all features together. -/
theorem gatesOf_of_forall (h : ∀ n ∈ needs, id ∉ n.types) : gatesOf needs id = allGates needs := by
  have hnone : needs.filter (id ∈ ·.types) = [] := by simpa [List.filter_eq_nil_iff] using h
  simp [gatesOf, hnone]

theorem mem_features_gatesOf_iff {feature : String} (h : ∃ n ∈ needs, id ∈ n.types) :
    feature ∈ (gatesOf needs id).features ↔ ∃ n ∈ needs, id ∈ n.types ∧ n.feature = feature := by
  simp [gatesOf_of_exists h, and_assoc]

/-- **The gates of a type hold** if a service that needs the type is enabled, or if all services are
enabled and none of them needs it. -/
theorem holds_gatesOf_iff :
    (gatesOf needs id).holds enabled = true ↔
      (∃ n ∈ needs, id ∈ n.types ∧ enabled n.feature = true) ∨
        ∀ n ∈ needs, id ∉ n.types ∧ enabled n.feature = true := by
  by_cases hneeded : ∃ n ∈ needs, id ∈ n.types
  · have hoperator : (gatesOf needs id).operator = .any := by rw [gatesOf_of_exists hneeded]
    obtain ⟨user, huser, hid⟩ := hneeded
    have hmem : ∀ feature, feature ∈ (gatesOf needs id).features ↔
        ∃ n ∈ needs, id ∈ n.types ∧ n.feature = feature :=
      fun feature => mem_features_gatesOf_iff ⟨user, huser, hid⟩
    have hsome : (gatesOf needs id).isEmpty = false :=
      Std.ExtTreeSet.isEmpty_eq_false_iff.2
        (Std.ExtTreeSet.ne_empty_of_mem ((hmem _).2 ⟨user, huser, hid, rfl⟩))
    rw [FeatureGates.holds_iff, hsome, hoperator]
    constructor
    · rintro (h | ⟨feature, hfeature, henabled⟩)
      · cases h
      · obtain ⟨n, hn, hidn, rfl⟩ := (hmem feature).1 hfeature
        exact .inl ⟨n, hn, hidn, henabled⟩
    · rintro (⟨n, hn, hidn, henabled⟩ | h)
      · exact .inr ⟨n.feature, (hmem _).2 ⟨n, hn, hidn, rfl⟩, henabled⟩
      · exact absurd hid (h user huser).1
  · have hnone : ∀ n ∈ needs, id ∉ n.types := fun n hn hid => hneeded ⟨n, hn, hid⟩
    rw [gatesOf_of_forall hnone, holds_allGates_iff]
    constructor
    · intro h
      exact .inr fun n hn => ⟨hnone n hn, h n hn⟩
    · rintro (⟨n, hn, hid, -⟩ | h)
      · exact absurd hid (hnone n hn)
      · exact fun n hn => (h n hn).2

/-- Gates pass on to what is needed together with a type. -/
theorem holds_gatesOf_of_forall {target : String}
    (huse : ∀ n ∈ needs, id ∈ n.types → target ∈ n.types)
    (h : (gatesOf needs id).holds enabled = true) :
    (gatesOf needs target).holds enabled = true := by
  rw [holds_gatesOf_iff] at h ⊢
  rcases h with ⟨n, hn, hid, henabled⟩ | h
  · exact .inl ⟨n, hn, huse n hn hid, henabled⟩
  · by_cases htarget : ∃ n ∈ needs, target ∈ n.types
    · obtain ⟨n, hn, hmem⟩ := htarget
      exact .inl ⟨n, hn, hmem, (h n hn).2⟩
    · refine .inr fun n hn => ⟨fun hmem => htarget ⟨n, hn, hmem⟩, (h n hn).2⟩

end Needs

/-! ## Which types are compiled -/

/-- A type is compiled when the given features are enabled: it is annotated in full, and its gates
hold. -/
def AnnotatedModel.Compiles (model : AnnotatedModel) (enabled : String → Bool) (id : String) :
    Prop :=
  (∃ m, model.messages[id]? = some m ∧ m.basic = false ∧ m.featureGates.holds enabled = true) ∨
    ∃ e, model.enums[id]? = some e ∧ e.basic = false ∧ e.featureGates.holds enabled = true

namespace Api

/-- A message or enum of the API's own package has the given ID. -/
def IsOwnType (api : Api) (id : String) : Prop :=
  ∃ d ∈ api.declaredTypes, api.isOwn d.package = true ∧ d.id = id

/-- A field is made of the given type: it holds values of that type, or it is a map whose entries
have keys or values of that type. -/
inductive HeldBy (api : Api) (f : Field) : String → Prop
  | value {id : String} : f.map = false → f.typeId = some id → HeldBy api f id
  | mapKey {entry id : String} {key : Field} : f.map = true → f.typeId = some entry →
      api.mapKey? entry = some key → key.typeId = some id → HeldBy api f id
  | mapValue {entry id : String} {value : Field} : f.map = true → f.typeId = some entry →
      api.mapValue? entry = some value → value.typeId = some id → HeldBy api f id

variable {api : Api} {id : String}

theorem isOwnType_iff :
    api.IsOwnType id ↔ (∃ m ∈ api.structs, api.isOwn m.package = true ∧ m.id = id) ∨
      ∃ e ∈ api.enums, api.isOwn e.package = true ∧ e.id = id := by
  simp [IsOwnType, declaredTypes, or_and_right, exists_or, DeclaredType.ofMessage,
    DeclaredType.ofEnum]

/-- A declared type with a parent uses it. -/
theorem nestedUse_of_declared {d : DeclaredType} {parent : String} (hd : d ∈ api.declaredTypes)
    (hparent : d.parent = some parent) : api.NestedUse d.id parent := by
  simp only [declaredTypes, List.mem_append, List.mem_map] at hd
  rcases hd with ⟨m, hm, rfl⟩ | ⟨e, he, rfl⟩
  · exact .inl ⟨m, mem_messages_of_mem_structs hm, rfl, hparent⟩
  · exact .inr ⟨e, he, rfl, hparent⟩

/-- What needs a message also needs the types that its fields are made of. -/
theorem HeldBy.mem_usedBy {m : Message} {f : Field} {seeds : List String} (hheld : api.HeldBy f id)
    (hm : m ∈ api.messages) (hf : f ∈ m.fields) (h : m.id ∈ api.usedBy seeds) :
    id ∈ api.usedBy seeds := by
  have hfield : ∀ target, f.typeId = some target → target ∈ api.usedBy seeds := by
    intro target htype
    exact mem_usedBy_of_use h (.inl ⟨m, hm, rfl, f, hf, htype⟩)
  -- a map is reached in two steps, through the message of its entries
  have hentry : ∀ entry inner name, f.typeId = some entry →
      (api.message? entry).bind (·.field? name) = some inner → inner.typeId = some id →
      id ∈ api.usedBy seeds := by
    intro entry inner name htype hinner hid
    obtain ⟨e, he, hfind⟩ := Option.bind_eq_some_iff.1 hinner
    obtain ⟨hmem, rfl⟩ := of_message?_eq_some he
    exact mem_usedBy_of_use (hfield e.id htype)
      (.inl ⟨e, hmem, rfl, inner, List.mem_of_find?_eq_some hfind, hid⟩)
  cases hheld with
  | value _ htype => exact hfield id htype
  | mapKey _ htype hkey hid => exact hentry _ _ _ htype hkey hid
  | mapValue _ htype hvalue hid => exact hentry _ _ _ htype hvalue hid

end Api

section Pass

variable [Speller] {api : Api} {options : Options} {result : Annotated} {enabled : String → Bool}

/-- **An own type is compiled exactly if its gates hold**, the gates being those that the needs of
the services give it. -/
theorem compiles_iff (h : annotate api options = .ok result) (hids : api.typeIds.Nodup)
    (hgated : options.perServiceFeatures = true) {id : String} (hown : api.IsOwnType id) :
    result.model.Compiles enabled id ↔
      (gatesOf (api.needs options) id).holds enabled = true := by
  rcases Api.isOwnType_iff.1 hown with ⟨m, hm, hpackage, rfl⟩ | ⟨e, he, hpackage, rfl⟩
  · obtain ⟨names, -, hentry⟩ := getElem?_messages_of_annotate h hids hm
    have hnone := getElem?_enums_of_message h hids hm
    simp [AnnotatedModel.Compiles, hentry, hnone, hpackage, Api.typeGates, hgated]
  · obtain ⟨names, -, hentry⟩ := getElem?_enums_of_annotate h hids he
    have hnone := getElem?_messages_of_enum h hids he
    simp [AnnotatedModel.Compiles, hentry, hnone, hpackage, Api.typeGates, hgated]

/-- The kept services are those with a generated method. -/
theorem Api.mem_retained_iff {r : RetainedService} :
    r ∈ api.retained options ↔ ∃ s ∈ api.services, generatedMethods options s ≠ [] ∧
      r = ⟨s, Identifier.featureName s.name, generatedMethods options s⟩ := by
  simp only [Api.retained, List.mem_filterMap]
  refine exists_congr fun s => and_congr_right fun _ => ?_
  unfold retain?
  cases generatedMethods options s <;> simp [eq_comm]

/-- A service with a generated method is kept, with its feature and all its generated methods. -/
theorem exists_retained_of_generated {s : Service} {m : Method} (hs : s ∈ api.services)
    (hm : m ∈ generatedMethods options s) :
    ∃ r ∈ api.retained options, r.feature = Identifier.featureName s.name ∧
      r.methods = generatedMethods options s :=
  ⟨_, Api.mem_retained_iff.2 ⟨s, hs, List.ne_nil_of_mem hm, rfl⟩, rfl, rfl⟩

/-- What every service needs along with a type is compiled along with it. -/
theorem compiles_of_compiles (h : annotate api options = .ok result) (hids : api.typeIds.Nodup)
    (hgated : options.perServiceFeatures = true) {id target : String} (hid : api.IsOwnType id)
    (htarget : api.IsOwnType target)
    (huse : ∀ seeds, id ∈ api.usedBy seeds → target ∈ api.usedBy seeds)
    (hcompiled : result.model.Compiles enabled id) : result.model.Compiles enabled target := by
  rw [compiles_iff h hids hgated hid] at hcompiled
  rw [compiles_iff h hids hgated htarget]
  refine holds_gatesOf_of_forall ?_ hcompiled
  intro n hn hmem
  obtain ⟨r, -, rfl⟩ := List.mem_map.1 hn
  exact huse r.seeds hmem

/-- **Compiled types are closed under use.** Whatever features are enabled: if a message is
compiled, so are the own types that its fields are made of; if a nested type is compiled, so is the
own message around it; and if the feature of a service is enabled, the own types of the requests and
responses of its generated methods are compiled. -/
theorem compiled_types_closed_under_use (h : annotate api options = .ok result)
    (hids : api.typeIds.Nodup) (hgated : options.perServiceFeatures = true)
    (enabled : String → Bool) :
    (∀ m ∈ api.structs, api.isOwn m.package = true → result.model.Compiles enabled m.id →
      ∀ f ∈ m.fields, ∀ id, api.HeldBy f id → api.IsOwnType id →
        result.model.Compiles enabled id) ∧
    (∀ d ∈ api.declaredTypes, api.isOwn d.package = true → result.model.Compiles enabled d.id →
      ∀ parent, d.parent = some parent → api.IsOwnType parent →
        result.model.Compiles enabled parent) ∧
    ∀ s ∈ api.services, enabled (Identifier.featureName s.name) = true →
      ∀ method ∈ generatedMethods options s, ∀ id ∈ [method.inputTypeId, method.outputTypeId],
        api.IsOwnType id → result.model.Compiles enabled id := by
  refine ⟨?_, ?_, ?_⟩
  · intro m hm hpackage hcompiled f hf id hheld hid
    have hown : api.IsOwnType m.id := Api.isOwnType_iff.2 (.inl ⟨m, hm, hpackage, rfl⟩)
    refine compiles_of_compiles h hids hgated hown hid ?_ hcompiled
    intro seeds hmem
    exact hheld.mem_usedBy (Api.mem_messages_of_mem_structs hm) hf hmem
  · intro d hd hpackage hcompiled parent hparent hid
    refine compiles_of_compiles h hids hgated ⟨d, hd, hpackage, rfl⟩ hid ?_ hcompiled
    intro seeds hmem
    exact Api.mem_usedBy_of_use hmem (.inr (Api.nestedUse_of_declared hd hparent))
  · intro s hs henabled method hmethod id hseed hid
    rw [compiles_iff h hids hgated hid, holds_gatesOf_iff]
    obtain ⟨r, hr, hfeature, hmethods⟩ := exists_retained_of_generated hs hmethod
    refine .inl ⟨api.need r, List.mem_map_of_mem hr, ?_, ?_⟩
    · refine Api.mem_usedBy_of_mem (List.mem_flatMap.2 ⟨method, ?_, hseed⟩)
      rwa [hmethods]
    · rwa [Api.need, hfeature]

end Pass

/-- A service takes a request that holds a tree, and a tree holds trees and values of an enum that
is nested in it: with the feature of the service all of them are compiled. -/
theorem compiled_with_nested_enum_of_request :
    let child : Field := { kind := .message, typeId := some ".p.Tree", optional := true }
    let color : Field := { kind := .enum, typeId := some ".p.Tree.Color" }
    let tree : Message := { id := ".p.Tree", name := "Tree", fields := [child, color] }
    let root : Field := { kind := .message, typeId := some ".p.Tree" }
    let request : Message := { id := ".p.Request", name := "Request", fields := [root] }
    let colors : Enum := { id := ".p.Tree.Color", name := "Color", parent := some ".p.Tree" }
    let plant : Method :=
      { id := ".p.Forest.Plant", inputTypeId := ".p.Request", outputTypeId := emptyMessageId }
    let forest : Service := { id := ".p.Forest", name := "Forest", methods := [plant] }
    let api : Api := { messages := [tree, request], enums := [colors], services := [forest] }
    let options : Options := { perServiceFeatures := true, includeGrpcOnlyMethods := true }
    let enabled := fun feature => decide (feature = Identifier.featureName "Forest")
    ∃ result, annotate api options = .ok result ∧
      ∀ id ∈ [".p.Request", ".p.Tree", ".p.Tree.Color"], result.model.Compiles enabled id := by
  intro child color tree root request colors plant forest api options enabled
  obtain ⟨result, h⟩ : ∃ result, annotate api options = .ok result := by
    apply exists_annotate_eq_ok <;> simp [api, tree, request, colors, Api.HasModule, Api.isOwn]
  have hids : api.typeIds.Nodup := by simp [api, Api.typeIds, tree, request, colors]
  have hown : ∀ id ∈ [".p.Request", ".p.Tree", ".p.Tree.Color"], api.IsOwnType id := by
    simp [Api.isOwnType_iff, api, Api.structs, Api.isOwn, tree, request, colors]
  obtain ⟨hfields, -, hservices⟩ := compiled_types_closed_under_use h hids rfl enabled
  have hrequest : result.model.Compiles enabled request.id :=
    hservices forest (by simp [api]) (by simp [enabled, forest]) plant
      (by simp [generatedMethods, isGenerated, forest, options])
      request.id (by simp [request, plant]) (hown _ (by simp [request]))
  have htree : result.model.Compiles enabled tree.id :=
    hfields request (by simp [api, Api.structs, request, tree]) (by simp [Api.isOwn, request, api])
      hrequest root (by simp [request]) tree.id (.value rfl rfl) (hown _ (by simp [tree]))
  have hcolors : result.model.Compiles enabled colors.id :=
    hfields tree (by simp [api, Api.structs, request, tree]) (by simp [Api.isOwn, tree, api])
      htree color (by simp [tree]) colors.id (.value rfl rfl) (hown _ (by simp [colors]))
  refine ⟨result, h, ?_⟩
  simp only [List.mem_cons, List.not_mem_nil, or_false, forall_eq_or_imp, forall_eq]
  exact ⟨hrequest, htree, hcolors⟩

end ApiAnnotator
