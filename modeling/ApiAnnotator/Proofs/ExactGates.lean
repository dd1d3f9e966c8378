import ApiAnnotator.Proofs.Gating
import ApiAnnotator.Text.Spellings
import Mathlib.Data.Set.Basic

/-!
# Gates are exact and only grow

A type is gated on the features of exactly those services that need it, and any of them is enough.
Only a type that no service needs is gated on all features together. What a service needs does not
depend on the other services, so a type that is gated on any of some features is still gated on any
of them, and perhaps on one more, when a service is added.

## Main definitions

* `AnnotatedModel.gating?` — what a model says of the gates of a type.
* `Api.Needs` — a service needs a type.
* `Api.ExactGates` — the gates that a type of the API's own has to have.

## Main statements

* `gating?_of_annotate` — the gates that a pass records, whether or not IDs are distinct.
* `gates_exact_and_growing` — **gates are exact and only grow**.
-/

namespace ApiAnnotator

/-! ## Gates in terms of needs -/

section GatesOf

variable {needs : List Need} {id feature : String}

theorem mem_features_allGates_iff :
    feature ∈ (allGates needs).features ↔ ∃ n ∈ needs, n.feature = feature := by
  simp [allGates]

/-- Only a type that is needed is gated on any of some features. -/
theorem exists_of_operator_gatesOf (h : (gatesOf needs id).operator = .any) :
    ∃ n ∈ needs, id ∈ n.types := by
  by_contra hnone
  have hunneeded : ∀ n ∈ needs, id ∉ n.types := fun n hn hid => hnone ⟨n, hn, hid⟩
  rw [gatesOf_of_forall hunneeded] at h
  cases h

/-- More needs leave the features that a needed type is gated on. -/
theorem gatesOf_append (more : List Need) (h : (gatesOf needs id).operator = .any) :
    (gatesOf (needs ++ more) id).operator = .any ∧
      ∀ feature ∈ (gatesOf needs id).features, feature ∈ (gatesOf (needs ++ more) id).features := by
  obtain ⟨n, hn, hid⟩ := exists_of_operator_gatesOf h
  have hneeded : ∃ n ∈ needs ++ more, id ∈ n.types := ⟨n, List.mem_append_left more hn, hid⟩
  refine ⟨by rw [gatesOf_of_exists hneeded], fun feature hfeature => ?_⟩
  obtain ⟨user, huser, hmem, rfl⟩ := (mem_features_gatesOf_iff ⟨n, hn, hid⟩).1 hfeature
  exact (mem_features_gatesOf_iff hneeded).2 ⟨user, List.mem_append_left more huser, hmem, rfl⟩

end GatesOf

theorem mem_featuresOf_iff {retained : List RetainedService} {feature : String} :
    feature ∈ featuresOf retained ↔ ∃ r ∈ retained, r.feature = feature := by
  simp [featuresOf]

/-- The features of services are listed in order, each of them once. -/
theorem pairwise_featuresOf (retained : List RetainedService) :
    (featuresOf retained).Pairwise (· < ·) := by
  have hordered : (featuresOf retained).Pairwise fun a b => compare a b = .lt :=
    Std.ExtTreeSet.ordered_toList
  exact hordered.imp compareOfLessAndEq_eq_lt.1

/-! ## Who needs a type -/

namespace Api

variable [Speller] {api : Api} {options : Options} {id feature : String}

/-- A request or response of a generated method of the service uses the type. -/
def Needs (api : Api) (options : Options) (s : Service) (id : String) : Prop :=
  ∃ m ∈ generatedMethods options s, ∃ seed ∈ [m.inputTypeId, m.outputTypeId],
    Relation.ReflTransGen api.Use seed id

/-- The features of the services that need a type. -/
def featuresNeeding (api : Api) (options : Options) (id : String) : Set String :=
  {feature | ∃ s ∈ api.services, api.Needs options s id ∧
    Identifier.featureName s.name = feature}

/-- The features of all services that are kept. -/
def keptFeatures (api : Api) (options : Options) : Set String :=
  {feature | ∃ s ∈ api.services, generatedMethods options s ≠ [] ∧
    Identifier.featureName s.name = feature}

/-- A type is gated on any of the features of the services that need it, or on all features if there
is no such service. -/
structure ExactGates (api : Api) (options : Options) (id : String) (g : FeatureGates) : Prop where
  any : (api.featuresNeeding options id).Nonempty →
    g.operator = .any ∧ ∀ feature, feature ∈ g.features ↔ feature ∈ api.featuresNeeding options id
  all : api.featuresNeeding options id = ∅ →
    g.operator = .all ∧ ∀ feature, feature ∈ g.features ↔ feature ∈ api.keptFeatures options

theorem mem_keptFeatures_iff :
    feature ∈ api.keptFeatures options ↔ ∃ r ∈ api.retained options, r.feature = feature := by
  simp only [keptFeatures, Set.mem_ofPred_eq, mem_retained_iff]
  constructor
  · rintro ⟨s, hs, hkept, rfl⟩
    exact ⟨_, ⟨s, hs, hkept, rfl⟩, rfl⟩
  · rintro ⟨_, ⟨s, hs, hkept, rfl⟩, rfl⟩
    exact ⟨s, hs, hkept, rfl⟩

theorem mem_featuresNeeding_iff :
    feature ∈ api.featuresNeeding options id ↔
      ∃ n ∈ api.needs options, id ∈ n.types ∧ n.feature = feature := by
  simp only [featuresNeeding, Set.mem_ofPred_eq, needs, List.mem_map, mem_retained_iff]
  constructor
  · rintro ⟨s, hs, ⟨m, hm, seed, hseed, huse⟩, rfl⟩
    refine ⟨_, ⟨_, ⟨s, hs, List.ne_nil_of_mem hm, rfl⟩, rfl⟩, ?_, rfl⟩
    exact mem_usedBy_iff.2 ⟨seed, List.mem_flatMap.2 ⟨m, hm, hseed⟩, huse⟩
  · rintro ⟨_, ⟨_, ⟨s, hs, -, rfl⟩, rfl⟩, hid, rfl⟩
    obtain ⟨seed, hseed, huse⟩ := mem_usedBy_iff.1 hid
    obtain ⟨m, hm, hmem⟩ := List.mem_flatMap.1 hseed
    exact ⟨s, hs, ⟨m, hm, seed, hmem, huse⟩, rfl⟩

/-- **The gates of a type among the needs of all services are exact.** -/
theorem exactGates_gatesOf : api.ExactGates options id (gatesOf (api.needs options) id) where
  any := by
    rintro ⟨feature, hfeature⟩
    obtain ⟨n, hn, hid, -⟩ := mem_featuresNeeding_iff.1 hfeature
    have hneeded : ∃ n ∈ api.needs options, id ∈ n.types := ⟨n, hn, hid⟩
    refine ⟨by rw [gatesOf_of_exists hneeded], fun feature => ?_⟩
    rw [mem_features_gatesOf_iff hneeded, mem_featuresNeeding_iff]
  all := by
    intro hnone
    have hunneeded : ∀ n ∈ api.needs options, id ∉ n.types := by
      intro n hn hid
      have hmem : n.feature ∈ api.featuresNeeding options id :=
        mem_featuresNeeding_iff.2 ⟨n, hn, hid, rfl⟩
      simp [hnone] at hmem
    rw [gatesOf_of_forall hunneeded]
    refine ⟨rfl, fun feature => ?_⟩
    simp [mem_features_allGates_iff, mem_keptFeatures_iff, needs, need]

/-- The API with one more service. -/
def addService (api : Api) (s : Service) : Api :=
  { api with services := api.services ++ [s] }

/-- What the other services need is not changed by one more service. -/
theorem needs_addService (s : Service) :
    (api.addService s).needs options =
      api.needs options ++ ((retain? options s).map api.need).toList := by
  have hretained : (api.addService s).retained options =
      api.retained options ++ (retain? options s).toList := by
    cases hs : retain? options s <;> simp [retained, addService, hs]
  rw [needs, hretained, List.map_append]
  cases retain? options s <;> rfl

end Api

/-! ## What a model says of gates -/

/-- The two kinds of types, each of which has a table. -/
inductive TypeKind where
  | message
  | enum

/-- What the entry of a type says of its gates. -/
structure Gating where
  basic : Bool
  gates : FeatureGates

/-- What a model says of the gates of a type. -/
def AnnotatedModel.gating? (model : AnnotatedModel) : TypeKind → String → Option Gating
  | .message, id => model.messages[id]?.map fun m => ⟨m.basic, m.featureGates⟩
  | .enum, id => model.enums[id]?.map fun e => ⟨e.basic, e.featureGates⟩

namespace Api

variable {api : Api} {options : Options} {kind : TypeKind} {id : String} {own : Bool}

/-- Whether the type of a kind that counts for an ID is the API's own, if there is one. -/
def owns? (api : Api) : TypeKind → String → Option Bool
  | .message, id => (lastWith? Message.id id (api.ownMessages ++ api.otherMessages)).map
      (api.isOwn ·.package)
  | .enum, id => (lastWith? Enum.id id (api.ownEnums ++ api.otherEnums)).map (api.isOwn ·.package)

/-- The gates of a type of the API's own. For an enum the services are not asked if its ID is also
that of an own message. -/
def ownGates [Speller] (api : Api) (options : Options) : TypeKind → String → FeatureGates
  | .message, id => gatesOf (api.needs options) id
  | .enum, id =>
    if api.owns? .message id = some true then allGates (api.needs options)
    else gatesOf (api.needs options) id

theorem exists_declared_of_owns? (h : api.owns? kind id = some own) :
    ∃ d ∈ api.declaredTypes, d.id = id ∧ api.isOwn d.package = own := by
  cases kind with
  | message =>
      obtain ⟨m, hm, rfl⟩ := Option.map_eq_some_iff.1 h
      obtain ⟨hmem, hid⟩ := of_lastWith?_eq_some hm
      have hdeclared : .ofMessage m ∈ api.declaredTypes :=
        List.mem_append_left _ (List.mem_map_of_mem (api.perm_structs.mem_iff.1 hmem))
      exact ⟨_, hdeclared, hid, rfl⟩
  | enum =>
      obtain ⟨e, he, rfl⟩ := Option.map_eq_some_iff.1 h
      obtain ⟨hmem, hid⟩ := of_lastWith?_eq_some he
      have hdeclared : .ofEnum e ∈ api.declaredTypes :=
        List.mem_append_right _ (List.mem_map_of_mem (api.perm_enums.mem_iff.1 hmem))
      exact ⟨_, hdeclared, hid, rfl⟩

/-- With distinct IDs every own type counts for its ID. -/
theorem exists_owns?_of_isOwnType (hids : api.typeIds.Nodup) (h : api.IsOwnType id) :
    ∃ kind, api.owns? kind id = some true := by
  rcases isOwnType_iff.1 h with ⟨m, hm, hpackage, rfl⟩ | ⟨e, he, hpackage, rfl⟩
  · exact ⟨.message, by simp [owns?, lastWith?_message (nodup_messageIds hids) hm, hpackage]⟩
  · exact ⟨.enum, by simp [owns?, lastWith?_enum (nodup_enumIds hids) he, hpackage]⟩

/-- With distinct IDs what counts for the ID of an own type is that type. -/
theorem owns?_iff_isOwnType (hids : api.typeIds.Nodup) (h : api.owns? kind id = some own) :
    own = true ↔ api.IsOwnType id := by
  obtain ⟨d, hd, rfl, rfl⟩ := exists_declared_of_owns? h
  constructor
  · intro hown
    exact ⟨d, hd, hown, rfl⟩
  · rintro ⟨d', hd', hown, hid⟩
    rwa [← List.inj_on_of_nodup_map (nodup_ids_declaredTypes hids) hd' hd hid]

variable [Speller]

/-- With distinct IDs the services are asked for the gates of every own type. -/
theorem ownGates_eq_gatesOf (hids : api.typeIds.Nodup) (h : api.owns? kind id = some own) :
    api.ownGates options kind id = gatesOf (api.needs options) id := by
  cases kind with
  | message => rfl
  | enum =>
      obtain ⟨e, he, -⟩ := Option.map_eq_some_iff.1 h
      obtain ⟨hmem, rfl⟩ := of_lastWith?_eq_some he
      have hnone : api.owns? .message e.id = none := by
        simp [owns?, lastWith?_message_of_enum hids (api.perm_enums.mem_iff.1 hmem)]
      simp [ownGates, hnone]

/-- Gates that are any of some features only grow when a service is added. -/
theorem ownGates_addService (s : Service) (h : (api.ownGates options kind id).operator = .any) :
    ((api.addService s).ownGates options kind id).operator = .any ∧
      ∀ feature ∈ (api.ownGates options kind id).features,
        feature ∈ ((api.addService s).ownGates options kind id).features := by
  have hgrow : (gatesOf (api.needs options) id).operator = .any →
      (gatesOf ((api.addService s).needs options) id).operator = .any ∧
        ∀ feature ∈ (gatesOf (api.needs options) id).features,
          feature ∈ (gatesOf ((api.addService s).needs options) id).features := by
    rw [needs_addService]
    exact gatesOf_append _
  cases kind with
  | message => exact hgrow h
  | enum =>
      have howns : (api.addService s).owns? .message id = api.owns? .message id := rfl
      rw [ownGates, howns]
      by_cases hmessage : api.owns? .message id = some true
      · -- gates on all features are never gates on any of them
        simp [ownGates, hmessage, allGates] at h
      · simp only [ownGates, if_neg hmessage] at h ⊢
        exact hgrow h

end Api

section Pass

variable [Speller] {api : Api} {options : Options} {result : Annotated}

/-- **The gates that a pass records**: those of own types if features are asked for, and none
otherwise. -/
theorem gating?_of_annotate (h : annotate api options = .ok result) (kind : TypeKind)
    (id : String) :
    result.model.gating? kind id = (api.owns? kind id).map fun own =>
      ⟨!own, if options.perServiceFeatures && own then api.ownGates options kind id else {}⟩ := by
  obtain ⟨d, hd, hmodel⟩ := draftsFrom_of_annotate h
  have hmessages := hd.rel_messages id
  have henums := hd.rel_enums id
  rw [Lexicon.api_of] at hmessages henums
  rw [hmodel]
  cases kind with
  | message =>
      simp only [AnnotatedModel.gating?, Lexicon.getElem?_model_messages, Api.owns?,
        Option.map_map]
      refine (map_eq_map_of_rel hmessages ?_).symm
      rintro m entry ⟨names, -, rfl⟩
      cases hown : api.isOwn m.package <;> cases hgated : options.perServiceFeatures <;>
        simp [hown, hgated, Api.ownGates, Api.needs, Lexicon.featureGates_messageEntry]
  | enum =>
      -- the message table is asked whether it has an own message with the ID of the enum
      have hown : api.owns? .message id = d.messages[id]?.map (!·.basic) := by
        refine map_eq_map_of_rel hmessages ?_
        rintro m entry ⟨names, -, rfl⟩
        simp
      have hmessage : (d.messages[id]?).any (!·.basic) =
          decide (api.owns? .message id = some true) := by
        rw [hown]
        cases d.messages[id]? <;> simp
      simp only [AnnotatedModel.gating?, Lexicon.getElem?_model_enums, Api.owns?,
        Option.map_map]
      refine (map_eq_map_of_rel henums ?_).symm
      rintro e entry ⟨names, -, rfl⟩
      cases hown : api.isOwn e.package <;> cases hgated : options.perServiceFeatures <;>
        simp [hown, hgated, hmessage, Api.ownGates, Api.needs, Lexicon.featureGates_enumEntry]

theorem allFeatures_of_annotate (h : annotate api options = .ok result)
    (hgated : options.perServiceFeatures = true) :
    result.model.crate.allFeatures = featuresOf (api.retained options) := by
  obtain ⟨d, -, hmodel⟩ := draftsFrom_of_annotate h
  simp [hmodel, Lexicon.model, Lexicon.crateInfo, hgated]

/-- With distinct IDs the own types are those whose entries are not basic. Their gates are exact,
and basic entries have no gates. -/
theorem exactGates_of_gating? (h : annotate api options = .ok result)
    (hids : api.typeIds.Nodup) (hgated : options.perServiceFeatures = true) {kind : TypeKind}
    {id : String} {entry : Gating} (hentry : result.model.gating? kind id = some entry) :
    (entry.basic = false ↔ api.IsOwnType id) ∧
      (entry.basic = false → api.ExactGates options id entry.gates) ∧
      (entry.basic = true → entry.gates = {}) := by
  rw [gating?_of_annotate h] at hentry
  obtain ⟨own, hown, rfl⟩ := Option.map_eq_some_iff.1 hentry
  refine ⟨?_, ?_, ?_⟩
  · simpa using Api.owns?_iff_isOwnType hids hown
  · intro hbasic
    obtain rfl : own = true := by simpa using hbasic
    simpa [hgated, Api.ownGates_eq_gatesOf hids hown] using Api.exactGates_gatesOf
  · intro hbasic
    obtain rfl : own = false := by simpa using hbasic
    simp

/-- Exact gates are on features of services that are kept. -/
theorem Api.ExactGates.mem_keptFeatures {id feature : String} {g : FeatureGates}
    (hexact : api.ExactGates options id g) (h : feature ∈ g.features) :
    feature ∈ api.keptFeatures options := by
  rcases (api.featuresNeeding options id).eq_empty_or_nonempty with hnone | hsome
  · exact ((hexact.all hnone).2 feature).1 h
  · obtain ⟨s, hs, ⟨m, hm, -⟩, rfl⟩ := ((hexact.any hsome).2 feature).1 h
    exact ⟨s, hs, List.ne_nil_of_mem hm, rfl⟩

/-- **Gates are exact and only grow.** With features for services and distinct IDs: every own type
has an entry; the own types are those whose entries are not basic, and their gates are exact; basic
entries have no gates; all features are those of the kept services, strictly in order, and gates are
on no others. And whatever the IDs and options: a type that is gated on any of some features is
gated on any of them still when a service is added. -/
theorem gates_exact_and_growing (h : annotate api options = .ok result) :
    (api.typeIds.Nodup → options.perServiceFeatures = true →
      (∀ id, api.IsOwnType id → ∃ kind entry, result.model.gating? kind id = some entry) ∧
      (∀ kind id entry, result.model.gating? kind id = some entry →
        (entry.basic = false ↔ api.IsOwnType id) ∧
        (entry.basic = false → api.ExactGates options id entry.gates) ∧
        (entry.basic = true → entry.gates = {}) ∧
        ∀ feature ∈ entry.gates.features, feature ∈ result.model.crate.allFeatures) ∧
      result.model.crate.allFeatures.Pairwise (· < ·) ∧
      ∀ feature, feature ∈ result.model.crate.allFeatures ↔
        feature ∈ api.keptFeatures options) ∧
    ∀ s result', annotate (api.addService s) options = .ok result' →
      ∀ kind id entry, result.model.gating? kind id = some entry →
        entry.gates.operator = .any →
        ∃ entry', result'.model.gating? kind id = some entry' ∧
          entry'.gates.operator = .any ∧
          ∀ feature ∈ entry.gates.features, feature ∈ entry'.gates.features := by
  constructor
  · intro hids hgated
    have hfeatures : ∀ feature, feature ∈ result.model.crate.allFeatures ↔
        feature ∈ api.keptFeatures options := by
      intro feature
      rw [allFeatures_of_annotate h hgated, mem_featuresOf_iff, Api.mem_keptFeatures_iff]
    refine ⟨?_, ?_, ?_, hfeatures⟩
    · intro id hown
      obtain ⟨kind, hkind⟩ := Api.exists_owns?_of_isOwnType hids hown
      exact ⟨kind, _, by rw [gating?_of_annotate h, hkind, Option.map_some]⟩
    · intro kind id entry hentry
      obtain ⟨hown, hexact, hbasic⟩ := exactGates_of_gating? h hids hgated hentry
      refine ⟨hown, hexact, hbasic, fun feature hfeature => (hfeatures feature).2 ?_⟩
      cases hkind : entry.basic with
      | true => simp [hbasic hkind] at hfeature
      | false => exact (hexact hkind).mem_keptFeatures hfeature
    · rw [allFeatures_of_annotate h hgated]
      exact pairwise_featuresOf _
  · intro s result' h' kind id entry hentry hany
    rw [gating?_of_annotate h] at hentry
    obtain ⟨own, hown, rfl⟩ := Option.map_eq_some_iff.1 hentry
    have howns : (api.addService s).owns? kind id = some own := hown
    refine ⟨_, by rw [gating?_of_annotate h', howns, Option.map_some], ?_⟩
    by_cases hgates : (options.perServiceFeatures && own) = true
    · simp only [if_pos hgates] at hany ⊢
      exact Api.ownGates_addService s hany
    · simp only [if_neg hgates]
      exact ⟨trivial, fun _ hfeature => hfeature⟩

end Pass

/-- A tree that only the service `Forest` uses, through a request, and a stone that none does. Since
`Forest` uses the tree still when the service `Orchard` does, too, the tree stays gated on it. -/
theorem gated_on_forest_with_orchard :
    let root : Field := { kind := .message, typeId := some ".p.Tree" }
    let request : Message := { id := ".p.Request", name := "Request", fields := [root] }
    let tree : Message := { id := ".p.Tree", name := "Tree" }
    let stone : Message := { id := ".p.Stone", name := "Stone" }
    let plant : Method :=
      { id := ".p.Forest.Plant", inputTypeId := ".p.Request", outputTypeId := emptyMessageId }
    let forest : Service := { id := ".p.Forest", name := "Forest", methods := [plant] }
    let graft : Method :=
      { id := ".p.Orchard.Graft", inputTypeId := ".p.Tree", outputTypeId := ".p.Tree" }
    let orchard : Service := { id := ".p.Orchard", name := "Orchard", methods := [graft] }
    let api : Api := { messages := [request, tree, stone], services := [forest] }
    let options : Options := { perServiceFeatures := true, includeGrpcOnlyMethods := true }
    ∃ result result', annotate api options = .ok result ∧
      annotate (api.addService orchard) options = .ok result' ∧
      (∃ stones, result.model.gating? .message stone.id = some stones ∧
        stones.gates.operator = .all) ∧
      ∃ trees trees', result.model.gating? .message tree.id = some trees ∧
        result'.model.gating? .message tree.id = some trees' ∧
        trees.gates.operator = .any ∧ trees'.gates.operator = .any ∧
        (∀ feature, feature ∈ trees.gates.features ↔ feature = Identifier.featureName "Forest") ∧
        Identifier.featureName "Forest" ∈ trees'.gates.features := by
  intro root request tree stone plant forest graft orchard api options
  obtain ⟨result, h⟩ : ∃ result, annotate api options = .ok result := by
    apply exists_annotate_eq_ok <;> simp [api, request, tree, stone, Api.HasModule, Api.isOwn]
  obtain ⟨result', h'⟩ : ∃ result, annotate (api.addService orchard) options = .ok result := by
    apply exists_annotate_eq_ok <;>
      simp [Api.addService, api, request, tree, stone, Api.HasModule, Api.isOwn]
  have hids : api.typeIds.Nodup := by simp [api, Api.typeIds, request, tree, stone]
  obtain ⟨hexact, hgrow⟩ := gates_exact_and_growing h
  obtain ⟨hentries, hgates, -⟩ := hexact hids rfl
  have hmessage : ∀ m ∈ api.structs, ∃ entry,
      result.model.gating? .message m.id = some entry ∧
        api.ExactGates options m.id entry.gates := by
    intro m hm
    have hown : api.IsOwnType m.id := by
      refine Api.isOwnType_iff.2 (.inl ⟨m, hm, ?_, rfl⟩)
      have hmem := Api.mem_messages_of_mem_structs hm
      simp only [api, List.mem_cons, List.not_mem_nil, or_false] at hmem
      rcases hmem with rfl | rfl | rfl <;> rfl
    obtain ⟨kind, entry, hentry⟩ := hentries m.id hown
    obtain ⟨hbasic, hgated, -⟩ := hgates kind m.id entry hentry
    cases kind with
    | message => exact ⟨entry, hentry, hgated (hbasic.2 hown)⟩
    | enum => simp [AnnotatedModel.gating?, getElem?_enums_of_message h hids hm] at hentry
  obtain ⟨trees, htrees, htree⟩ := hmessage tree (by simp [api, Api.structs, request, tree, stone])
  obtain ⟨stones, hstones, hstone⟩ :=
    hmessage stone (by simp [api, Api.structs, request, tree, stone])
  have hneeded : ∀ feature, feature ∈ api.featuresNeeding options tree.id ↔
      feature = Identifier.featureName "Forest" := by
    have huse : api.Use request.id tree.id :=
      .inl ⟨request, by simp [api], rfl, root, by simp [request], rfl⟩
    have hneeds : api.Needs options forest tree.id :=
      ⟨plant, by simp [generatedMethods, isGenerated, forest, options], request.id,
        by simp [plant, request], .single huse⟩
    intro feature
    simp [Api.featuresNeeding, api, hneeds, forest, eq_comm]
  have hunneeded : api.featuresNeeding options stone.id = ∅ := by
    refine Set.eq_empty_of_forall_notMem ?_
    rintro feature ⟨s, hs, ⟨m, hm, seed, hseed, hpath⟩, -⟩
    obtain rfl : s = forest := by simpa [api] using hs
    obtain rfl : m = plant := by
      simpa [generatedMethods, isGenerated, forest, options] using hm
    rcases hpath.cases_tail with hself | ⟨user, -, huse⟩
    · simp [plant, ← hself, stone, emptyMessageId] at hseed
    · simp [Api.Use, Api.FieldUse, Api.NestedUse, api, request, tree, stone, root] at huse
  obtain ⟨hany, hfeatures⟩ := htree.any ⟨_, (hneeded _).2 rfl⟩
  obtain ⟨trees', htrees', hany', hkept⟩ :=
    hgrow orchard result' h' .message tree.id trees htrees hany
  have honly : ∀ feature, feature ∈ trees.gates.features ↔
      feature = Identifier.featureName "Forest" :=
    fun feature => (hfeatures feature).trans (hneeded feature)
  exact ⟨result, result', h, h', ⟨stones, hstones, (hstone.all hunneeded).1⟩, trees, trees', htrees,
    htrees', hany, hany', honly, hkept _ ((honly _).2 rfl)⟩

end ApiAnnotator
