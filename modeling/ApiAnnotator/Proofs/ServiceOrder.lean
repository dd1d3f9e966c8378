import ApiAnnotator.Proofs.Accounting
import ApiAnnotator.Text.Spellings

/-!
# The order of services does not matter

Services are annotated one after the other, but nothing that is made for one of them is looked at
for another one. The types do not look at the services at all: their names, their fields and what
they use are made from the types alone. So services in another order give the same entries and the
same warnings, in another order; a table does not depend on the order of its entries if their keys
differ, and the features that services ask for are kept in sets. What is left of the order is the
list of the services in the annotation of the crate, and the order of the warnings.

If several packages have no crate, which one is met first depends on the order, but not whether
there is any.

## Main definitions

* `Api.withServices`, `Lexicon.withServices` — the same types with other services.
* `Annotated.SameUpToOrder` — two results differ only in the order of services and warnings.

## Main statements

* `Lexicon.drafts_withServices` — what types and services are annotated with is made from the types.
* `Yields.exists_perm_mapM` — a run over a list in another order.
* `Table.ofEntries_perm`, `gatesOf_perm`, `featuresOf_perm` — what does not depend on the order.
* `annotate_service_order` — **the order of services does not matter**.
-/

namespace ApiAnnotator

/-! ## What does not look at the services -/

namespace Api

/-- The API with other services. -/
def withServices (api : Api) (services : List Service) : Api :=
  { api with services }

variable (api : Api) (services : List Service)

theorem outwards_withServices :
    (api.withServices services).outwards = api.outwards := by
  funext seen parent
  fun_induction outwards api seen parent with
  | case1 => rw [outwards]
  | case2 seen id hnone =>
      have hnone' : (api.withServices services).message? id = none := hnone
      rw [outwards]
      split <;> simp_all
  | case3 seen id m hsome hseen =>
      have hsome' : (api.withServices services).message? id = some m := hsome
      rw [outwards]
      split <;> simp_all
  | case4 seen id m hsome hseen ih =>
      have hsome' : (api.withServices services).message? id = some m := hsome
      rw [outwards]
      split <;> simp_all

variable [Speller]

theorem hops_withServices : (api.withServices services).hops = api.hops := by
  funext m path
  induction path generalizing m with
  | nil => rfl
  | cons name rest ih =>
      cases rest with
      | nil => rfl
      | cons second rest =>
          unfold hops
          simp only [ih]
          rfl

theorem accessor_withServices : (api.withServices services).accessor = api.accessor := by
  funext root path
  unfold accessor
  rw [hops_withServices]

end Api

namespace Lexicon

/-- The lexicon with other services. -/
def withServices (lx : Lexicon) (services : List Service) : Lexicon :=
  { lx with api := lx.api.withServices services }

variable [Speller]

/-- Names are made without the services. -/
theorem of_withServices (api : Api) (options : Options) (services : List Service) :
    of (api.withServices services) options = (of api options).withServices services := rfl

variable (lx : Lexicon) (services : List Service)

theorem moduleBelow_withServices : (lx.withServices services).moduleBelow = lx.moduleBelow := by
  funext root parent
  have henclosing : (lx.withServices services).api.enclosing parent = lx.api.enclosing parent :=
    congrArg (fun outwards => (outwards [] parent).reverse)
      (lx.api.outwards_withServices services)
  rw [moduleBelow, moduleBelow, henclosing]
  rfl

theorem qualify_withServices : (lx.withServices services).qualify = lx.qualify := by
  funext d
  unfold qualify
  rw [moduleBelow_withServices]
  rfl

theorem ofMessage_withServices : (lx.withServices services).ofMessage = lx.ofMessage := by
  funext m
  rw [ofMessage, qualify_withServices]
  rfl

theorem ofEnum_withServices : (lx.withServices services).ofEnum = lx.ofEnum := by
  funext e
  rw [ofEnum, qualify_withServices]
  rfl

theorem typeOf_withServices : (lx.withServices services).typeOf = lx.typeOf := by
  funext id referrer
  unfold typeOf ofId
  rw [ofMessage_withServices, ofEnum_withServices]
  rfl

theorem fieldType_withServices : (lx.withServices services).fieldType = lx.fieldType := by
  funext boxed f
  unfold fieldType mapType elementType
  rw [typeOf_withServices]
  rfl

theorem annotateMessage_withServices :
    (lx.withServices services).annotateMessage = lx.annotateMessage := by
  funext m
  unfold annotateMessage annotateField
  rw [ofMessage_withServices, fieldType_withServices]
  rfl

theorem annotateEnum_withServices :
    (lx.withServices services).annotateEnum = lx.annotateEnum := by
  funext e
  unfold annotateEnum
  rw [ofEnum_withServices]
  rfl

theorem basicMessage_withServices :
    (lx.withServices services).basicMessage = lx.basicMessage := by
  funext m
  unfold basicMessage
  rw [ofMessage_withServices]
  rfl

theorem basicEnum_withServices : (lx.withServices services).basicEnum = lx.basicEnum := by
  funext e
  unfold basicEnum
  rw [ofEnum_withServices]

theorem callShape_withServices : (lx.withServices services).callShape = lx.callShape := by
  have haccessor : (lx.withServices services).api.accessor = lx.api.accessor :=
    lx.api.accessor_withServices services
  funext m
  unfold callShape Api.route Api.substitution Api.variableAccessor Api.resourceNames
    Api.resourceName?
  rw [haccessor]
  rfl

theorem annotateService_withServices :
    (lx.withServices services).annotateService = lx.annotateService := by
  funext known r
  unfold annotateService annotateMethod returnType callType
  rw [typeOf_withServices, callShape_withServices]

/-- **What is drafted for given services is made from the types alone.** -/
theorem drafts_withServices : (lx.withServices services).drafts = lx.drafts := by
  funext retained
  unfold drafts
  rw [annotateEnum_withServices, annotateMessage_withServices, annotateService_withServices,
    basicEnum_withServices, basicMessage_withServices]
  rfl

end Lexicon

/-! ## Lists and tables in another order -/

/-- A run over a list starts with its first item. -/
theorem yields_mapM_cons_iff {α β : Type} {f : α → Annotating β} {x : α} {xs : List α}
    {ys : List β} {ws : List Warning} :
    Yields ((x :: xs).mapM f) ys ws ↔ ∃ y ys' ws₁ ws₂, Yields (f x) y ws₁ ∧
      Yields (xs.mapM f) ys' ws₂ ∧ ys = y :: ys' ∧ ws = ws₁ ++ ws₂ := by
  rw [List.mapM_cons]
  constructor
  · intro h
    obtain ⟨y, ws₁, _, hy, hrest, rfl⟩ := yields_bind_iff.1 h
    obtain ⟨ys', ws₂, _, hys, hcons, rfl⟩ := yields_bind_iff.1 hrest
    obtain ⟨rfl, rfl⟩ := yields_pure_iff.1 hcons
    exact ⟨y, ys', ws₁, ws₂, hy, hys, rfl, by simp⟩
  · rintro ⟨y, ys', ws₁, ws₂, hy, hys, rfl, rfl⟩
    exact yields_bind_iff.2 ⟨y, ws₁, ws₂, hy, yields_bind_iff.2
      ⟨ys', ws₂, [], hys, yields_pure_iff.2 ⟨rfl, rfl⟩, by simp⟩, rfl⟩

/-- **A run over a list in another order** succeeds as well. It gives the same values and notes the
same warnings, in another order. -/
theorem Yields.exists_perm_mapM {α β : Type} {f : α → Annotating β} {xs xs' : List α}
    (hperm : xs.Perm xs') {ys : List β} {ws : List Warning} (h : Yields (xs.mapM f) ys ws) :
    ∃ ys' ws', Yields (xs'.mapM f) ys' ws' ∧ ys'.Perm ys ∧ ws'.Perm ws := by
  induction hperm generalizing ys ws with
  | nil => exact ⟨ys, ws, h, .refl _, .refl _⟩
  | cons x _ ih =>
      obtain ⟨y, tail, ws₁, ws₂, hy, htail, rfl, rfl⟩ := yields_mapM_cons_iff.1 h
      obtain ⟨tail', ws', htail', hys, hws⟩ := ih htail
      exact ⟨_, _, yields_mapM_cons_iff.2 ⟨y, tail', ws₁, ws', hy, htail', rfl, rfl⟩,
        hys.cons y, hws.append_left ws₁⟩
  | swap x x' rest =>
      obtain ⟨y, _, ws₁, _, hy, hrun, rfl, rfl⟩ := yields_mapM_cons_iff.1 h
      obtain ⟨y', tail, ws₂, ws₃, hy', htail, rfl, rfl⟩ := yields_mapM_cons_iff.1 hrun
      have hrest := yields_mapM_cons_iff.2 ⟨y, tail, ws₁, ws₃, hy, htail, rfl, rfl⟩
      refine ⟨_, _, yields_mapM_cons_iff.2 ⟨y', _, ws₂, _, hy', hrest, rfl, rfl⟩, .swap .., ?_⟩
      rw [← List.append_assoc, ← List.append_assoc]
      exact List.perm_append_comm.append_right ws₃
  | trans _ _ ih ih' =>
      obtain ⟨ys', ws', h', hys, hws⟩ := ih h
      obtain ⟨ys'', ws'', h'', hys', hws'⟩ := ih' h'
      exact ⟨ys'', ws'', h'', hys'.trans hys, hws'.trans hws⟩

/-- If all keys differ, a table does not depend on the order of its entries. -/
theorem Table.ofEntries_perm {α : Type} {entries entries' : List (String × α)}
    (hperm : entries.Perm entries') (hkeys : (entries.map Prod.fst).Nodup) :
    ofEntries entries = ofEntries entries' := by
  refine Std.ExtTreeMap.ext_getElem? fun k => ?_
  rw [getElem?_ofEntries, getElem?_ofEntries, lastWith?_perm hperm hkeys]

/-- A set does not depend on the order of its items. -/
theorem names_ofList_perm {names names' : List String} (hperm : names.Perm names') :
    (Std.ExtTreeSet.ofList names : Names) = .ofList names' := by
  refine Std.ExtTreeSet.ext_mem fun name => ?_
  simp [hperm.mem_iff]

/-! ## Features and gates -/

section Gates

variable {needs needs' : List Need}

theorem allGates_perm (hperm : needs.Perm needs') : allGates needs = allGates needs' := by
  rw [allGates, allGates, names_ofList_perm (hperm.map _)]

/-- Gates do not depend on the order of those that need a type. -/
theorem gatesOf_perm (hperm : needs.Perm needs') : gatesOf needs = gatesOf needs' := by
  funext id
  by_cases hneeded : ∃ n ∈ needs, id ∈ n.types
  · have hneeded' : ∃ n ∈ needs', id ∈ n.types := by simpa [hperm.mem_iff] using hneeded
    rw [gatesOf_of_exists hneeded, gatesOf_of_exists hneeded',
      names_ofList_perm ((hperm.filter _).map _)]
  · have hunneeded : ∀ n ∈ needs, id ∉ n.types := by simpa using hneeded
    have hunneeded' : ∀ n ∈ needs', id ∉ n.types := by simpa [hperm.mem_iff] using hunneeded
    rw [gatesOf_of_forall hunneeded, gatesOf_of_forall hunneeded', allGates_perm hperm]

theorem featuresOf_perm {retained retained' : List RetainedService}
    (hperm : retained.Perm retained') : featuresOf retained = featuresOf retained' := by
  rw [featuresOf, featuresOf, names_ofList_perm (hperm.map _)]

end Gates

/-! ## The drafts and what is made of them -/

namespace Lexicon

variable [Speller] {lx : Lexicon} {retained retained' : List RetainedService} {d : Drafts}
  {ws : List Warning}

/-- With services in another order, only the drafts of services and the warnings come in another
order. -/
theorem exists_drafts_of_perm (hperm : retained.Perm retained')
    (h : Yields (lx.drafts retained) d ws) :
    ∃ services ws', Yields (lx.drafts retained') { d with services } ws' ∧
      services.Perm d.services ∧ ws'.Perm ws := by
  obtain ⟨ownEnums, ws₁, _, hownEnums, h₁, rfl⟩ := yields_bind_iff.1 h
  obtain ⟨ownMessages, ws₂, _, hownMessages, h₂, rfl⟩ := yields_bind_iff.1 h₁
  obtain ⟨services, ws₃, _, hservices, h₃, rfl⟩ := yields_bind_iff.1 h₂
  obtain ⟨services', ws₃', hservices', hsame, hwarnings⟩ := hservices.exists_perm_mapM hperm
  obtain ⟨_, ws₄, _, hadvice, h₄, rfl⟩ := yields_bind_iff.1 h₃
  obtain ⟨otherEnums, ws₅, _, hotherEnums, h₅, rfl⟩ := yields_bind_iff.1 h₄
  obtain ⟨otherMessages, ws₆, _, hotherMessages, h₆, rfl⟩ := yields_bind_iff.1 h₅
  obtain ⟨rfl, rfl⟩ := yields_pure_iff.1 h₆
  rw [hperm.length_eq] at hadvice
  refine ⟨services', _, ?_, hsame, ((hwarnings.append_right _).append_left ws₂).append_left ws₁⟩
  refine yields_bind_iff.2 ⟨_, _, _, hownEnums, ?_, rfl⟩
  refine yields_bind_iff.2 ⟨_, _, _, hownMessages, ?_, rfl⟩
  refine yields_bind_iff.2 ⟨_, _, _, hservices', ?_, rfl⟩
  refine yields_bind_iff.2 ⟨_, _, _, hadvice, ?_, rfl⟩
  refine yields_bind_iff.2 ⟨_, _, _, hotherEnums, ?_, rfl⟩
  refine yields_bind_iff.2 ⟨_, _, _, hotherMessages, ?_, rfl⟩
  exact yields_pure_iff.2 ⟨rfl, rfl⟩

/-- The keys of the drafts of services are the IDs of the kept services. -/
theorem DraftsFrom.map_fst_services (h : lx.DraftsFrom retained d ws) :
    d.services.map Prod.fst = retained.map (·.service.id) :=
  Table.map_fst_eq_map_key (h.services.imp fun _ _ hx => hx.1)

/-- The keys of the drafts of methods are the IDs of the generated methods. -/
theorem DraftsFrom.map_fst_methods (h : lx.DraftsFrom retained d ws) :
    (d.services.flatMap fun (_, parts) => parts.methods).map Prod.fst =
      (retained.flatMap (·.methods)).map (·.id) :=
  Table.map_fst_eq_map_key (h.forall₂_methods.imp fun _ _ hx => hx.1)

omit [Speller] in
/-- A model does not depend on the order of services, but for the annotation of the crate. -/
theorem model_perm (lx : Lexicon) {services : List (String × ServiceParts)} (features : List String)
    (hretained : retained.Perm retained') (hservices : services.Perm d.services)
    (hserviceKeys : (d.services.map Prod.fst).Nodup)
    (hmethodKeys : ((d.services.flatMap fun (_, parts) => parts.methods).map Prod.fst).Nodup) :
    lx.model retained' features { d with services } =
      { lx.model retained features d with crate := lx.crateInfo retained' features } := by
  have hneeds := hretained.map lx.api.need
  have hmessages : gateMessages (retained'.map lx.api.need) =
      gateMessages (retained.map lx.api.need) := by
    unfold gateMessages
    rw [gatesOf_perm hneeds]
  have henums : gateEnums (retained'.map lx.api.need) = gateEnums (retained.map lx.api.need) := by
    unfold gateEnums
    rw [gatesOf_perm hneeds, allGates_perm hneeds]
  have hserviceTable : Table.ofEntries (services.map fun (id, parts) => (id, parts.entry)) =
      Table.ofEntries (d.services.map fun (id, parts) => (id, parts.entry)) := by
    refine (Table.ofEntries_perm (hservices.symm.map _) ?_).symm
    simpa [Function.comp_def] using hserviceKeys
  have hmethodTable : Table.ofEntries (services.flatMap fun (_, parts) => parts.methods) =
      Table.ofEntries (d.services.flatMap fun (_, parts) => parts.methods) :=
    (Table.ofEntries_perm (hservices.symm.flatMap_right _) hmethodKeys).symm
  unfold model
  simp only [hmessages, henums, hserviceTable, hmethodTable]
  rfl

omit [Speller] in
/-- Numbers do not depend on the order of services. -/
theorem statistics_perm (lx : Lexicon) {services : List Service}
    {drafted : List (String × ServiceParts)} {ws' : List Warning} (features : List String)
    (hretained : retained.Perm retained') (hdrafted : drafted.Perm d.services)
    (hservices : services.Perm lx.api.services) :
    (lx.withServices services).statistics retained' features { d with services := drafted } ws' =
      { lx.statistics retained features d ws with warnings := ws' } := by
  have hmethods := (hretained.flatMap_right (·.methods)).length_eq
  have hskipped := (hservices.flatMap_right (·.methods)).countP_eq fun m =>
    !isGenerated lx.options m
  have hservices' : (lx.withServices services).api.services = services := rfl
  have hoptions : (lx.withServices services).options = lx.options := rfl
  unfold statistics
  rw [hservices', hoptions, hskipped, hmethods]
  simp only [hdrafted.length_eq]

end Lexicon

/-! ## The order of services -/

/-- The generated methods are among all methods, in their order. -/
theorem Api.generated_sublist (api : Api) (options : Options) :
    (api.generated options).Sublist (api.services.flatMap (·.methods)) := by
  rw [api.generated_eq_filter options]
  exact List.filter_sublist

/-- The kept services are among all services, in their order. -/
theorem Api.retained_sublist [Speller] (api : Api) (options : Options) :
    ((api.retained options).map (·.service)).Sublist api.services := by
  rw [api.map_service_retained options]
  exact List.filter_sublist

/-- Two results differ only in the order of services and warnings. -/
structure Annotated.SameUpToOrder (result result' : Annotated) : Prop where
  model : result'.model = { result.model with
    crate := { result.model.crate with services := result'.model.crate.services } }
  services : result'.model.crate.services.Perm result.model.crate.services
  statistics : result'.statistics =
    { result.statistics with warnings := result'.statistics.warnings }
  warnings : result'.statistics.warnings.Perm result.statistics.warnings

section Pass

variable [Speller]

/-- What a pass that succeeds is made of. -/
theorem annotate_eq_ok_iff {api : Api} {options : Options} {result : Annotated} :
    annotate api options = .ok result ↔
      let lx := Lexicon.of api options
      let retained := api.retained options
      let features := if options.perServiceFeatures then featuresOf retained else []
      ∃ d ws, Yields (lx.drafts retained) d ws ∧
        ⟨lx.model retained features d, lx.statistics retained features d ws⟩ = result := by
  unfold annotate Yields
  cases hvalue : ((Lexicon.of api options).drafts (api.retained options)).run.value with
  | error e => simp [hvalue, Except.map]
  | ok d => simp [hvalue, Except.map]

/-- A pass that succeeds also succeeds with the services in another order. -/
theorem exists_annotate_of_perm {api : Api} {options : Options} {result : Annotated}
    {services : List Service} (h : annotate api options = .ok result)
    (hservices : (api.services.map (·.id)).Nodup)
    (hmethods : ((api.services.flatMap (·.methods)).map (·.id)).Nodup)
    (hperm : services.Perm api.services) :
    ∃ result', annotate (api.withServices services) options = .ok result' ∧
      result.SameUpToOrder result' := by
  obtain ⟨d, ws, hdrafts, rfl⟩ := annotate_eq_ok_iff.1 h
  have hretained : (api.retained options).Perm ((api.withServices services).retained options) :=
    hperm.symm.filterMap _
  obtain ⟨drafted, ws', hdrafts', hsame, hwarnings⟩ :=
    Lexicon.exists_drafts_of_perm hretained hdrafts
  rw [← Lexicon.drafts_withServices _ services, ← Lexicon.of_withServices] at hdrafts'
  refine ⟨_, annotate_eq_ok_iff.2 ⟨_, ws', hdrafts', rfl⟩, ?_⟩
  have hd := Lexicon.draftsFrom_of_yields hdrafts
  have hserviceKeys : (d.services.map Prod.fst).Nodup := by
    have hids := hservices.sublist ((api.retained_sublist options).map (·.id))
    rw [List.map_map] at hids
    rw [hd.map_fst_services]
    exact hids
  have hmethodKeys :
      ((d.services.flatMap fun (_, parts) => parts.methods).map Prod.fst).Nodup := by
    rw [hd.map_fst_methods, Api.retained_flatMap_methods]
    exact hmethods.sublist ((api.generated_sublist options).map _)
  rw [← featuresOf_perm hretained]
  have hmodel := Lexicon.model_perm (Lexicon.of api options)
    (if options.perServiceFeatures then featuresOf (api.retained options) else [])
    hretained hsame hserviceKeys hmethodKeys
  exact {
    model := hmodel
    services := hretained.symm.map _
    statistics := Lexicon.statistics_perm (Lexicon.of api options) _ hretained hsame hperm
    warnings := hwarnings }

/-- **The order of services does not matter.** If services and methods have distinct IDs, then with
the services in another order either both passes stop, or both succeed with results that differ only
in the order in which the crate lists its services, which is that of their declaration, and in the
order of the warnings. -/
theorem annotate_service_order {api : Api} {services : List Service} (options : Options)
    (hservices : (api.services.map (·.id)).Nodup)
    (hmethods : ((api.services.flatMap (·.methods)).map (·.id)).Nodup)
    (hperm : services.Perm api.services) :
    (∃ problem problem', annotate api options = .error problem ∧
      annotate (api.withServices services) options = .error problem') ∨
    ∃ result result', annotate api options = .ok result ∧
      annotate (api.withServices services) options = .ok result' ∧
      result.SameUpToOrder result' ∧
      result.model.crate.services =
        (api.services.filter (generatedMethods options · ≠ [])).map (·.id) ∧
      result'.model.crate.services =
        (services.filter (generatedMethods options · ≠ [])).map (·.id) := by
  cases h : annotate api options with
  | ok result =>
      obtain ⟨result', h', hsame⟩ := exists_annotate_of_perm h hservices hmethods hperm
      exact .inr ⟨result, result', rfl, h', hsame, (covers_of_annotate h).crateServices,
        (covers_of_annotate h').crateServices⟩
  | error problem =>
      cases h' : annotate (api.withServices services) options with
      | error problem' => exact .inl ⟨problem, problem', rfl, rfl⟩
      | ok result' =>
          -- the services can be put back in order
          have hservices' : ((api.withServices services).services.map (·.id)).Nodup :=
            (hperm.map _).nodup_iff.2 hservices
          have hmethods' :
              (((api.withServices services).services.flatMap (·.methods)).map (·.id)).Nodup :=
            ((hperm.flatMap_right _).map _).nodup_iff.2 hmethods
          have hperm' : api.services.Perm (api.withServices services).services := hperm.symm
          obtain ⟨result, hback, -⟩ := exists_annotate_of_perm h' hservices' hmethods' hperm'
          have hsame : (api.withServices services).withServices api.services = api := rfl
          rw [hsame, h] at hback
          cases hback

end Pass

/-- Two services that share a feature and a request, in both orders. -/
theorem annotate_two_services_in_both_orders :
    let m : Message := { id := ".p.M", name := "M", package := "p" }
    let get : Method := { id := ".p.Get", inputTypeId := ".p.M", http := some {} }
    let put : Method := { id := ".p.Put", inputTypeId := ".p.Gone", http := some {} }
    let reader : Service := { id := ".p.Reader", name := "Shop", methods := [get] }
    let writer : Service := { id := ".p.Writer", name := "Shop", methods := [put] }
    let api : Api := { packageName := "p", messages := [m], services := [reader, writer] }
    let options : Options := { perServiceFeatures := true }
    ∃ result result', annotate api options = .ok result ∧
      annotate (api.withServices [writer, reader]) options = .ok result' ∧
      result'.model.messages = result.model.messages ∧
      result'.model.methods = result.model.methods ∧
      result.model.crate.services = [".p.Reader", ".p.Writer"] ∧
      result'.model.crate.services = [".p.Writer", ".p.Reader"] ∧
      result'.statistics.warnings.Perm result.statistics.warnings := by
  intro m get put reader writer api options
  obtain ⟨result, h⟩ : ∃ result, annotate api options = .ok result := by
    apply exists_annotate_eq_ok <;> simp [api, m, Api.HasModule, Api.isOwn]
  have hservices : (api.services.map (·.id)).Nodup := by simp [api, reader, writer]
  have hmethods : ((api.services.flatMap (·.methods)).map (·.id)).Nodup := by
    simp [api, reader, writer, get, put]
  have hperm : [writer, reader].Perm api.services := .swap ..
  rcases annotate_service_order options hservices hmethods hperm with
    ⟨problem, -, herror, -⟩ | ⟨result₁, result₂, h₁, h₂, hsame, hfirst, hsecond⟩
  · simp [h] at herror
  · refine ⟨result₁, result₂, h₁, h₂, ?_, ?_, hfirst, hsecond, hsame.warnings⟩
    · rw [hsame.model]
    · rw [hsame.model]

end ApiAnnotator
