import ApiAnnotator.Proofs.Completion
import ApiAnnotator.Proofs.Pass
import ApiAnnotator.Proofs.Placeholders
import ApiAnnotator.Text.Spellings
import Mathlib

/-!
# Resource names that are part of a path

Which fields are part of the path of a method is worked out twice. For the routes, the accessor of
each variable is made from the names of its field path. For the candidates for a resource name, the
field paths of all variables are put together with dots, and a candidate is part of the path if its
own names, put together in the same way, are among them.

A text with dots can stand for several lists of names, but only for one if no name has a dot. The
variables of a template that has been read have no dots in their names, because they have been cut
at the dots; if the fields of the messages have none either, the two ways agree. Then a candidate is
part of a path exactly if something is put into a placeholder for its field path, and what is put
there is what the candidate reads.

## Main definitions

* `Api.ReadsTemplates`, `Api.HasDotFreeNames` — what is asked of templates and of names.
* `AnnotatedMethod.AgreesOnPaths` — the routes and the candidates of a method agree.

## Main statements

* `PathTemplate.fieldPath_eq_splitAll` — the names of a variable are what is between its dots.
* `of_mem_resourceNames` — where the candidates come from.
* `path_parameters_agree` — **a candidate is part of a path exactly if a placeholder is for it**.
-/

namespace ApiAnnotator

/-! ## Names between dots -/

/-- The names of a variable that has been read are what is between its dots. -/
theorem PathTemplate.DenotesVariable.fieldPath_eq {inside : List Char} {v : Variable}
    (h : DenotesVariable inside v) : v.fieldPath = Text.splitAll '.' v.dotted := by
  rw [Text.splitAll, toList_dotted]
  cases h <;> simp [strings]

theorem PathTemplate.fieldPath_eq_splitAll {s : String} {t : PathTemplate} (h : parse s = .ok t)
    {v : Variable} (hv : v ∈ t.vars) : v.fieldPath = Text.splitAll '.' v.dotted := by
  obtain ⟨parts, -, hdenotes⟩ := parseChars_eq_ok_iff.1 (parse_eq_ok_iff.1 h)
  obtain ⟨segment, hsegment, hvariable⟩ := List.mem_filterMap.1 hv
  obtain ⟨part, -, hpart⟩ := exists_mem_of_forall₂ hdenotes hsegment
  cases hpart with
  | literal => cases hvariable
  | bound hbound =>
      obtain rfl := Option.some_inj.1 hvariable
      exact hbound.fieldPath_eq

/-! ## Where candidates come from -/

/-- No field of a message has a dot in its name. -/
def Api.HasDotFreeNames (api : Api) : Prop :=
  ∀ m ∈ api.messages, ∀ f ∈ m.fields, '.' ∉ f.name.toList

section Candidates

variable {api : Api} {m : Method} {input : Message} {path : List String}

/-- The field path of a reference consists of names of fields. -/
theorem of_mem_referencePaths (hnames : api.HasDotFreeNames) (hinput : input ∈ api.messages)
    (h : path ∈ (api.referencePaths input).value) :
    path ≠ [] ∧ ∀ name ∈ path, '.' ∉ name.toList := by
  have hvalue : (api.referencePaths input).value =
      ((input.fields.mapM api.referencePathsOf).value).flatten := rfl
  rw [hvalue, Noted.value_mapM, List.mem_flatten] at h
  obtain ⟨paths, hpaths, h⟩ := h
  obtain ⟨f, hf, rfl⟩ := List.mem_map.1 hpaths
  have hfield : '.' ∉ f.name.toList := hnames input hinput f hf
  unfold Api.referencePathsOf at h
  split at h
  · obtain rfl := List.mem_singleton.1 h
    simpa using hfield
  · split at h
    · cases hinner : api.message? f.typeRef with
      | none => simp [hinner] at h
      | some inner =>
          simp only [hinner, Noted.value_pure, List.mem_map, List.mem_filter] at h
          obtain ⟨g, ⟨hg, -⟩, rfl⟩ := h
          have hnested := hnames inner (Api.of_message?_eq_some hinner).1 g hg
          simpa using ⟨hfield, hnested⟩
    · simp at h

variable [Speller]

/-- A candidate belongs to a reference whose field path can be followed. -/
theorem of_mem_resourceNames {c : ResourceName} (h : c ∈ (api.resourceNames m input).value) :
    c.fieldPath ∈ (api.referencePaths input).value ∧
      api.accessor input c.fieldPath = .ok c.accessor ∧
      (c.isPathParameter = true ↔ Text.join "." c.fieldPath ∈ m.pathParameters) := by
  have hvalue : (api.resourceNames m input).value =
      ((api.referencePaths input).value.filterMap (api.resourceName? m input)).mergeSort
        fun a b => a.rank ≤ b.rank := rfl
  rw [hvalue, List.mem_mergeSort] at h
  obtain ⟨path, hpath, hcandidate⟩ := List.mem_filterMap.1 h
  unfold Api.resourceName? at hcandidate
  cases haccessor : api.accessor input path with
  | error e => simp [haccessor] at hcandidate
  | ok accessor =>
      simp only [haccessor] at hcandidate
      obtain rfl := Option.some_inj.1 hcandidate
      exact ⟨hpath, haccessor, by simp⟩

/-- What is put into a placeholder is read by the accessor of its variable, if it has one. -/
theorem of_mem_substitutions_route {methodId : String} {body : Option String} {b : Binding}
    {s : Substitution} (h : s ∈ (api.route methodId input body b).value.substitutions) :
    ∃ v ∈ b.template.vars, s.fieldPath = v.dotted ∧
      ∀ accessor, api.accessor input v.fieldPath = .ok accessor → s.fieldAccessor = accessor := by
  have hvalue : (api.route methodId input body b).value.substitutions =
      (b.template.vars.mapM (api.substitution methodId input)).value := rfl
  rw [hvalue, Noted.value_mapM] at h
  obtain ⟨v, hv, rfl⟩ := List.mem_map.1 h
  refine ⟨v, hv, rfl, fun accessor haccessor => ?_⟩
  have hfield : (api.substitution methodId input v).value.fieldAccessor =
      (api.variableAccessor methodId input v).value := rfl
  rw [hfield, Api.variableAccessor, haccessor]
  rfl

/-- A field path with dots is part of a path of a method exactly if something is put into a
placeholder for it. -/
theorem mem_pathParameters_iff {text : String} :
    text ∈ m.pathParameters ↔
      ∃ r ∈ m.bindings.map fun b => (api.route m.id input m.body b).value,
        ∃ s ∈ r.substitutions, s.fieldPath = text := by
  have hpaths : ∀ b, text ∈ b.template.vars.map Variable.dotted ↔
      ∃ s ∈ (api.route m.id input m.body b).value.substitutions, s.fieldPath = text := by
    intro b
    rw [← fieldPath_substitutions_route api m.id input m.body b, List.mem_map]
  simp only [Method.pathParameters, List.mem_flatMap, hpaths, List.mem_map,
    exists_exists_and_eq_and]

end Candidates

/-! ## The routes and the candidates of a method -/

/-- The path templates of all bindings have been read. -/
def Api.ReadsTemplates (api : Api) : Prop :=
  ∀ s ∈ api.services, ∀ m ∈ s.methods, ∀ b ∈ m.bindings, ∃ text,
    PathTemplate.parse text = .ok b.template

/-- The routes and the candidates for a resource name in the annotation of a method agree. There is
a route for each binding, with a substitution for each variable of its template, both in order. A
candidate is marked as part of a path exactly if something is put into a placeholder for its field
path, and whatever is put there is what the candidate reads. -/
structure AnnotatedMethod.AgreesOnPaths (a : AnnotatedMethod) (m : Method) : Prop where
  routes : List.Forall₂ (fun b r => r.pathFormat = b.template.format ∧
    r.substitutions.map (·.fieldPath) = b.template.vars.map Variable.dotted) m.bindings a.routes
  isPathParameter_iff : ∀ c ∈ a.resourceNames, c.isPathParameter = true ↔
    ∃ r ∈ a.routes, ∃ s ∈ r.substitutions, s.fieldPath = Text.join "." c.fieldPath
  accessor_eq : ∀ c ∈ a.resourceNames, ∀ r ∈ a.routes, ∀ s ∈ r.substitutions,
    s.fieldPath = Text.join "." c.fieldPath → s.fieldAccessor = c.accessor

namespace Lexicon

variable [Speller] {lx : Lexicon} {known : KnownTypes} {serviceName : String} {m : Method}
  {input : Message} {a : AnnotatedMethod} {ws : List Warning}

/-- The routes and the candidates in the annotation of a method whose request is declared. -/
theorem shape_of_yields_annotateMethod
    (h : Yields (lx.annotateMethod known serviceName m) a ws)
    (hinput : lx.api.message? m.inputTypeId = some input) :
    a.routes = (m.bindings.map fun b => (lx.api.route m.id input m.body b).value) ∧
      a.resourceNames = (lx.api.resourceNames m input).value := by
  obtain ⟨_, _, _, -, hrest, -⟩ := yields_bind_iff.1 h
  obtain ⟨_, _, _, -, hshape, -⟩ := yields_bind_iff.1 hrest
  obtain ⟨shape, _, _, hcall, hentry, -⟩ := yields_bind_iff.1 hshape
  obtain ⟨rfl, -⟩ := yields_pure_iff.1 hentry
  obtain ⟨rfl, -⟩ := yields_noted_iff.1 hcall
  unfold callShape
  rw [hinput, ← Noted.value_mapM]
  exact ⟨rfl, rfl⟩

/-- The routes and the candidates of a method agree if its templates have been read and no field has
a dot in its name. -/
theorem agreesOnPaths_of_yields_annotateMethod
    (h : Yields (lx.annotateMethod known serviceName m) a ws)
    (hinput : lx.api.message? m.inputTypeId = some input)
    (htemplates : ∀ b ∈ m.bindings, ∃ text, PathTemplate.parse text = .ok b.template)
    (hnames : lx.api.HasDotFreeNames) : a.AgreesOnPaths m := by
  obtain ⟨hroutes, hcandidates⟩ := shape_of_yields_annotateMethod h hinput
  refine ⟨?_, ?_, ?_⟩
  · rw [hroutes, List.forall₂_map_right_iff, List.forall₂_same]
    intro b _
    exact ⟨rfl, fieldPath_substitutions_route lx.api m.id input m.body b⟩
  · intro c hc
    rw [hcandidates] at hc
    rw [(of_mem_resourceNames hc).2.2, hroutes]
    exact mem_pathParameters_iff
  · intro c hc r hr s hs hpath
    rw [hcandidates] at hc
    rw [hroutes] at hr
    obtain ⟨hreference, haccessor, -⟩ := of_mem_resourceNames hc
    obtain ⟨hne, hdots⟩ :=
      of_mem_referencePaths hnames (Api.of_message?_eq_some hinput).1 hreference
    obtain ⟨b, hb, rfl⟩ := List.mem_map.1 hr
    obtain ⟨v, hv, hdotted, hread⟩ := of_mem_substitutions_route hs
    obtain ⟨text, htext⟩ := htemplates b hb
    have hfieldPath : v.fieldPath = c.fieldPath := by
      rw [PathTemplate.fieldPath_eq_splitAll htext hv, ← hdotted, hpath]
      exact Text.splitAll_join hne hdots
    exact hread c.accessor (hfieldPath ▸ haccessor)

end Lexicon

section Pass

variable [Speller] {api : Api} {options : Options} {result : Annotated}

/-- An entry of the method table is the annotation of the last generated method with its ID. -/
theorem exists_method_of_getElem? (h : annotate api options = .ok result) {id : String}
    {a : AnnotatedMethod} (ha : result.model.methods[id]? = some a) :
    ∃ m, lastWith? Method.id id (api.generated options) = some m ∧ ∃ known serviceName ws,
      Yields ((Lexicon.of api options).annotateMethod known serviceName m) a ws := by
  obtain ⟨d, hd, hmodel⟩ := draftsFrom_of_annotate h
  have hrel : Option.Rel (fun m a => ∃ serviceName, ∃ ws ⊆ result.statistics.warnings,
      Yields ((Lexicon.of api options).annotateMethod (Drafts.known d.ownEnums d.ownMessages)
        serviceName m) a ws)
      (lastWith? Method.id id (api.generated options)) result.model.methods[id]? := by
    rw [hmodel, ← Api.retained_flatMap_methods]
    exact Table.rel_ofEntries hd.forall₂_methods id
  rw [ha] at hrel
  obtain ⟨m, hlast, serviceName, ws, -, hyields⟩ := of_rel_some_right hrel
  exact ⟨m, hlast, _, serviceName, ws, hyields⟩

/-- **A candidate is part of a path exactly if a placeholder is for it.** If all templates have been
read and no field has a dot in its name, then the routes and the candidates agree in every
annotation of a method whose request is declared. -/
theorem path_parameters_agree (h : annotate api options = .ok result)
    (htemplates : api.ReadsTemplates) (hnames : api.HasDotFreeNames) {id : String}
    {a : AnnotatedMethod} (ha : result.model.methods[id]? = some a) :
    ∃ m, lastWith? Method.id id (api.generated options) = some m ∧
      ∀ input, api.message? m.inputTypeId = some input → a.AgreesOnPaths m := by
  obtain ⟨m, hlast, known, serviceName, ws, hyields⟩ := exists_method_of_getElem? h ha
  refine ⟨m, hlast, fun input hinput => ?_⟩
  obtain ⟨s, hs, hm⟩ := List.mem_flatMap.1 (of_lastWith?_eq_some hlast).1
  exact Lexicon.agreesOnPaths_of_yields_annotateMethod hyields hinput
    (htemplates s hs m (List.mem_filter.1 hm).1) hnames

end Pass

/-- An update has two candidates. The name of its secret is put into the path by the accessor of the
candidate, and its parent is not in the path. -/
theorem path_parameters_of_update :
    let name : Field := { id := ".p.Secret.name", name := "name", resourceReference := true }
    let secret : Message := { id := ".p.Secret", package := "p", fields := [name] }
    let parent : Field := { id := ".p.Update.parent", name := "parent", resourceReference := true }
    let inner : Field :=
      { id := ".p.Update.secret", name := "secret", kind := .message, typeId := some ".p.Secret" }
    let request : Message := { id := ".p.Update", package := "p", fields := [parent, inner] }
    let template : PathTemplate :=
      ⟨[.literal "v1", .variable ⟨["secret", "name"], ["secrets", "*"]⟩], none⟩
    let update : Method := {
      id := ".p.S.Update"
      inputTypeId := ".p.Update"
      outputTypeId := ".p.Secret"
      http := some { bindings := [⟨"PATCH", template⟩] } }
    let api : Api := {
      packageName := "p"
      messages := [request, secret]
      services := [{ id := ".p.S", methods := [update] }] }
    let accessor :=
      "Some(&req).and_then(|m| m.secret.as_ref()).map(|m| &m.name).map(|s| s.as_str())"
    PathTemplate.parse "/v1/\x7bsecret.name=secrets/*\x7d" = .ok template ∧
      ∃ result, annotate api {} = .ok result ∧
        ∃ a, result.model.methods[update.id]? = some a ∧
          a.resourceNames.map (fun c => (c.fieldPath, c.accessor, c.isPathParameter)) =
            [(["parent"], "Some(&req).map(|m| &m.parent).map(|s| s.as_str())", false),
              (["secret", "name"], accessor, true)] ∧
          a.routes.map (fun r => r.substitutions.map fun s => (s.fieldPath, s.fieldAccessor)) =
            [[("secret.name", accessor)]] := by
  intro name secret parent inner request template update api accessor
  have htemplate : PathTemplate.parse "/v1/\x7bsecret.name=secrets/*\x7d" = .ok template := rfl
  refine ⟨htemplate, ?_⟩
  obtain ⟨result, h⟩ : ∃ result, annotate api {} = .ok result := by
    apply exists_annotate_eq_ok <;> simp [api, request, secret, Api.HasModule, Api.isOwn]
  have htemplates : api.ReadsTemplates := by
    simpa [Api.ReadsTemplates, api, update, Method.bindings] using ⟨_, htemplate⟩
  have hnames : api.HasDotFreeNames := by
    simp [Api.HasDotFreeNames, api, request, secret, name, parent, inner]
  have hgenerated : api.generated {} = [update] := rfl
  have hlast : lastWith? Method.id update.id (api.generated {}) = some update := by
    simp [hgenerated, lastWith?]
  obtain ⟨a, -, -, -, hentry⟩ := exists_method_of_annotate h (m := update) (by simp [hgenerated])
  have ha : result.model.methods[update.id]? = some a := hentry hlast
  have hinput : api.message? update.inputTypeId = some request := rfl
  have hcandidates : a.resourceNames =
      [⟨["parent"], "Some(&req).map(|m| &m.parent).map(|s| s.as_str())", false, false⟩,
        ⟨["secret", "name"], accessor, true, true⟩] := by
    obtain ⟨m, hm, _, _, _, hyields⟩ := exists_method_of_getElem? h ha
    obtain rfl := Option.some_inj.1 (hlast.symm.trans hm)
    exact (Lexicon.shape_of_yields_annotateMethod hyields hinput).2.trans (by cbv)
  obtain ⟨m, hm, hagrees⟩ := path_parameters_agree h htemplates hnames ha
  obtain rfl := Option.some_inj.1 (hlast.symm.trans hm)
  have hpaths := hagrees request hinput
  obtain ⟨r, _, ⟨-, hr⟩, hnone, hroutes⟩ := List.forall₂_cons_left_iff.1 hpaths.routes
  obtain rfl := List.forall₂_nil_left_iff.1 hnone
  have hvars : template.vars.map Variable.dotted = ["secret.name"] := by decide
  obtain ⟨s, hs, hpath⟩ := List.map_eq_singleton_iff.1 (hr.trans hvars)
  have haccessor : s.fieldAccessor = accessor :=
    hpaths.accessor_eq ⟨["secret", "name"], accessor, true, true⟩ (by simp [hcandidates]) r
      (by simp [hroutes]) s (by simp [hs]) hpath
  refine ⟨result, h, a, ha, by simp [hcandidates], ?_⟩
  simp [hroutes, hs, hpath, haccessor]

end ApiAnnotator
