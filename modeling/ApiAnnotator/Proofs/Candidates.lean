import ApiAnnotator.Proofs.Hops
import ApiAnnotator.Proofs.PathParameters
import ApiAnnotator.Proofs.StableSort
import ApiAnnotator.Text.Spellings
import Mathlib.Data.Prod.Lex

/-!
# The candidates for a resource name

Candidates are collected as field paths, then an accessor is made for each of them, and what has no
accessor is silently left out before the rest is sorted. If the fields of each message have distinct
names nothing is left out: a field path is put together from the fields that it goes through, and
the look-up by name finds the same fields again. The sort keeps the order of those that rank alike.

So the candidates are determined by the declarations. All references of the request and of the
messages directly inside of it are there, once each; those of the request itself come first, the
parts of a path come first among both, and apart from that the order of declaration is kept. What is
noted on the way are the messages that are not declared, one warning for each field that holds one.

## Main definitions

* `Api.references` — the field paths of the references in the order of declaration.
* `Method.placeOf` — the place of a field path among the others.
* `Api.RanksReferences` — what the candidates are.

## Main statements

* `Api.exists_follows_of_mem_references` — a reference is a text that a field path leads to.
* `Api.resource_names_ranked` — **the candidates are the references, stably ranked**.
-/

namespace ApiAnnotator

/-! ## References -/

namespace Api

/-- The field paths of the references that a field leads to: the field itself if it is one, and
otherwise the references in the message that it holds. -/
def referencesThrough (api : Api) (f : Field) : List (List String) :=
  if f.isReference then [[f.name]]
  else if f.isSingularMessage then
    match api.message? f.typeRef with
    | some inner => (inner.fields.filter (·.isReference)).map fun g => [f.name, g.name]
    | none => []
  else []

/-- The field paths of the references in a request and in the messages directly inside of it, in the
order of declaration. -/
def references (api : Api) (input : Message) : List (List String) :=
  input.fields.flatMap api.referencesThrough

/-- Whether a field holds a single message that is not declared. -/
def holdsUndeclared (api : Api) (f : Field) : Bool :=
  f.isSingularMessage && (api.message? f.typeRef).isNone

variable {api : Api} {f : Field} {input : Message} {path : List String}

theorem not_isSingularMessage_of_isReference (h : f.isReference = true) :
    f.isSingularMessage = false := by
  have htext : f.isSingularString = true := (Bool.and_eq_true_iff.1 h).1
  by_contra hsingle
  rw [Field.isSingularString_of_isSingularMessage (Bool.eq_true_of_not_eq_false hsingle)] at htext
  cases htext

theorem value_referencePathsOf (api : Api) (f : Field) :
    (api.referencePathsOf f).value = api.referencesThrough f := by
  unfold referencePathsOf referencesThrough
  split
  · rfl
  · split
    · cases api.message? f.typeRef <;> rfl
    · rfl

theorem warnings_referencePathsOf (api : Api) (f : Field) :
    (api.referencePathsOf f).warnings =
      if api.holdsUndeclared f then [.missingType f.typeRef f.id] else [] := by
  unfold referencePathsOf holdsUndeclared
  by_cases hreference : f.isReference = true
  · simp [hreference, not_isSingularMessage_of_isReference hreference]
  · by_cases hsingle : f.isSingularMessage = true
    · cases api.message? f.typeRef <;> simp [hreference, hsingle, Noted.warn]
    · simp [hreference, hsingle]

theorem value_referencePaths (api : Api) (input : Message) :
    (api.referencePaths input).value = api.references input := by
  have hvalue : (api.referencePaths input).value =
      ((input.fields.mapM api.referencePathsOf).value).flatten := rfl
  rw [hvalue, Noted.value_mapM, references, List.flatMap]
  simp only [value_referencePathsOf]

/-- One warning is noted for each field that holds a message that is not declared. -/
theorem warnings_referencePaths (api : Api) (input : Message) :
    (api.referencePaths input).warnings =
      (input.fields.filter api.holdsUndeclared).map fun f => .missingType f.typeRef f.id := by
  have hwarnings : (api.referencePaths input).warnings =
      (input.fields.mapM api.referencePathsOf).warnings ++ [] := rfl
  rw [hwarnings, List.append_nil, Noted.warnings_mapM]
  simp only [warnings_referencePathsOf]
  induction input.fields with
  | nil => rfl
  | cons f fields ih => by_cases hf : api.holdsUndeclared f = true <;> simp [hf, ih]

/-- A reference is a single text that a field path leads to. -/
theorem exists_follows_of_mem_references (h : path ∈ api.references input) :
    ∃ steps, api.Follows input path steps ∧ endsInText steps = true := by
  obtain ⟨f, hf, hpath⟩ := List.mem_flatMap.1 h
  have htext : ∀ {g : Field}, g.isReference = true → g.isSingularString = true :=
    fun hg => (Bool.and_eq_true_iff.1 hg).1
  unfold referencesThrough at hpath
  split at hpath
  · rename_i hreference
    obtain rfl := List.mem_singleton.1 hpath
    exact ⟨[(input, f)], .last hf, by simpa [endsInText] using htext hreference⟩
  · split at hpath
    · rename_i hsingle
      cases hinner : api.message? f.typeRef with
      | none => simp [hinner] at hpath
      | some inner =>
          rw [hinner] at hpath
          obtain ⟨g, hg, rfl⟩ := List.mem_map.1 hpath
          obtain ⟨hg, hreference⟩ := List.mem_filter.1 hg
          exact ⟨[(input, f), (inner, g)], .through hf hsingle hinner (.last hg),
            by simpa [endsInText] using htext hreference⟩
    · simp at hpath

/-- The field paths that a field leads to begin with its name. -/
theorem head?_of_mem_referencesThrough (h : path ∈ api.referencesThrough f) :
    path.head? = some f.name := by
  unfold referencesThrough at h
  split at h
  · simp_all
  · split at h
    · cases hinner : api.message? f.typeRef with
      | none => simp [hinner] at h
      | some inner =>
          rw [hinner] at h
          obtain ⟨g, -, rfl⟩ := List.mem_map.1 h
          rfl
    · simp at h

theorem nodup_referencesThrough (hnames : ∀ m ∈ api.messages, (m.fields.map (·.name)).Nodup) :
    (api.referencesThrough f).Nodup := by
  unfold referencesThrough
  split
  · exact List.nodup_singleton _
  · split
    · cases hinner : api.message? f.typeRef with
      | none => exact List.nodup_nil
      | some inner =>
          have hinside := hnames inner (of_message?_eq_some hinner).1
          have hreferences : ((inner.fields.filter (·.isReference)).map (·.name)).Nodup :=
            hinside.sublist (List.filter_sublist.map _)
          have hinjective : Function.Injective fun name => [f.name, name] := by
            simp [Function.Injective]
          have hpaths := hreferences.map hinjective
          rwa [List.map_map] at hpaths
    · exact List.nodup_nil

/-- With distinct names, each reference is there once. -/
theorem nodup_references (hinput : (input.fields.map (·.name)).Nodup)
    (hnames : ∀ m ∈ api.messages, (m.fields.map (·.name)).Nodup) :
    (api.references input).Nodup := by
  refine List.nodup_flatMap.2 ⟨fun f _ => nodup_referencesThrough hnames, ?_⟩
  refine (List.pairwise_map.1 hinput).imp fun hne path hpath hpath' => ?_
  have hsame := (head?_of_mem_referencesThrough hpath).symm.trans
    (head?_of_mem_referencesThrough hpath')
  exact hne (Option.some_inj.1 hsame)

/-- With distinct names, each reference has an accessor, and it ends in a text slice. -/
theorem exists_accessor_of_mem_references [Speller] (hinput : (input.fields.map (·.name)).Nodup)
    (hnames : ∀ m ∈ api.messages, (m.fields.map (·.name)).Nodup)
    (h : path ∈ api.references input) :
    ∃ text, api.accessor input path = .ok text ∧ textHop.toList <:+ text.toList := by
  obtain ⟨steps, hsteps, htext⟩ := exists_follows_of_mem_references h
  refine ⟨accessorRoot ++ along steps, ?_, (textHop_suffix_iff hsteps.steps_ne_nil _).2 htext⟩
  rw [accessor, hops_of_follows hsteps hinput hnames]
  rfl

end Api

/-! ## Ranking -/

/-- The place of a field path among the others: what is inside of a message comes after what is in
the request itself, and among both the parts of a path of the method come first. -/
def Method.placeOf (m : Method) (path : List String) : Bool ×ₗ Bool :=
  toLex (decide (1 < path.length), decide (Text.join "." path ∉ m.pathParameters))

/-- The candidates are the references of a request in the only order in which they are stably
ranked, each once and with the accessor of its field path, which gives a text slice; and the fields
that hold a message that is not declared are noted in order. -/
structure Api.RanksReferences [Speller] (api : Api) (m : Method) (input : Message)
    (candidates : Noted (List ResourceName)) : Prop where
  isStableSort_iff : ∀ paths, IsStableSort m.placeOf (api.references input) paths ↔
    paths = candidates.value.map (·.fieldPath)
  nodup : (candidates.value.map (·.fieldPath)).Nodup
  accessor_eq : ∀ c ∈ candidates.value, api.accessor input c.fieldPath = .ok c.accessor
  textHop_suffix : ∀ c ∈ candidates.value, textHop.toList <:+ c.accessor.toList
  placeOf_eq : ∀ c ∈ candidates.value,
    m.placeOf c.fieldPath = toLex (c.isNested, !c.isPathParameter)
  warnings_eq : candidates.warnings =
    (input.fields.filter api.holdsUndeclared).map fun f => .missingType f.typeRef f.id

/-- The rank of a candidate is the rank of its place. -/
theorem ResourceName.rank_le_rank_iff (c d : ResourceName) :
    c.rank ≤ d.rank ↔
      toLex (c.isNested, !c.isPathParameter) ≤ toLex (d.isNested, !d.isPathParameter) := by
  rw [rank, rank]
  generalize c.isNested = nested, c.isPathParameter = inPath, d.isNested = nested',
    d.isPathParameter = inPath'
  revert nested inPath nested' inPath'
  decide

namespace Api

variable [Speller] {api : Api} {m : Method} {input : Message} {paths : List (List String)}
  {path : List String} {c : ResourceName}

/-- The flags of a candidate tell its place. -/
theorem placeOf_of_mem_filterMap (h : c ∈ paths.filterMap (api.resourceName? m input)) :
    m.placeOf c.fieldPath = toLex (c.isNested, !c.isPathParameter) := by
  obtain ⟨path, -, hcandidate⟩ := List.mem_filterMap.1 h
  unfold resourceName? at hcandidate
  cases haccessor : api.accessor input path with
  | error e => simp [haccessor] at hcandidate
  | ok accessor =>
      simp only [haccessor] at hcandidate
      obtain rfl := Option.some_inj.1 hcandidate
      simp [Method.placeOf]

/-- No path is left out if all of them have accessors. -/
theorem map_fieldPath_filterMap (m : Method)
    (h : ∀ path ∈ paths, ∃ text, api.accessor input path = .ok text) :
    (paths.filterMap (api.resourceName? m input)).map (·.fieldPath) = paths := by
  induction paths with
  | nil => rfl
  | cons path rest ih =>
      obtain ⟨text, htext⟩ := h path List.mem_cons_self
      have hrest := ih fun path hpath => h path (List.mem_cons_of_mem _ hpath)
      simp [resourceName?, htext, hrest]

theorem placeOf_of_mem_resourceNames (h : c ∈ (api.resourceNames m input).value) :
    m.placeOf c.fieldPath = toLex (c.isNested, !c.isPathParameter) := by
  have hvalue : (api.resourceNames m input).value =
      ((api.referencePaths input).value.filterMap (api.resourceName? m input)).mergeSort
        fun a b => a.rank ≤ b.rank := rfl
  rw [hvalue, List.mem_mergeSort] at h
  exact placeOf_of_mem_filterMap h

/-- The field paths of the candidates are the references, sorted by their places. -/
theorem map_fieldPath_resourceNames (m : Method) (hinput : (input.fields.map (·.name)).Nodup)
    (hnames : ∀ m ∈ api.messages, (m.fields.map (·.name)).Nodup) :
    (api.resourceNames m input).value.map (·.fieldPath) =
      (api.references input).mergeSort fun p q => m.placeOf p ≤ m.placeOf q := by
  have hvalue : (api.resourceNames m input).value =
      ((api.referencePaths input).value.filterMap (api.resourceName? m input)).mergeSort
        fun a b => a.rank ≤ b.rank := rfl
  have haccessors : ∀ path ∈ api.references input, ∃ text, api.accessor input path = .ok text := by
    intro path hpath
    obtain ⟨text, htext, -⟩ := exists_accessor_of_mem_references hinput hnames hpath
    exact ⟨text, htext⟩
  rw [hvalue, value_referencePaths, List.map_mergeSort, map_fieldPath_filterMap m haccessors]
  intro c hc d hd
  rw [placeOf_of_mem_filterMap hc, placeOf_of_mem_filterMap hd, decide_eq_decide]
  exact c.rank_le_rank_iff d

end Api

/-- **The candidates are the references, stably ranked.** If the fields of each message have
distinct names, the field paths of the candidates for a method are the references of the request,
once each, sorted stably by their places; each candidate has the accessor of its field path, which
ends in a text slice, and its flags tell its place; and the warnings are one for each field of the
request that holds a message that is not declared, in order. -/
theorem Api.resource_names_ranked [Speller] (api : Api) (m : Method) {input : Message}
    (hinput : (input.fields.map (·.name)).Nodup)
    (hnames : ∀ m ∈ api.messages, (m.fields.map (·.name)).Nodup) :
    api.RanksReferences m input (api.resourceNames m input) where
  isStableSort_iff paths := by
    rw [map_fieldPath_resourceNames m hinput hnames]
    have hstable := isStableSort_mergeSort m.placeOf (api.references input)
    exact ⟨fun h => h.eq hstable, fun h => h ▸ hstable⟩
  nodup := by
    rw [map_fieldPath_resourceNames m hinput hnames, List.nodup_mergeSort]
    exact nodup_references hinput hnames
  accessor_eq c hc := (of_mem_resourceNames hc).2.1
  textHop_suffix c hc := by
    obtain ⟨hreference, haccessor, -⟩ := of_mem_resourceNames hc
    rw [value_referencePaths] at hreference
    obtain ⟨text, htext, hsuffix⟩ := exists_accessor_of_mem_references hinput hnames hreference
    obtain rfl := Except.ok.inj (haccessor.symm.trans htext)
    exact hsuffix
  placeOf_eq c hc := placeOf_of_mem_resourceNames hc
  warnings_eq := by
    have hwarnings : (api.resourceNames m input).warnings =
        (api.referencePaths input).warnings ++ [] := rfl
    rw [hwarnings, List.append_nil, warnings_referencePaths]

/-- The parent is part of the path and comes first, and the name of the secret comes last although
it is declared first. The label is a message that is not declared. -/
theorem Api.resource_names_ranked_of_add :
    let name : Field := { id := ".p.Secret.name", name := "name", resourceReference := true }
    let secret : Message := { id := ".p.Secret", package := "p", fields := [name] }
    let inner : Field :=
      { id := ".p.Add.secret", name := "secret", kind := .message, typeId := some ".p.Secret" }
    let label : Field :=
      { id := ".p.Add.label", name := "label", kind := .message, typeId := some ".p.Label" }
    let region : Field := { id := ".p.Add.region", name := "region", resourceReference := true }
    let parent : Field := { id := ".p.Add.parent", name := "parent", resourceReference := true }
    let request : Message :=
      { id := ".p.Add", package := "p", fields := [inner, label, region, parent] }
    let template : PathTemplate := ⟨[.literal "v1", .variable ⟨["parent"], ["*"]⟩], none⟩
    let add : Method := { id := ".p.S.Add", http := some { bindings := [⟨"POST", template⟩] } }
    let api : Api := { packageName := "p", messages := [request, secret] }
    (request.fields.map (·.name)).Nodup ∧
      (∀ m ∈ api.messages, (m.fields.map (·.name)).Nodup) ∧
      api.references request = [["secret", "name"], ["region"], ["parent"]] ∧
      (api.resourceNames add request).value.map (·.fieldPath) =
        [["parent"], ["region"], ["secret", "name"]] ∧
      (api.resourceNames add request).warnings = [.missingType ".p.Label" ".p.Add.label"] := by
  intro name secret inner label region parent request template add api
  have hreferences : api.references request = [["secret", "name"], ["region"], ["parent"]] := by
    decide
  have hinput : (request.fields.map (·.name)).Nodup := by decide
  have hnames : ∀ m ∈ api.messages, (m.fields.map (·.name)).Nodup := by decide
  have hranked := resource_names_ranked api add hinput hnames
  refine ⟨hinput, hnames, hreferences, ((hranked.isStableSort_iff _).1 ?_).symm,
    hranked.warnings_eq.trans ?_⟩
  · rw [hreferences]
    exact ⟨by decide, by decide, toLex.surjective.forall.2 (Prod.forall.2 (by decide))⟩
  · decide

end ApiAnnotator
