import ApiAnnotator.Proofs.Completion
import ApiAnnotator.Proofs.VariantNames
import ApiAnnotator.Text.Spellings
import Mathlib.Data.List.Flatten

/-!
# Values with one variant

Values of an enum whose variants differ at most in case have one variant, that of the first of them.
So the values with a variant of their own stand for all values of the enum: each value has exactly
one of them with its variant, no later than itself.

But the annotation of a value that is merged is that of its own name. Its letters and digits are
those of the variant that it is merged with, while words may start elsewhere: `AB_C` and `ABC` are
merged, and one is `AbC`, the other `Abc`. So an annotation may name a variant that no value has.

## Main definitions

* `StandFor` — some values stand for all under a key.
* `Identifier.IsPlain` — a name with nothing put in front of it or added to its end.
* `AnnotatedModel.MergesVariants` — what is recorded of an enum whose values are merged.

## Main statements

* `mem_distinctValues_iff` — a value is kept if it is the first one with its variant.
* `standFor_distinctValues` — the values with a variant of their own stand for all.
* `mergesVariants_of_annotate` — **variants are merged without loss**.
* `toLower_typeName_eq_iff` — which plain names have type names that differ at most in case.
* `names_variant_iff_of_annotate` — **when the annotation of a value names a variant**.
-/

namespace ApiAnnotator

/-! ## Values that stand for others -/

/-- The members are values with different keys, in order, and each value has the key of exactly one
member, which is no later than the value. -/
structure StandFor {α κ : Type} (key : α → κ) (values members : List α) : Prop where
  sublist : members.Sublist values
  pairwise : members.Pairwise fun v w => key v ≠ key w
  existsUnique : ∀ before v after, values = before ++ v :: after →
    ∃ w ∈ before ++ [v], w ∈ members ∧ key w = key v ∧ ∀ x ∈ members, key x = key v → x = w

section DistinctValues

variable [Speller]

/-- The variant of a value without regard to case. -/
def foldedVariant (enumName : String) (v : EnumValue) : String :=
  (variantName enumName v.name).toLower

variable {enumName : String} {seen : List String} {values : List EnumValue} {v w : EnumValue}

@[simp] theorem distinctValues_nil : distinctValues enumName seen [] = [] := rfl

theorem distinctValues_cons : distinctValues enumName seen (v :: values) =
    if foldedVariant enumName v ∈ seen then distinctValues enumName seen values
    else v :: distinctValues enumName (foldedVariant enumName v :: seen) values :=
  rfl

theorem sublist_distinctValues (enumName : String) (seen : List String)
    (values : List EnumValue) : (distinctValues enumName seen values).Sublist values := by
  induction values generalizing seen with
  | nil => exact .slnil
  | cons v rest ih =>
      by_cases h : foldedVariant enumName v ∈ seen
      · rw [distinctValues_cons, if_pos h]
        exact (ih seen).cons v
      · rw [distinctValues_cons, if_neg h]
        exact (ih _).cons_cons v

/-- The same in terms of characters. -/
theorem foldedVariant_eq_ofList : foldedVariant enumName v = String.ofList
    ((Identifier.typeChars ((valueStem enumName v.name).toList.map Char.toLower)).map
      Char.toLower) := by
  rw [foldedVariant, variantName_eq_ofList, ← String.toList_inj, toList_toLower,
    String.toList_ofList, String.toList_ofList]

/-- **A value is kept exactly if it is the first one with its variant** and the variant has not been
seen before. -/
theorem mem_distinctValues_iff :
    v ∈ distinctValues enumName seen values ↔ foldedVariant enumName v ∉ seen ∧
      values.find? (fun w => foldedVariant enumName w = foldedVariant enumName v) = some v := by
  induction values generalizing seen with
  | nil => simp
  | cons w rest ih =>
      by_cases hseen : foldedVariant enumName w ∈ seen
      · rw [distinctValues_cons, if_pos hseen, ih]
        by_cases hsame : foldedVariant enumName w = foldedVariant enumName v
        · -- the variant has been seen, so neither side holds
          simp [← hsame, hseen]
        · simp [hsame]
      · rw [distinctValues_cons, if_neg hseen, List.mem_cons, ih]
        by_cases hsame : foldedVariant enumName w = foldedVariant enumName v
        · have hnew : foldedVariant enumName v ∉ seen := hsame ▸ hseen
          simp [hsame, hnew, eq_comm]
        · have hne : v ≠ w := fun heq => hsame (heq ▸ rfl)
          simp [hsame, hne, Ne.symm hsame]

/-- Values that are kept have different variants. -/
theorem pairwise_distinctValues (enumName : String) (seen : List String)
    (values : List EnumValue) : (distinctValues enumName seen values).Pairwise
      fun v w => foldedVariant enumName v ≠ foldedVariant enumName w := by
  induction values generalizing seen with
  | nil => exact .nil
  | cons v rest ih =>
      by_cases h : foldedVariant enumName v ∈ seen
      · rw [distinctValues_cons, if_pos h]
        exact ih seen
      · rw [distinctValues_cons, if_neg h, List.pairwise_cons]
        refine ⟨fun w hw heq => ?_, ih _⟩
        exact (mem_distinctValues_iff.1 hw).1 (List.mem_cons.2 (.inl heq.symm))

/-- **The values with a variant of their own stand for all values.** -/
theorem standFor_distinctValues (enumName : String) (values : List EnumValue) :
    StandFor (foldedVariant enumName) values (distinctValues enumName [] values) where
  sublist := sublist_distinctValues enumName [] values
  pairwise := pairwise_distinctValues enumName [] values
  existsUnique := by
    rintro before v after rfl
    -- the first value with the variant of `v` is no later than `v` itself
    obtain ⟨w, hfirst⟩ : ∃ w, (before ++ [v]).find?
        (fun x => foldedVariant enumName x = foldedVariant enumName v) = some w := by
      rw [← Option.isSome_iff_exists, List.find?_isSome]
      exact ⟨v, by simp, by simp⟩
    have hsame : foldedVariant enumName w = foldedVariant enumName v := by
      simpa using List.find?_some hfirst
    have hfind : (before ++ v :: after).find?
        (fun x => foldedVariant enumName x = foldedVariant enumName v) = some w := by
      rw [List.append_cons, List.find?_append, hfirst, Option.some_or]
    refine ⟨w, List.mem_of_find?_eq_some hfirst, mem_distinctValues_iff.2 ⟨List.not_mem_nil, ?_⟩,
      hsame, fun x hx hxv => ?_⟩
    · rw [hsame]
      exact hfind
    · have hfound := (mem_distinctValues_iff.1 hx).2
      rw [hxv, hfind] at hfound
      exact (Option.some.inj hfound).symm

end DistinctValues

/-- A value has a variant of its own exactly if it is the first one with its variant. -/
theorem Enum.mem_uniqueValues_iff [Speller] {e : Enum} {v : EnumValue} :
    v ∈ e.uniqueValues ↔
      e.values.find? (fun w => (e.variantOf w).toLower = (e.variantOf v).toLower) = some v :=
  mem_distinctValues_iff.trans (and_iff_right List.not_mem_nil)

/-! ## The letters of a variant -/

namespace Identifier

variable [Speller]

/-- The type name of a name is what is left of the name itself, with nothing put in front of it or
added to its end. -/
def IsPlain (name : List Char) : Prop :=
  typeChars name = typeStem (bare name)

instance : DecidablePred IsPlain := fun name =>
  inferInstanceAs (Decidable (typeChars name = typeStem (bare name)))

variable {name other : String}

/-- The type name of a plain name has the letters and digits of the name. -/
theorem IsPlain.map_toLower_typeChars {name : List Char} (h : IsPlain name) :
    (typeChars name).map Char.toLower = letters name := by
  rw [h, map_toLower_typeStem]

theorem IsPlain.letters_eq (h : IsPlain name.toList) :
    letters name.toList = (typeName name).toList.map Char.toLower := by
  rw [← h.map_toLower_typeChars, toList_typeName]

/-- **Type names of plain names differ at most in case exactly if their letters and digits are the
same**, wherever words start. -/
theorem toLower_typeName_eq_iff (hname : IsPlain name.toList) (hother : IsPlain other.toList) :
    (typeName name).toLower = (typeName other).toLower ↔
      letters name.toList = letters other.toList := by
  rw [hname.letters_eq, hother.letters_eq, ← String.toList_inj, toList_toLower, toList_toLower]

end Identifier

/-! ## The values of an annotated enum -/

/-- The variant under which a value is annotated. -/
def AnnotatedModel.variant? (model : AnnotatedModel) (id : String) : Option String :=
  model.enumValues[id]?.map (·.variantName)

/-- The values of an enum are annotated with their variants, and some of them stand for all if case
does not count. The first three of these that are neither deprecated nor zero are the examples. -/
structure AnnotatedModel.MergesVariants (model : AnnotatedModel) (e : Enum) (entry : AnnotatedEnum)
    (members : List EnumValue) (variant : EnumValue → String) : Prop where
  variants : ∀ v ∈ e.values, model.variant? v.id = some (variant v)
  uniqueValues : entry.uniqueValues = members.map (·.id)
  standFor : StandFor (fun v => (variant v).toLower) e.values members
  examples : entry.examples =
    ((members.filter fun v => !v.deprecated && v.number ≠ 0).take 3).map fun v =>
      ⟨v.id, entry.exampleName ++ "::" ++ variant v⟩

/-- The IDs of the values of all enums. -/
def Api.valueIds (api : Api) : List String :=
  (api.enums.flatMap (·.values)).map (·.id)

/-- If the values of all enums have distinct IDs, so have those of the own enums. -/
theorem Api.nodup_ids_ownValues {api : Api} (hids : api.valueIds.Nodup) :
    (api.ownValues.map (·.2.id)).Nodup := by
  have hown : api.ownValues.map (·.2.id) = (api.ownEnums.flatMap (·.values)).map (·.id) := by
    simp [ownValues, List.map_flatMap, Function.comp_def]
  have hsub : (api.ownEnums.flatMap (·.values)).Sublist (api.enums.flatMap (·.values)) :=
    List.filter_sublist.flatMap _
  rw [hown]
  exact hids.sublist (hsub.map _)

variable {api : Api} {options : Options} {result : Annotated} {e : Enum}

/-- With distinct IDs every value of an own enum is annotated with its variant. -/
theorem variant?_of_annotate [Speller] (h : annotate api options = .ok result)
    (hvalues : api.valueIds.Nodup) (he : e ∈ api.ownEnums) {v : EnumValue} (hv : v ∈ e.values) :
    result.model.variant? v.id = some (e.variantOf v) := by
  obtain ⟨d, hd, hmodel⟩ := draftsFrom_of_annotate h
  have hmem : (e, v) ∈ api.ownValues := List.mem_flatMap.2 ⟨e, he, List.mem_map_of_mem hv⟩
  have hlast : lastWith? (·.2.id) v.id api.ownValues = some (e, v) :=
    lastWith?_of_mem (Api.nodup_ids_ownValues hvalues) hmem
  have hrel := hd.rel_values v.id
  rw [Lexicon.api_of, hlast] at hrel
  obtain ⟨_, hentry, rfl⟩ := of_rel_some_left hrel
  have hvalue : result.model.enumValues[v.id]? = some (annotateValue e v) := by
    rw [hmodel]
    exact hentry
  rw [AnnotatedModel.variant?, hvalue]
  rfl

/-- **The entry of an own enum**: its values with a variant of their own, and its examples. -/
theorem exists_ownEnum_of_annotate [Speller] (h : annotate api options = .ok result)
    (henums : (api.enums.map (·.id)).Nodup) (he : e ∈ api.ownEnums) :
    ∃ entry, result.model.enums[e.id]? = some entry ∧
      entry.uniqueValues = e.uniqueValues.map (·.id) ∧
      entry.examples = e.exampleValues.map fun v =>
        ⟨v.id, entry.exampleName ++ "::" ++ e.variantOf v⟩ := by
  obtain ⟨hdeclared, hown⟩ := List.mem_filter.1 he
  obtain ⟨names, -, hread⟩ := exists_map_enums_of_annotate h henums hdeclared
    (f := fun entry => (entry.uniqueValues, entry.examples, entry.exampleName)) fun _ _ => rfl
  obtain ⟨entry, hentry, hsame⟩ := Option.map_eq_some_iff.1 hread
  simp only [Prod.mk.injEq] at hsame
  obtain ⟨hunique, hexamples, hname⟩ := hsame
  refine ⟨entry, hentry, ?_, ?_⟩
  · simp [hunique, Lexicon.enumEntry, hown]
  · simp [hexamples, hname, Lexicon.enumEntry, hown, Lexicon.nameEnum, Lexicon.enumExample,
      inModule]

/-- **Variants are merged without loss.** If IDs are distinct, the values of an own enum that have a
variant of their own stand for all its values, and all values are annotated with their variants. -/
theorem mergesVariants_of_annotate [Speller] (h : annotate api options = .ok result)
    (henums : (api.enums.map (·.id)).Nodup) (hvalues : api.valueIds.Nodup) (he : e ∈ api.ownEnums) :
    ∃ entry, result.model.enums[e.id]? = some entry ∧
      result.model.MergesVariants e entry e.uniqueValues e.variantOf := by
  obtain ⟨entry, hentry, hunique, hexamples⟩ := exists_ownEnum_of_annotate h henums he
  exact ⟨entry, hentry, {
    variants := fun v hv => variant?_of_annotate h hvalues he hv
    uniqueValues := hunique
    standFor := standFor_distinctValues e.name e.values
    examples := hexamples }⟩

/-- `ok` is merged with `OK`, which alone is an example beside a zero and a deprecated value. -/
theorem mergesVariants_of_code :
    let zero : EnumValue := { id := ".p.Code.CODE_UNSPECIFIED", name := "CODE_UNSPECIFIED" }
    let capitals : EnumValue := { id := ".p.Code.OK", name := "OK", number := 2 }
    let small : EnumValue := { id := ".p.Code.ok", name := "ok", number := 3 }
    let old : EnumValue :=
      { id := ".p.Code.CODE_1XX", name := "CODE_1XX", number := 1, deprecated := true }
    let e : Enum := {
      id := ".p.Code"
      name := "Code"
      package := "p"
      values := [zero, capitals, small, old] }
    let api : Api := { packageName := "p", enums := [e] }
    (api.enums.map (·.id)).Nodup ∧ api.valueIds.Nodup ∧ e ∈ api.ownEnums ∧
    ∃ result entry, annotate api {} = .ok result ∧ result.model.enums[".p.Code"]? = some entry ∧
      result.model.MergesVariants e entry [zero, capitals, old] e.variantOf ∧
      entry.examples = [⟨".p.Code.OK", entry.exampleName ++ "::" ++ "Ok"⟩] := by
  intro zero capitals small old e api
  have henums : (api.enums.map (·.id)).Nodup := List.nodup_singleton _
  have hvalues : api.valueIds.Nodup := by decide
  have he : e ∈ api.ownEnums := by simp [Api.ownEnums, Api.isOwn, api, e]
  have hmembers : e.uniqueValues = [zero, capitals, old] := by
    have hzero : foldedVariant "Code" zero = "unspecified" :=
      foldedVariant_eq_ofList.trans (by decide)
    have hcapitals : foldedVariant "Code" capitals = "ok" :=
      foldedVariant_eq_ofList.trans (by decide)
    have hsmall : foldedVariant "Code" small = "ok" := foldedVariant_eq_ofList.trans (by decide)
    have hold : foldedVariant "Code" old = "code1xx" := foldedVariant_eq_ofList.trans (by decide)
    simp [Enum.uniqueValues, e, distinctValues_cons, hzero, hcapitals, hsmall, hold]
  have hvariant : e.variantOf capitals = "Ok" := variantName_eq_ofList.trans (by decide)
  obtain ⟨result, h⟩ : ∃ result, annotate api {} = .ok result := by
    apply exists_annotate_eq_ok <;> simp [api, e, Api.HasModule, Api.isOwn]
  obtain ⟨entry, hentry, hmerges⟩ := mergesVariants_of_annotate h henums hvalues he
  rw [hmembers] at hmerges
  refine ⟨henums, hvalues, he, result, entry, h, hentry, hmerges, ?_⟩
  rw [hmerges.examples, ← hvariant]
  rfl

/-! ## Merged values that are spelled otherwise -/

/-- **The annotation of a value names a variant exactly if it is that of the first value with the
same variant**, where case does not count for the sameness. For a value is annotated with the
variant of its own name even if it is merged. Plain names are merged exactly if they have the same
letters and digits, wherever their words start. -/
theorem names_variant_iff_of_annotate [Speller] (h : annotate api options = .ok result)
    (henums : (api.enums.map (·.id)).Nodup) (hvalues : api.valueIds.Nodup) (he : e ∈ api.ownEnums) :
    ∃ entry, result.model.enums[e.id]? = some entry ∧
      (∀ v ∈ e.values, result.model.variant? v.id = some (e.variantOf v) ∧
        ((∃ id ∈ entry.uniqueValues, result.model.variant? id = result.model.variant? v.id) ↔
          ∃ w, e.variantOf w = e.variantOf v ∧
            e.values.find? (fun x => (e.variantOf x).toLower = (e.variantOf v).toLower) =
              some w)) ∧
      ∀ v ∈ e.values, ∀ w ∈ e.values,
        Identifier.IsPlain (valueStem e.name v.name).toLower.toList →
        Identifier.IsPlain (valueStem e.name w.name).toLower.toList →
          ((e.variantOf v).toLower = (e.variantOf w).toLower ↔
            Identifier.letters (valueStem e.name v.name).toLower.toList =
              Identifier.letters (valueStem e.name w.name).toLower.toList) := by
  obtain ⟨entry, hentry, hunique, -⟩ := exists_ownEnum_of_annotate h henums he
  refine ⟨entry, hentry, fun v hv => ?_, fun v _ w _ => Identifier.toLower_typeName_eq_iff⟩
  have hvariant : ∀ w ∈ e.values, result.model.variant? w.id = some (e.variantOf w) :=
    fun w hw => variant?_of_annotate h hvalues he hw
  rw [hunique, hvariant v hv]
  refine ⟨rfl, ?_, ?_⟩
  · rintro ⟨id, hid, hsame⟩
    obtain ⟨w, hw, rfl⟩ := List.mem_map.1 hid
    have hmem := (sublist_distinctValues e.name [] e.values).subset hw
    obtain hsame : e.variantOf w = e.variantOf v := by simpa [hvariant w hmem] using hsame
    have hfind := Enum.mem_uniqueValues_iff.1 hw
    rw [hsame] at hfind
    exact ⟨w, hsame, hfind⟩
  · rintro ⟨w, hsame, hfind⟩
    have hw : w ∈ e.uniqueValues := by rwa [Enum.mem_uniqueValues_iff, hsame]
    refine ⟨w.id, List.mem_map_of_mem hw, ?_⟩
    rw [hvariant w (List.mem_of_find?_eq_some hfind), hsame]

/-- `AB_C` and `ABC` are merged, for they have the same letters. The annotation of the second one
names a variant that is not there. -/
theorem names_no_variant_of_words :
    let cut : EnumValue := { id := ".p.E.AB_C", name := "AB_C", number := 1 }
    let whole : EnumValue := { id := ".p.E.ABC", name := "ABC", number := 2 }
    let e : Enum := { id := ".p.E", name := "E", package := "p", values := [cut, whole] }
    let api : Api := { packageName := "p", enums := [e] }
    (api.enums.map (·.id)).Nodup ∧ api.valueIds.Nodup ∧ e ∈ api.ownEnums ∧
    ∃ result entry, annotate api {} = .ok result ∧ result.model.enums[".p.E"]? = some entry ∧
      (e.variantOf cut).toLower = (e.variantOf whole).toLower ∧
      result.model.variant? ".p.E.ABC" = some "Abc" ∧
      ∀ id ∈ entry.uniqueValues, result.model.variant? id ≠ some "Abc" := by
  intro cut whole e api
  have henums : (api.enums.map (·.id)).Nodup := List.nodup_singleton _
  have hvalues : api.valueIds.Nodup := by decide
  have he : e ∈ api.ownEnums := by simp [Api.ownEnums, Api.isOwn, api, e]
  have hwhole : whole ∈ e.values := by simp [e]
  obtain ⟨result, h⟩ : ∃ result, annotate api {} = .ok result := by
    apply exists_annotate_eq_ok <;> simp [api, e, Api.HasModule, Api.isOwn]
  obtain ⟨entry, hentry, hnamed, hmerged⟩ := names_variant_iff_of_annotate h henums hvalues he
  have hcut : e.variantOf cut = "AbC" := variantName_eq_ofList.trans (by decide)
  have hspelling : e.variantOf whole = "Abc" := variantName_eq_ofList.trans (by decide)
  have hplain : ∀ v ∈ e.values, Identifier.IsPlain (valueStem e.name v.name).toLower.toList := by
    simp only [toList_toLower]
    decide
  have hsame : (e.variantOf cut).toLower = (e.variantOf whole).toLower := by
    refine (hmerged cut List.mem_cons_self whole hwhole (hplain cut List.mem_cons_self)
      (hplain whole hwhole)).2 ?_
    simp only [toList_toLower]
    decide
  have hfirst : e.values.find?
      (fun w => (e.variantOf w).toLower = (e.variantOf whole).toLower) = some cut := by
    simp [e, hsame]
  obtain ⟨hannotated, hiff⟩ := hnamed whole hwhole
  rw [hspelling] at hannotated
  refine ⟨henums, hvalues, he, result, entry, h, hentry, hsame, hannotated, fun id hid hid' => ?_⟩
  obtain ⟨w, hspelled, hw⟩ := hiff.1 ⟨id, hid, hid'.trans hannotated.symm⟩
  obtain rfl : cut = w := Option.some.inj (hfirst.symm.trans hw)
  rw [hcut, hspelling] at hspelled
  exact absurd hspelled (by decide)

end ApiAnnotator
