import ApiAnnotator.Proofs.OneOfNames
import ApiAnnotator.Text.Spellings
import Mathlib.Data.List.MinMax
import Mathlib.Data.Prod.Lex

/-!
# The sample of a oneof is its first best member

The members of a oneof are compared by four criteria in order, and a later member replaces the one
chosen so far only if it is strictly better. So what is left is the first maximum, which is found in
parts as well: the best of two lists is the better one of their best, the first one if they tie.

Weights stand for the order of the criteria: the weight of a criterion exceeds the sum of those that
follow it, so sums are compared as the criteria are, one after the other.

## Main definitions

* `IsFirstMax` — an item with only smaller ones before it and no larger one anywhere.
* `Field.preference` — the criteria in order.

## Main statements

* `argmax_eq_some_iff_isFirstMax` — the first maximum is the only item of its kind.
* `argmax_append` — a maximum is found in parts.
* `sample_is_first_best` — **samples set the first best member**.
-/

namespace ApiAnnotator

/-! ## The first maximum -/

section FirstMax

variable {α κ : Type} [LinearOrder κ] {key : α → κ} {items : List α} {best other : α}

/-- No item is larger than the given one, and there is a place for it before which all items are
smaller. -/
structure IsFirstMax (key : α → κ) (items : List α) (best : α) : Prop where
  exists_split : ∃ before after, items = before ++ best :: after ∧
    ∀ item ∈ before, key item < key best
  not_lt : ∀ item ∈ items, ¬ key best < key item

theorem IsFirstMax.mem (h : IsFirstMax key items best) : best ∈ items := by
  obtain ⟨before, after, rfl, -⟩ := h.exists_split
  exact List.mem_append_right before List.mem_cons_self

/-- There is only one first maximum. -/
theorem IsFirstMax.unique (h : IsFirstMax key items best) (h' : IsFirstMax key items other) :
    best = other := by
  obtain ⟨before, after, hsplit, hbefore⟩ := h.exists_split
  obtain ⟨before', after', hsplit', hbefore'⟩ := h'.exists_split
  rw [hsplit] at hsplit'
  rcases List.append_eq_append_iff.1 hsplit' with ⟨more, rfl, hmore⟩ | ⟨more, rfl, hmore⟩
  · cases more with
    | nil => exact (List.cons.inj hmore).1
    | cons first more =>
        -- `best` would stand before `other`, and so be smaller
        obtain ⟨rfl, -⟩ := List.cons.inj hmore
        exact absurd (hbefore' best (by simp)) (h.not_lt other h'.mem)
  · cases more with
    | nil => exact (List.cons.inj hmore).1.symm
    | cons first more =>
        obtain ⟨rfl, -⟩ := List.cons.inj hmore
        exact absurd (hbefore other (by simp)) (h'.not_lt best h.mem)

theorem isFirstMax_of_argmax_eq_some (h : items.argmax key = some best) :
    IsFirstMax key items best := by
  refine ⟨?_, fun item hitem => List.not_lt_of_mem_argmax hitem h⟩
  induction items generalizing best with
  | nil => simp at h
  | cons first rest ih =>
      rw [List.argmax_cons] at h
      cases hrest : rest.argmax key with
      | none =>
          obtain rfl : first = best := by simpa [hrest] using h
          exact ⟨[], rest, rfl, by simp⟩
      | some item =>
          rw [hrest] at h
          dsimp only at h
          split at h
          · rename_i hlt
            obtain rfl := Option.some.inj h
            obtain ⟨before, after, rfl, hbefore⟩ := ih hrest
            exact ⟨first :: before, after, rfl, List.forall_mem_cons.2 ⟨hlt, hbefore⟩⟩
          · obtain rfl := Option.some.inj h
            exact ⟨[], rest, rfl, by simp⟩

/-- **The first maximum is the only item of its kind.** -/
theorem argmax_eq_some_iff_isFirstMax :
    items.argmax key = some best ↔ IsFirstMax key items best := by
  refine ⟨isFirstMax_of_argmax_eq_some, fun h => ?_⟩
  cases hmax : items.argmax key with
  | none =>
      rw [List.argmax_eq_none] at hmax
      exact absurd h.mem (by simp [hmax])
  | some item => rw [(isFirstMax_of_argmax_eq_some hmax).unique h]

/-- **A maximum is found in parts.** -/
theorem argmax_append (key : α → κ) (xs ys : List α) :
    (xs ++ ys).argmax key = ((xs.argmax key).toList ++ (ys.argmax key).toList).argmax key := by
  induction xs with
  | nil => cases hys : ys.argmax key <;> simp [hys]
  | cons x xs ih =>
      rw [List.cons_append, List.argmax_cons, ih, List.argmax_cons]
      cases xs.argmax key with
      | none => cases ys.argmax key <;> simp [List.argmax_cons]
      | some u =>
          cases ys.argmax key with
          | none => by_cases hu : key x < key u <;> simp [hu]
          | some v =>
              by_cases hu : key x < key u <;> by_cases hv : key u < key v
              · simp [List.argmax_cons, hu, hv, hu.trans hv]
              · simp [List.argmax_cons, hu, hv]
              · simp [List.argmax_cons, hu, hv]
              · have hx : ¬ key x < key v := ((le_of_not_gt hv).trans (le_of_not_gt hu)).not_gt
                simp [List.argmax_cons, hu, hv, hx]

end FirstMax

/-! ## The criteria -/

/-- The criteria for a sample in the order in which they count: not deprecated, no map, not
repeated, a message. -/
def Field.preference (f : Field) : Bool ×ₗ Bool ×ₗ Bool ×ₗ Bool :=
  toLex (!f.deprecated, toLex (!f.map, toLex (!f.repeated, decide (f.kind = .message))))

/-- **Weights compare fields as the criteria do**, one after the other. -/
theorem Field.merit_lt_merit_iff {f g : Field} :
    f.merit < g.merit ↔ f.preference < g.preference := by
  have hcriteria : ∀ a b c d a' b' c' d' : Bool,
      8 * a.toNat + 4 * b.toNat + 2 * c.toNat + d.toNat <
          8 * a'.toNat + 4 * b'.toNat + 2 * c'.toNat + d'.toNat ↔
        toLex (a, toLex (b, toLex (c, d))) < toLex (a', toLex (b', toLex (c', d'))) := by
    decide
  exact hcriteria _ _ _ _ _ _ _ _

theorem bestField?_eq_argmax (fields : List Field) :
    bestField? fields = fields.argmax Field.preference := by
  unfold bestField? List.argmax
  congr 1
  funext best f
  cases best with
  | none => rfl
  | some best => simp [betterField, List.argAux, Field.merit_lt_merit_iff]

/-- What is chosen is one of the fields. -/
theorem mem_of_bestField?_eq_some {fields : List Field} {best : Field}
    (h : bestField? fields = some best) : best ∈ fields := by
  rw [bestField?_eq_argmax] at h
  exact List.argmax_mem h

/-- Something is chosen exactly if there is a field. -/
theorem isSome_bestField?_iff {fields : List Field} :
    (bestField? fields).isSome = true ↔ fields ≠ [] := by
  rw [bestField?_eq_argmax, Option.isSome_iff_ne_none, ne_eq, List.argmax_eq_none]

/-! ## The samples of a run -/

/-- The sample of a oneof is one of its branches, if there are any. -/
theorem Lexicon.exists_exampleField_of_branches [Speller] (lx : Lexicon) (p : Message)
    (names : QualifiedName) (o : OneOf) (h : (lx.annotateOneOf p names o).branches ≠ []) :
    ∃ branch ∈ (lx.annotateOneOf p names o).branches,
      (lx.annotateOneOf p names o).exampleField = some branch := by
  have hmembers : p.members o ≠ [] := by
    intro hnone
    simp [annotateOneOf, hnone] at h
  obtain ⟨best, hbest⟩ := Option.isSome_iff_exists.1 (isSome_bestField?_iff.2 hmembers)
  refine ⟨best.id, List.mem_map_of_mem (mem_of_bestField?_eq_some hbest), ?_⟩
  simp [annotateOneOf, hbest]

/-- The entry of a oneof is the annotation of a oneof of an own message. -/
theorem exists_oneof_of_getElem? [Speller] {api : Api} {options : Options} {result : Annotated}
    (h : annotate api options = .ok result) {id : String} {entry : AnnotatedOneOf}
    (hentry : result.model.oneofs[id]? = some entry) :
    ∃ p ∈ api.ownMessages, ∃ o ∈ p.oneofs, o.id = id ∧ ∃ names,
      entry = (Lexicon.of api options).annotateOneOf p names o := by
  obtain ⟨d, hd, hmodel⟩ := draftsFrom_of_annotate h
  have hrel : Option.Rel (fun item entry => ∃ names,
      (Lexicon.of api options).ofMessage item.1 = .ok names ∧
        entry = (Lexicon.of api options).annotateOneOf item.1 names item.2)
      (lastWith? (·.2.id) id api.ownOneOfs) result.model.oneofs[id]? := by
    rw [hmodel]
    exact hd.rel_oneofs id
  rw [hentry] at hrel
  obtain ⟨⟨p, o⟩, hlast, names, -, heq⟩ := of_rel_some_right hrel
  obtain ⟨hmem, hid⟩ := of_lastWith?_eq_some hlast
  obtain ⟨p', hp, hmem⟩ := List.mem_flatMap.1 hmem
  obtain ⟨o', ho, hpair⟩ := List.mem_map.1 hmem
  obtain ⟨rfl, rfl⟩ := Prod.mk.inj hpair
  exact ⟨p', hp, o', ho, hid, names, heq⟩

/-- **Samples set the first best member.** From every list with a field one is chosen: the only one
that is preferred to all fields before it and that no field is preferred to. The choice from two
lists is the choice from what is chosen in each. And in every run the sample of a oneof is what is
chosen from its members, which is one of its branches if it has any. -/
theorem sample_is_first_best [Speller] :
    (∀ fields, (bestField? fields).isSome = true ↔ fields ≠ []) ∧
    (∀ fields best, bestField? fields = some best ↔ IsFirstMax Field.preference fields best) ∧
    (∀ xs ys, bestField? (xs ++ ys) =
      bestField? ((bestField? xs).toList ++ (bestField? ys).toList)) ∧
    ∀ (api : Api) (options : Options) (result : Annotated), annotate api options = .ok result →
      ∀ (id : String) (entry : AnnotatedOneOf), result.model.oneofs[id]? = some entry →
        (∃ p ∈ api.ownMessages, ∃ o ∈ p.oneofs, o.id = id ∧
          entry.branches = (p.members o).map (·.id) ∧
          entry.exampleField = (bestField? (p.members o)).map (·.id)) ∧
        (entry.branches ≠ [] → ∃ branch ∈ entry.branches, entry.exampleField = some branch) := by
  refine ⟨fun _ => isSome_bestField?_iff, fun fields best => ?_, fun xs ys => ?_, ?_⟩
  · rw [bestField?_eq_argmax]
    exact argmax_eq_some_iff_isFirstMax
  · simp only [bestField?_eq_argmax]
    exact argmax_append Field.preference xs ys
  · intro api options result h id entry hentry
    obtain ⟨p, hp, o, ho, hid, names, rfl⟩ := exists_oneof_of_getElem? h hentry
    exact ⟨⟨p, hp, o, ho, hid, rfl, rfl⟩, Lexicon.exists_exampleField_of_branches _ p names o⟩

/-- A deprecated message comes last, and of two texts the first one is the sample. -/
theorem sample_of_payload :
    let old : Field := {
      id := ".p.M.old"
      name := "old"
      kind := .message
      typeId := some ".p.M"
      deprecated := true
      oneof := some ".p.M.payload" }
    let text : Field :=
      { id := ".p.M.text", name := "text", kind := .string, oneof := some ".p.M.payload" }
    let more : Field := { text with id := ".p.M.more", name := "more" }
    let payload : OneOf := { id := ".p.M.payload", name := "payload" }
    let m : Message := {
      id := ".p.M"
      name := "M"
      package := "p"
      fields := [old, text, more]
      oneofs := [payload] }
    let api : Api := { packageName := "p", messages := [m] }
    ∃ result entry, annotate api {} = .ok result ∧
      result.model.oneofs[".p.M.payload"]? = some entry ∧
      entry.branches = [".p.M.old", ".p.M.text", ".p.M.more"] ∧
      entry.exampleField = some ".p.M.text" ∧ ".p.M.text" ∈ entry.branches := by
  intro old text more payload m api
  obtain ⟨-, hbest, -, hrun⟩ := sample_is_first_best
  obtain ⟨result, h⟩ : ∃ result, annotate api {} = .ok result := by
    apply exists_annotate_eq_ok <;> simp [api, m, old, text, more, Api.HasModule, Api.isOwn]
  have hids : api.typeIds.Nodup := by simp [api, Api.typeIds, m]
  have hmessages : api.ownMessages = [m] := rfl
  have honeofs : (api.ownOneOfs.map (·.2.id)).Nodup := by
    simp [Api.ownOneOfs, hmessages, m]
  have hm : m ∈ api.ownMessages := by simp [hmessages]
  obtain ⟨names, hnames, -⟩ := getElem?_messages_of_annotate h hids (List.mem_filter.1 hm).1
  have hentry := getElem?_oneofs_of_annotate h honeofs hm hnames (o := payload) (by simp [m])
  have hmembers : m.members payload = [old, text, more] := by decide
  have hsample : bestField? [old, text, more] = some text := by
    rw [hbest]
    exact ⟨⟨[old], [more], rfl, by decide⟩, by decide⟩
  have hbranches : ((Lexicon.of api {}).annotateOneOf m names payload).branches =
      [".p.M.old", ".p.M.text", ".p.M.more"] := by
    simp [Lexicon.annotateOneOf, hmembers, old, text, more]
  obtain ⟨branch, hbranch, hexample⟩ :=
    (hrun api {} result h _ _ hentry).2 (by simp [hbranches])
  have htext : branch = ".p.M.text" := by
    simpa [Lexicon.annotateOneOf, hmembers, hsample, text, eq_comm] using hexample
  subst htext
  exact ⟨result, _, h, hentry, hbranches, hexample, hbranch⟩

end ApiAnnotator
