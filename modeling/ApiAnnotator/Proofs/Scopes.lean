import ApiAnnotator.Proofs.Alphabet
import ApiAnnotator.Proofs.FreshNames
import ApiAnnotator.Proofs.Paths

/-!
# Names within a scope

Types with the same package and the same parent never share a target name: each of them gets a name
that none before it in the scope has, and a fresh name always exists. The look-up by ID finds that
name again, for with distinct IDs only one type was named under an ID.

## Main statements

* `claimNames_pairwise` — **names differ within a scope**.
* `Lexicon.alias?_of_mem`, `Lexicon.targetName_of_mem` — what is looked up is what was claimed.
* `Lexicon.targetName_ne_of_scope_eq` — the same for the target names that are looked up.
-/

namespace ApiAnnotator

/-! ## Identifiers as parts of paths -/

namespace Identifier

theorem isPart_typeName [Speller] (name : String) : IsPart (typeName name) := by
  intro hcolon
  exact absurd (isAlphanum_of_mem_typeName hcolon) (by decide)

theorem isPart_fieldName [Speller] (name : String) : IsPart (fieldName name) := by
  intro hcolon
  rcases of_mem_fieldName hcolon with (h | h | h) | h <;> exact absurd h (by decide)

theorem isPart_fresh {base : String} (taken : List String) (h : IsPart base) :
    IsPart (fresh base taken) := by
  rcases fresh_eq_or base taken with hfresh | ⟨i, hfresh⟩
  · rwa [hfresh]
  · rw [hfresh]
    intro hcolon
    rw [numbered, String.toList_append, List.mem_append] at hcolon
    rcases hcolon with hcolon | hcolon
    · exact h hcolon
    · have hdigit : ':'.isDigit = true := by
        refine Nat.isDigit_of_mem_toDigits (b := 10) (n := i) (by decide) (by decide) ?_
        simpa using hcolon
      exact absurd hdigit (by decide)

end Identifier

/-! ## The names that are claimed -/

section Claims

variable [Speller] {options : Options} {named : List NamedType} {decls : List DeclaredType}
  {n : NamedType}

theorem decls_claimNames (options : Options) (named : List NamedType) (decls : List DeclaredType) :
    (claimNames options named decls).map (·.decl) = decls := by
  induction decls generalizing named with
  | nil => rfl
  | cons d rest ih => simp [claimNames, ih]

/-- What each type asked for, and that it got a fresh form of it. -/
theorem of_mem_claimNames (h : n ∈ claimNames options named decls) :
    n.leaf = leafName options n.decl.id n.decl.name ∧
      ∃ taken, n.target = Identifier.fresh n.leaf taken := by
  induction decls generalizing named with
  | nil => simp [claimNames] at h
  | cons d rest ih =>
      rw [claimNames, List.mem_cons] at h
      rcases h with rfl | h
      · exact ⟨rfl, _, rfl⟩
      · exact ih h

/-- No type gets the name of one in its scope that had its name already. -/
theorem target_ne_of_mem_claimNames {other : NamedType} (hother : other ∈ named)
    (h : n ∈ claimNames options named decls) (hscope : other.decl.scope = n.decl.scope) :
    other.target ≠ n.target := by
  induction decls generalizing named with
  | nil => simp [claimNames] at h
  | cons d rest ih =>
      rw [claimNames, List.mem_cons] at h
      rcases h with rfl | h
      · intro htarget
        have hfresh := Identifier.fresh_not_mem (leafName options d.id d.name)
          ((named.filter (·.decl.scope = d.scope)).map (·.target))
        refine hfresh (List.mem_map.2 ⟨other, ?_, htarget⟩)
        simpa using ⟨hother, hscope⟩
      · exact ih (List.mem_cons_of_mem _ hother) h

/-- **Names differ within a scope.** -/
theorem claimNames_pairwise (options : Options) (named : List NamedType)
    (decls : List DeclaredType) :
    (claimNames options named decls).Pairwise fun a b =>
      a.decl.scope = b.decl.scope → a.target ≠ b.target := by
  induction decls generalizing named with
  | nil => simp [claimNames]
  | cons d rest ih =>
      rw [claimNames, List.pairwise_cons]
      refine ⟨?_, ih _⟩
      intro b hb hscope
      exact target_ne_of_mem_claimNames List.mem_cons_self hb hscope

end Claims

/-! ## The names that are looked up -/

theorem Api.mem_renames_iff [Speller] {api : Api} {options : Options} {id target : String} :
    (id, target) ∈ api.renames options ↔
      ∃ n ∈ api.namedTypes options, n.target ≠ n.leaf ∧ n.decl.id = id ∧ n.target = target := by
  simp [renames, NamedType.isRenamed, and_assoc]

namespace Lexicon

variable [Speller] {api : Api} {options : Options} {id name : String}

theorem mem_renames_of_alias?_eq_some (h : (Lexicon.of api options).alias? id = some name) :
    (id, name) ∈ api.renames options := by
  obtain ⟨before, after, hsplit, -⟩ := List.lookup_eq_some_iff.1 h
  have hrenames : api.renames options = before ++ (id, name) :: after := hsplit
  simp [hrenames]

/-- **The look-up finds the name that was claimed**: as an alias if it is not the one asked for. -/
theorem alias?_of_mem (hids : (api.declaredTypes.map (·.id)).Nodup) {n : NamedType}
    (hn : n ∈ api.namedTypes options) :
    (Lexicon.of api options).alias? n.decl.id = if n.isRenamed then some n.target else none := by
  have hdecls : ((api.namedTypes options).map fun n => n.decl.id).Nodup := by
    have hmap : (api.namedTypes options).map (fun n => n.decl.id) =
        api.declaredTypes.map (·.id) := by
      rw [← decls_claimNames options [] api.declaredTypes, List.map_map]
      rfl
    rwa [hmap]
  cases halias : (Lexicon.of api options).alias? n.decl.id with
  | some name =>
      obtain ⟨n', hn', hrenamed, hid, rfl⟩ :=
        Api.mem_renames_iff.1 (mem_renames_of_alias?_eq_some halias)
      obtain rfl := List.inj_on_of_nodup_map hdecls hn' hn hid
      simp [NamedType.isRenamed, hrenamed]
  | none =>
      have hsame : n.target = n.leaf := by
        by_contra hrenamed
        have hmem := Api.mem_renames_iff.2 ⟨n, hn, hrenamed, rfl, rfl⟩
        simpa using List.lookup_eq_none_iff.1 halias _ hmem
      simp [NamedType.isRenamed, hsame]

/-- The target name of a type is the name that it claimed. -/
theorem targetName_of_mem (hids : (api.declaredTypes.map (·.id)).Nodup) {n : NamedType}
    (hn : n ∈ api.namedTypes options) :
    (Lexicon.of api options).targetName n.decl.id n.decl.name = n.target := by
  obtain ⟨hleaf, -⟩ := of_mem_claimNames hn
  rw [targetName, alias?_of_mem hids hn, options_of, ← hleaf]
  by_cases hrenamed : n.target = n.leaf <;> simp [NamedType.isRenamed, hrenamed]

/-- **Target names differ within a scope.** -/
theorem targetName_ne_of_scope_eq (hids : (api.declaredTypes.map (·.id)).Nodup)
    {d d' : DeclaredType} (hd : d ∈ api.declaredTypes) (hd' : d' ∈ api.declaredTypes)
    (hne : d ≠ d') (hscope : d.scope = d'.scope) :
    (Lexicon.of api options).targetName d.id d.name ≠
      (Lexicon.of api options).targetName d'.id d'.name := by
  have hnamed : ∀ d ∈ api.declaredTypes, ∃ n ∈ api.namedTypes options, n.decl = d := by
    intro d hd
    rw [← decls_claimNames options [] api.declaredTypes] at hd
    exact List.mem_map.1 hd
  obtain ⟨n, hn, rfl⟩ := hnamed d hd
  obtain ⟨n', hn', rfl⟩ := hnamed d' hd'
  rw [targetName_of_mem hids hn, targetName_of_mem hids hn']
  have hsymm : Std.Symm fun a b : NamedType =>
      a.decl.scope = b.decl.scope → a.target ≠ b.target :=
    ⟨fun a b h hscope => (h hscope.symm).symm⟩
  have hpairwise := claimNames_pairwise options [] api.declaredTypes
  exact hpairwise.forall hn hn' (fun heq => hne (heq ▸ rfl)) hscope

/-- If no type is renamed, then a target name is the one that is asked for. -/
theorem targetName_of_renames_eq_nil (hrenames : api.renames options = []) (id name : String) :
    (Lexicon.of api options).targetName id name = leafName options id name := by
  simp [targetName, alias?, of, hrenames]

/-- A target name can be a part of a path if the override of the type, if it has one, can. -/
theorem isPart_targetName_of_override
    (hoverride : ∀ name, options.nameOverrides[id]? = some name → IsPart name) (name : String) :
    IsPart ((Lexicon.of api options).targetName id name) := by
  have hleaf : ∀ name, IsPart (leafName options id name) := by
    intro name
    cases hfound : options.nameOverrides[id]? with
    | none => simpa [leafName, hfound] using Identifier.isPart_typeName name
    | some override => simpa [leafName, hfound] using hoverride override hfound
  unfold targetName
  cases halias : (Lexicon.of api options).alias? id with
  | none => exact hleaf name
  | some target =>
      obtain ⟨n, hn, -, rfl, rfl⟩ := Api.mem_renames_iff.1 (mem_renames_of_alias?_eq_some halias)
      obtain ⟨hasked, taken, hfresh⟩ := of_mem_claimNames hn
      rw [Option.getD_some, hfresh, hasked]
      exact Identifier.isPart_fresh taken (hleaf _)

/-- Without overrides every target name can be a part of a path. -/
theorem isPart_targetName (hoverrides : options.nameOverrides = ∅) (id name : String) :
    IsPart ((Lexicon.of api options).targetName id name) :=
  isPart_targetName_of_override (by simp [hoverrides]) name

end Lexicon

end ApiAnnotator
