import ApiAnnotator.Proofs.Growth
import ApiAnnotator.Text.Spellings

/-!
# The names of one scope

Names are given out in one pass over all types, with the scopes mixed as they are declared. Still
each scope is a matter of its own: what its types get is what they would get if no other type were
declared. Within a scope the types are served in order, and each of them gets the first name that is
free: the one that it asks for, or that one with the least number from two on. A name with a number
is taken from then on, like any other, so it may in turn be in the way of a type that asks for it.

## Main definitions

* `Api.declaredIn` — the types of a scope in the order in which they claim names.
* `Api.restrictTo` — an API without the types of other scopes.
* `Lexicon.ResolvesScope` — what the names of a scope are.

## Main statements

* `claimNames_filter` — the claims of a scope are the claims of its types alone.
* `Api.scope_names_resolved` — **each type of a scope gets the first name that no type of the scope
  before it has**, whatever other scopes there are.
-/

namespace ApiAnnotator

/-! ## Scopes -/

/-- **The claims of a scope are the claims of its types alone.** -/
theorem claimNames_filter [Speller] (options : Options) (scope : String × Option String)
    (named : List NamedType) (decls : List DeclaredType) :
    (claimNames options named decls).filter (·.decl.scope = scope) =
      claimNames options (named.filter (·.decl.scope = scope))
        (decls.filter (·.scope = scope)) := by
  induction decls generalizing named with
  | nil => rfl
  | cons d rest ih =>
      by_cases hscope : d.scope = scope
      · subst hscope
        simp [claimNames, ih]
      · simp [claimNames, ih, hscope]

namespace Api

/-- The types of a scope in the order in which they claim names: messages before enums, both as they
are declared. -/
def declaredIn (api : Api) (scope : String × Option String) : List DeclaredType :=
  api.declaredTypes.filter (·.scope = scope)

variable {api api' : Api} {options : Options} {scope : String × Option String} {d : DeclaredType}

theorem mem_declaredIn_iff :
    d ∈ api.declaredIn scope ↔ d ∈ api.declaredTypes ∧ d.scope = scope := by
  simp [declaredIn]

variable [Speller]

theorem namedTypes_filter (api : Api) (options : Options) (scope : String × Option String) :
    (api.namedTypes options).filter (·.decl.scope = scope) =
      claimNames options [] (api.declaredIn scope) :=
  claimNames_filter options scope [] api.declaredTypes

/-- What a type of a scope claims, it claims in the whole API. -/
theorem mem_namedTypes_of_mem_claimNames {n : NamedType}
    (hn : n ∈ claimNames options [] (api.declaredIn scope)) : n ∈ api.namedTypes options := by
  rw [← namedTypes_filter] at hn
  exact (List.mem_filter.1 hn).1

/-- Each type of a scope has a claim among those of the scope. -/
theorem exists_mem_claimNames (options : Options) (hd : d ∈ api.declaredIn scope) :
    ∃ n ∈ claimNames options [] (api.declaredIn scope), n.decl = d := by
  rw [← decls_claimNames options [] (api.declaredIn scope)] at hd
  exact List.mem_map.1 hd

end Api

namespace Lexicon

variable [Speller]

/-- The target name of a declared type. -/
def target (lx : Lexicon) (d : DeclaredType) : String :=
  lx.targetName d.id d.name

/-- The names of a scope are distinct, each is the first one that is free when its type is served,
and a type has an alias exactly if it did not get the name it asked for. -/
structure ResolvesScope (lx : Lexicon) (scope : String × Option String) : Prop where
  nodup : ((lx.api.declaredIn scope).map lx.target).Nodup
  isFirstFree : ∀ before d after, lx.api.declaredIn scope = before ++ d :: after →
    Identifier.IsFirstFree (leafName lx.options d.id d.name) (before.map lx.target) (lx.target d)
  alias?_eq : ∀ d ∈ lx.api.declaredIn scope, lx.alias? d.id =
    if lx.target d = leafName lx.options d.id d.name then none else some (lx.target d)

variable {api : Api} {options : Options} {scope : String × Option String}

theorem nodup_map_target (hids : (api.declaredTypes.map (·.id)).Nodup) :
    ((api.declaredIn scope).map (Lexicon.of api options).target).Nodup := by
  have hdecls : (api.declaredIn scope).Nodup := (List.Nodup.of_map _ hids).filter _
  refine List.Nodup.map_on (fun d hd d' hd' htarget => ?_) hdecls
  obtain ⟨hd, hscope⟩ := Api.mem_declaredIn_iff.1 hd
  obtain ⟨hd', hscope'⟩ := Api.mem_declaredIn_iff.1 hd'
  by_contra hne
  exact targetName_ne_of_scope_eq hids hd hd' hne (hscope.trans hscope'.symm) htarget

/-- The names that the first types of a scope claim are their target names. -/
theorem map_target_claimNames (hids : (api.declaredTypes.map (·.id)).Nodup)
    {before : List DeclaredType} (hfirst : before <+: api.declaredIn scope) :
    (claimNames options [] before).map (·.target) = before.map (Lexicon.of api options).target := by
  obtain ⟨more, hmore⟩ := hfirst
  have htarget : ∀ n ∈ claimNames options [] before,
      n.target = (Lexicon.of api options).target n.decl := by
    intro n hn
    have hclaimed : n ∈ claimNames options [] (api.declaredIn scope) := by
      rw [← hmore, claimNames_append]
      exact List.mem_append_left _ hn
    exact (targetName_of_mem hids (Api.mem_namedTypes_of_mem_claimNames hclaimed)).symm
  calc (claimNames options [] before).map (·.target)
      = (claimNames options [] before).map ((Lexicon.of api options).target ∘ (·.decl)) :=
        List.map_congr_left htarget
    _ = ((claimNames options [] before).map (·.decl)).map (Lexicon.of api options).target :=
        List.map_map.symm
    _ = before.map (Lexicon.of api options).target := by rw [decls_claimNames]

/-- A type gets the first name that the types before it in its scope do not have. -/
theorem isFirstFree_target (hids : (api.declaredTypes.map (·.id)).Nodup)
    {before after : List DeclaredType} {d : DeclaredType}
    (hscope : api.declaredIn scope = before ++ d :: after) :
    Identifier.IsFirstFree (leafName options d.id d.name)
      (before.map (Lexicon.of api options).target) ((Lexicon.of api options).target d) := by
  have hinScope : ∀ e ∈ before ++ d :: after, e.scope = scope := by
    intro e he
    exact (Api.mem_declaredIn_iff.1 (hscope ▸ he)).2
  -- the claims before that of `d`, with the last one in front; all of them are in its scope
  let earlier := (claimNames options [] before).reverse
  have hearlier : earlier.filter (·.decl.scope = d.scope) = earlier := by
    refine List.filter_eq_self.2 fun n hn => ?_
    have hdecl : n.decl ∈ before := by
      rw [← decls_claimNames options [] before]
      exact List.mem_map_of_mem (List.mem_reverse.1 hn)
    simp [hinScope n.decl (by simp [hdecl]), hinScope d (by simp)]
  let claim : NamedType :=
    ⟨d, leafName options d.id d.name,
      Identifier.fresh (leafName options d.id d.name) (earlier.map (·.target))⟩
  have hclaim : claim ∈ claimNames options [] (api.declaredIn scope) := by
    rw [hscope, claimNames_append, List.append_nil, claimNames, hearlier]
    exact List.mem_append_right _ List.mem_cons_self
  have htarget : (Lexicon.of api options).target d = claim.target :=
    targetName_of_mem hids (Api.mem_namedTypes_of_mem_claimNames hclaim)
  have htaken : earlier.map (·.target) =
      (before.map (Lexicon.of api options).target).reverse := by
    rw [List.map_reverse, map_target_claimNames hids ⟨d :: after, hscope.symm⟩]
  rw [htarget]
  refine (Identifier.isFirstFree_fresh _ _).congr fun other => ?_
  rw [htaken, List.mem_reverse]

theorem resolvesScope_of (hids : (api.declaredTypes.map (·.id)).Nodup) (options : Options)
    (scope : String × Option String) : (Lexicon.of api options).ResolvesScope scope where
  nodup := nodup_map_target hids
  isFirstFree _ _ _ hscope := isFirstFree_target hids hscope
  alias?_eq d hd := by
    obtain ⟨n, hn, rfl⟩ := Api.exists_mem_claimNames options hd
    have hn := Api.mem_namedTypes_of_mem_claimNames hn
    obtain ⟨hleaf, -⟩ := of_mem_claimNames hn
    rw [alias?_of_mem hids hn, target, targetName_of_mem hids hn, options_of, ← hleaf]
    by_cases hsame : n.target = n.leaf <;> simp [NamedType.isRenamed, hsame]

end Lexicon

end ApiAnnotator
