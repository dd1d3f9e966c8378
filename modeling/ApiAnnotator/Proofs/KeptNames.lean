import ApiAnnotator.Proofs.ScopeNames
import ApiAnnotator.Text.Spellings

/-!
# Which types keep the names that they ask for

A type gets the name that it asks for unless a type before it in its scope has that name already.
There are two ways to have it. An earlier type may ask for the same name, and then the name is gone
whoever of the earlier types has it. Or an earlier type has come by the name with a number, as its
alias: after two types that ask for `Foo`, the name `Foo2` is gone, also for the first type that
asks for it. So being the first to ask for a name is not enough to keep it, unless the name is no
other name of the scope with a number.

## Main definitions

* `Lexicon.asked` — the name that a type asks for.
* `Lexicon.KeepsName` — a type keeps the name that it asks for.

## Main statements

* `Lexicon.ResolvesScope.exists_target_eq_asked` — what a type asks for is gone after it.
* `Lexicon.ResolvesScope.exists_number_of_alias` — an alias is the name asked for with a number.
* `Api.keeps_name_iff` — **a type keeps the name that it asks for exactly if no earlier type of its
  scope asks for the name or has it as an alias**.
-/

namespace ApiAnnotator

namespace Lexicon

variable [Speller]

/-- The name that a declared type asks for. -/
def asked (lx : Lexicon) (d : DeclaredType) : String :=
  leafName lx.options d.id d.name

/-- A declared type keeps the name that it asks for, and needs no alias. -/
def KeepsName (lx : Lexicon) (d : DeclaredType) : Prop :=
  lx.target d = lx.asked d ∧ lx.alias? d.id = none

namespace ResolvesScope

variable {lx : Lexicon} {scope : String × Option String} {before after : List DeclaredType}
  {d e : DeclaredType}

/-- An alias is the target name of its type, and not the name that the type asks for. -/
theorem alias?_eq_some_iff (h : lx.ResolvesScope scope) (hd : d ∈ lx.api.declaredIn scope)
    {name : String} : lx.alias? d.id = some name ↔ lx.target d = name ∧ lx.asked d ≠ name := by
  rw [h.alias?_eq d hd]
  by_cases hsame : lx.target d = leafName lx.options d.id d.name
  · rw [if_pos hsame]
    refine iff_of_false (by simp) ?_
    rintro ⟨rfl, hne⟩
    exact hne hsame.symm
  · rw [if_neg hsame, Option.some_inj]
    refine ⟨?_, And.left⟩
    rintro rfl
    exact ⟨rfl, Ne.symm hsame⟩

/-- A type keeps its name exactly if no type before it in the scope has the name. -/
theorem keepsName_iff_notMem (h : lx.ResolvesScope scope)
    (hscope : lx.api.declaredIn scope = before ++ d :: after) :
    lx.KeepsName d ↔ lx.asked d ∉ before.map lx.target := by
  have hfirst := h.isFirstFree before d after hscope
  have halias := h.alias?_eq d (by simp [hscope])
  constructor
  · rintro ⟨hkept, -⟩ htaken
    exact hfirst.not_mem (hkept ▸ htaken)
  · intro hfree
    have hkept : lx.target d = lx.asked d := hfirst.eq_base hfree
    exact ⟨hkept, halias.trans (if_pos hkept)⟩

/-- What a type asks for is gone after it: the type has that name, or one before it has. -/
theorem exists_target_eq_asked (h : lx.ResolvesScope scope)
    (hscope : lx.api.declaredIn scope = before ++ d :: after) (he : e ∈ before) :
    lx.asked e ∈ before.map lx.target := by
  obtain ⟨first, rest, rfl⟩ := List.append_of_mem he
  rw [List.append_assoc, List.cons_append] at hscope
  by_cases htaken : lx.asked e ∈ first.map lx.target
  · rw [List.map_append]
    exact List.mem_append_left _ htaken
  · have hkept := ((h.keepsName_iff_notMem hscope).2 htaken).1
    exact List.mem_map.2 ⟨e, he, hkept⟩

/-- An alias is the name that its type asks for, with a number. -/
theorem exists_number_of_alias (h : lx.ResolvesScope scope) (hd : d ∈ lx.api.declaredIn scope)
    {name : String} (hname : lx.alias? d.id = some name) :
    ∃ i, 2 ≤ i ∧ name = Identifier.numbered (lx.asked d) i := by
  obtain ⟨rfl, hrenamed⟩ := (h.alias?_eq_some_iff hd).1 hname
  obtain ⟨before, after, hscope⟩ := List.append_of_mem hd
  have hfirst := h.isFirstFree before d after hscope
  have htaken : lx.asked d ∈ before.map lx.target := by
    by_contra hfree
    exact hrenamed (hfirst.eq_base hfree).symm
  obtain ⟨i, hi, hnumber, -⟩ := hfirst.exists_number htaken
  exact ⟨i, hi, hnumber⟩

/-- A name is gone exactly if a type has asked for it or has it as an alias. -/
theorem asked_mem_iff (h : lx.ResolvesScope scope)
    (hscope : lx.api.declaredIn scope = before ++ d :: after) :
    lx.asked d ∈ before.map lx.target ↔
      ∃ e ∈ before, lx.asked e = lx.asked d ∨ lx.alias? e.id = some (lx.asked d) := by
  have hdeclared : ∀ e ∈ before, e ∈ lx.api.declaredIn scope := by
    intro e he
    simp [hscope, he]
  constructor
  · intro htaken
    obtain ⟨e, he, htarget⟩ := List.mem_map.1 htaken
    refine ⟨e, he, ?_⟩
    by_cases hsame : lx.asked e = lx.asked d
    · exact .inl hsame
    · exact .inr ((h.alias?_eq_some_iff (hdeclared e he)).2 ⟨htarget, hsame⟩)
  · rintro ⟨e, he, hsame | halias⟩
    · exact hsame ▸ h.exists_target_eq_asked hscope he
    · have htarget := ((h.alias?_eq_some_iff (hdeclared e he)).1 halias).1
      exact List.mem_map.2 ⟨e, he, htarget⟩

end ResolvesScope

end Lexicon

/-- **A type keeps the name that it asks for exactly if no earlier type of its scope asks for the
name or has it as an alias.** With distinct IDs, and whatever the options are, the first type of a
scope that asks for a name has it as its target name, and no alias, unless the name is the alias of
a type before it; every later type that asks for the name is renamed; and an alias is the name that
its type asks for, with a number from two on. -/
theorem Api.keeps_name_iff [Speller] {api : Api} (options : Options) (hids : api.typeIds.Nodup)
    {scope : String × Option String} {before after : List DeclaredType} {d : DeclaredType}
    (hscope : api.declaredIn scope = before ++ d :: after) :
    let lx := Lexicon.of api options
    (lx.KeepsName d ↔ ∀ e ∈ before, lx.asked e ≠ lx.asked d ∧ lx.alias? e.id ≠ some (lx.asked d)) ∧
      ∀ e ∈ before, ∀ name, lx.alias? e.id = some name →
        ∃ i, 2 ≤ i ∧ name = Identifier.numbered (lx.asked e) i := by
  intro lx
  have hresolved : lx.ResolvesScope scope :=
    Lexicon.resolvesScope_of (nodup_ids_declaredTypes hids) options scope
  refine ⟨?_, fun e he name hname => ?_⟩
  · rw [hresolved.keepsName_iff_notMem hscope, hresolved.asked_mem_iff hscope]
    simp [not_or]
  · have hdeclared : e ∈ api.declaredIn scope := by simp [hscope, he]
    exact hresolved.exists_number_of_alias hdeclared hname

/-- The second `Foo` becomes `Foo2`, and so the first of the two types that ask for `Foo2` does not
keep its name. -/
theorem Api.first_foo2_loses_name :
    let foo : Message := { id := ".p.Foo", name := "Foo", package := "p" }
    let again : Message := { id := ".p.foo", name := "foo", package := "p" }
    let second : Message := { id := ".p.Foo2", name := "Foo2", package := "p" }
    let other : Message := { id := ".p.foo_2", name := "foo_2", package := "p" }
    let api : Api := { packageName := "p", messages := [foo, again, second, other] }
    let lx := Lexicon.of api {}
    api.typeIds.Nodup ∧
      api.declaredIn ("p", none) =
        [.ofMessage foo, .ofMessage again] ++ .ofMessage second :: [.ofMessage other] ∧
      lx.asked (.ofMessage second) = lx.asked (.ofMessage other) ∧
      (∀ e ∈ [.ofMessage foo, .ofMessage again], lx.asked e ≠ lx.asked (.ofMessage second)) ∧
      ¬ lx.KeepsName (.ofMessage second) ∧ lx.target (.ofMessage second) = "Foo22" := by
  intro foo again second other api lx
  have hids : api.typeIds.Nodup := by
    simp [api, typeIds, foo, again, second, other]
  have hscope : api.declaredIn ("p", none) =
      [.ofMessage foo, .ofMessage again] ++ .ofMessage second :: [.ofMessage other] := by decide
  refine ⟨hids, hscope, by decide, by decide, ?_, by decide⟩
  intro hkeeps
  have hfree := (keeps_name_iff {} hids hscope).1.1 hkeeps (.ofMessage again) (by simp)
  exact hfree.2 (by decide)

end ApiAnnotator
