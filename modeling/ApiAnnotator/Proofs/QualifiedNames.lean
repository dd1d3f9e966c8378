import ApiAnnotator.Proofs.Completion
import ApiAnnotator.Proofs.Enclosing
import ApiAnnotator.Proofs.Pass
import ApiAnnotator.Proofs.Scopes
import ApiAnnotator.Proofs.Usage
import ApiAnnotator.Text.Spellings

/-!
# When two types have the same qualified name

Target names differ within a scope, but a qualified name also tells in which modules a type stands,
and the module of a message is its target name in `snake_case`. That conversion forgets where words
end in a row of capitals, so the types nested in `HTTPServer` and in `Httpserver` stand in the same
module, and nothing keeps their names apart. This is the only way in which two own types can get the
same qualified name.

## Main definitions

* `Api.ParentsDeclared` — every parent is a message of the same package.
* `Api.Ancestry` — the messages around a type, innermost first.
* `AnnotatedModel.typeName?` — the qualified name in the entry of a type.

## Main statements

* `exists_siblings_of_map_eq` — where two ways outwards with equal modules meet.
* `qualified_eq_iff` — **which own types have the same qualified name**.
-/

namespace ApiAnnotator

/-! ## The messages around a type -/

namespace Api

/-- The given parent, if any, is a message of the given package that becomes a type. -/
def IsParent (api : Api) (package : String) (parent : Option String) : Prop :=
  ∀ id, parent = some id → ∃ m ∈ api.structs, m.id = id ∧ m.package = package

/-- Every parent is a message of the same package that becomes a type. -/
def ParentsDeclared (api : Api) : Prop :=
  ∀ d ∈ api.declaredTypes, api.IsParent d.package d.parent

/-- The messages of a package from a parent outwards, up to a message without a parent. -/
inductive Ancestry (api : Api) (package : String) : Option String → List Message → Prop
  | top : Ancestry api package none []
  | step {m : Message} {rest : List Message} : m ∈ api.structs → m.package = package →
      Ancestry api package m.parent rest → Ancestry api package (some m.id) (m :: rest)

variable {api : Api} {package : String}

theorem mem_declaredTypes_of_mem_structs {m : Message} (hm : m ∈ api.structs) :
    .ofMessage m ∈ api.declaredTypes :=
  List.mem_append_left _ (List.mem_map_of_mem hm)

/-- If parents are declared and nothing is nested in itself, the way outwards is never cut short. -/
theorem ancestry_outwards (hids : api.typeIds.Nodup) (hparents : api.ParentsDeclared)
    (hacyclic : ∀ id, ¬ Relation.TransGen api.NestedUse id id) {seen : List String}
    {parent : Option String} (hparent : api.IsParent package parent)
    (hseen : ∀ s ∈ seen, ∀ id, parent = some id → Relation.TransGen api.NestedUse s id) :
    api.Ancestry package parent (api.outwards seen parent) := by
  have hfind : ∀ id, api.IsParent package (some id) →
      ∃ m ∈ api.structs, api.message? id = some m ∧ m.id = id ∧ m.package = package := by
    intro id h
    obtain ⟨m, hm, rfl, hpackage⟩ := h id rfl
    exact ⟨m, hm, message?_of_mem hids (mem_messages_of_mem_structs hm), rfl, hpackage⟩
  fun_induction api.outwards seen parent with
  | case1 seen => exact .top
  | case2 seen id hnone =>
      obtain ⟨m, -, hm, -⟩ := hfind id hparent
      rw [hnone] at hm
      cases hm
  | case3 seen id m hfound hmem =>
      obtain ⟨-, rfl⟩ := of_message?_eq_some hfound
      exact absurd (hseen m.id hmem m.id rfl) (hacyclic m.id)
  | case4 seen id m hfound hnew ih =>
      obtain ⟨m', hm, hfound', rfl, hpackage⟩ := hfind id hparent
      obtain rfl := Option.some_inj.1 (hfound.symm.trans hfound')
      have hnested : ∀ id, m.parent = some id → api.NestedUse m.id id :=
        fun id hid => .inl ⟨m, mem_messages_of_mem_structs hm, rfl, hid⟩
      refine .step hm hpackage (ih ?_ ?_)
      · rw [← hpackage]
        exact hparents _ (mem_declaredTypes_of_mem_structs hm)
      · intro s hs id hid
        rcases List.mem_cons.1 hs with rfl | hs
        · exact .single (hnested id hid)
        · exact (hseen s hs m.id rfl).tail (hnested id hid)

/-- **Where two ways outwards with equal modules meet**, two messages with the same parent have the
same module. -/
theorem exists_siblings_of_map_eq {module : Message → String} {parent parent' : Option String}
    {ms ms' : List Message} (h : api.Ancestry package parent ms)
    (h' : api.Ancestry package parent' ms') (hmodules : ms.map module = ms'.map module)
    (hne : parent ≠ parent') :
    ∃ m ∈ ms, ∃ m' ∈ ms', m ∈ api.structs ∧ m' ∈ api.structs ∧ m ≠ m' ∧
      m.package = m'.package ∧ m.parent = m'.parent ∧ module m = module m' := by
  induction h generalizing parent' ms' with
  | top =>
      cases h' with
      | top => exact absurd rfl hne
      | step => simp at hmodules
  | @step m rest hm hpackage _ ih =>
      cases h' with
      | top => simp at hmodules
      | @step m' rest' hm' hpackage' hrest' =>
          simp only [List.map_cons, List.cons.injEq] at hmodules
          obtain ⟨hmodule, hmodules⟩ := hmodules
          by_cases hparent : m.parent = m'.parent
          · exact ⟨m, List.mem_cons_self, m', List.mem_cons_self, hm, hm',
              fun heq => hne (by rw [heq]), hpackage.trans hpackage'.symm, hparent, hmodule⟩
          · obtain ⟨n, hn, n', hn', hsiblings⟩ := ih hrest' hmodules hparent
            exact ⟨n, List.mem_cons_of_mem m hn, n', List.mem_cons_of_mem m' hn', hsiblings⟩

end Api

/-! ## The names in the tables -/

/-- The qualified name in the entry of a type. -/
def AnnotatedModel.typeName? (model : AnnotatedModel) (id : String) : Option String :=
  KnownTypes.name? ⟨model.messages, model.enums⟩ id

section Pass

variable [Speller] {api : Api} {options : Options}

/-- The entry of a type has the qualified name of the type. -/
theorem typeName?_of_annotate {result : Annotated} (h : annotate api options = .ok result)
    (hids : api.typeIds.Nodup) {d : DeclaredType} (hd : d ∈ api.declaredTypes)
    {names : QualifiedName} (hnames : (Lexicon.of api options).qualify d = .ok names) :
    result.model.typeName? d.id = some names.qualified := by
  unfold AnnotatedModel.typeName? KnownTypes.name?
  simp only [Api.declaredTypes, List.mem_append, List.mem_map] at hd
  rcases hd with ⟨m, hm, rfl⟩ | ⟨e, he, rfl⟩
  · obtain ⟨names', hnames', hentry⟩ := getElem?_messages_of_annotate h hids hm
    obtain rfl : names = names' := Except.ok.inj (hnames.symm.trans hnames')
    simp [DeclaredType.ofMessage, hentry]
  · obtain ⟨names', hnames', hentry⟩ := getElem?_enums_of_annotate h hids he
    obtain rfl : names = names' := Except.ok.inj (hnames.symm.trans hnames')
    simp [DeclaredType.ofEnum, hentry, getElem?_messages_of_enum h hids he]

/-! ## Names that are the same -/

/-- The qualified names of own types are the same if all their parts are. -/
theorem qualified_eq_iff_parts_eq (hoverrides : options.nameOverrides = ∅) {d d' : DeclaredType}
    {names names' : QualifiedName} (hown : api.isOwn d.package = true)
    (hown' : api.isOwn d'.package = true)
    (hnames : (Lexicon.of api options).qualify d = .ok names)
    (hnames' : (Lexicon.of api options).qualify d' = .ok names') :
    names.qualified = names'.qualified ↔
      names.name = names'.name ∧ (Lexicon.of api options).modulesAround d.parent =
        (Lexicon.of api options).modulesAround d'.parent := by
  have hparts : ∀ d : DeclaredType,
      ∀ part ∈ (Lexicon.of api options).modulesAround d.parent ++
        [(Lexicon.of api options).targetName d.id d.name], IsPart part := by
    intro d part hpart
    rcases List.mem_append.1 hpart with hpart | hpart
    · obtain ⟨m, -, rfl⟩ := List.mem_map.1 hpart
      exact Identifier.isPart_fieldName _
    · rw [List.mem_singleton.1 hpart]
      exact Lexicon.isPart_targetName hoverrides d.id d.name
  obtain ⟨-, -, hname, -⟩ := Lexicon.of_qualify_eq_ok hnames
  obtain ⟨-, -, hname', -⟩ := Lexicon.of_qualify_eq_ok hnames'
  rw [Lexicon.qualified_eq_pathOf hown hnames, Lexicon.qualified_eq_pathOf hown' hnames', hname,
    hname']
  constructor
  · intro h
    obtain ⟨hmodules, hlast⟩ := List.append_inj' (pathOf_injective (hparts d) (hparts d') h) rfl
    exact ⟨List.singleton_inj.1 hlast, hmodules⟩
  · rintro ⟨htarget, hmodules⟩
    rw [htarget, hmodules]

/-- Types with the same modules around them but other parents stand in messages that share a
module. -/
theorem exists_siblings_of_modulesAround_eq (hids : api.typeIds.Nodup)
    (hparents : api.ParentsDeclared) (hacyclic : ∀ id, ¬ Relation.TransGen api.NestedUse id id)
    {d d' : DeclaredType} (hd : d ∈ api.declaredTypes) (hd' : d' ∈ api.declaredTypes)
    (hpackage : d.package = d'.package) (hne : d.parent ≠ d'.parent)
    (hmodules : (Lexicon.of api options).modulesAround d.parent =
      (Lexicon.of api options).modulesAround d'.parent) :
    ∃ m ∈ api.enclosing d.parent, ∃ m' ∈ api.enclosing d'.parent, m.parent = m'.parent ∧
      (Lexicon.of api options).targetName m.id m.name ≠
        (Lexicon.of api options).targetName m'.id m'.name ∧
      (Lexicon.of api options).moduleName m = (Lexicon.of api options).moduleName m' := by
  have hway : ∀ d ∈ api.declaredTypes,
      api.Ancestry d.package d.parent (api.outwards [] d.parent) := fun d hd =>
    Api.ancestry_outwards hids hparents hacyclic (hparents d hd) (by simp)
  have hmap : (api.outwards [] d.parent).map (Lexicon.of api options).moduleName =
      (api.outwards [] d'.parent).map (Lexicon.of api options).moduleName := by
    simpa [Lexicon.modulesAround, Api.enclosing] using hmodules
  obtain ⟨m, hm, m', hm', hstruct, hstruct', hother, hpackages, hparent, hmodule⟩ :=
    Api.exists_siblings_of_map_eq (hway d hd) (hpackage ▸ hway d' hd') hmap hne
  refine ⟨m, by simpa [Api.enclosing] using hm, m', by simpa [Api.enclosing] using hm', hparent,
    ?_, hmodule⟩
  refine Lexicon.targetName_ne_of_scope_eq (Api.nodup_ids_declaredTypes hids)
    (Api.mem_declaredTypes_of_mem_structs hstruct)
    (Api.mem_declaredTypes_of_mem_structs hstruct') ?_ ?_
  · intro heq
    have hsame := Api.message?_of_mem hids (Api.mem_messages_of_mem_structs hstruct)
    have hsame' := Api.message?_of_mem hids (Api.mem_messages_of_mem_structs hstruct')
    have hid : m.id = m'.id := congrArg DeclaredType.id heq
    rw [hid, hsame'] at hsame
    exact hother (Option.some_inj.1 hsame).symm
  · exact Prod.ext hpackages hparent

/-- **Which own types have the same qualified name.** Without overrides two types share a qualified
name exactly if they are nested in different messages, have the same target name, and the modules
around them have the same names. Then two messages with the same parent are around them, one around
each, whose target names differ but whose modules do not. -/
theorem qualified_eq_iff (hids : api.typeIds.Nodup) (hparents : api.ParentsDeclared)
    (hacyclic : ∀ id, ¬ Relation.TransGen api.NestedUse id id)
    (hoverrides : options.nameOverrides = ∅) {d d' : DeclaredType} (hd : d ∈ api.declaredTypes)
    (hd' : d' ∈ api.declaredTypes) (hown : api.isOwn d.package = true)
    (hown' : api.isOwn d'.package = true) (hne : d ≠ d') :
    ∃ names names', (Lexicon.of api options).qualify d = .ok names ∧
      (Lexicon.of api options).qualify d' = .ok names' ∧
      (∀ result, annotate api options = .ok result →
        result.model.typeName? d.id = some names.qualified ∧
          result.model.typeName? d'.id = some names'.qualified) ∧
      (names.qualified = names'.qualified ↔
        d.parent ≠ d'.parent ∧ names.name = names'.name ∧
          (Lexicon.of api options).modulesAround d.parent =
            (Lexicon.of api options).modulesAround d'.parent) ∧
      (names.qualified = names'.qualified →
        ∃ m ∈ api.enclosing d.parent, ∃ m' ∈ api.enclosing d'.parent, m.parent = m'.parent ∧
          (Lexicon.of api options).targetName m.id m.name ≠
            (Lexicon.of api options).targetName m'.id m'.name ∧
          (Lexicon.of api options).moduleName m = (Lexicon.of api options).moduleName m') := by
  have hpackage : d.package = d'.package := by
    simp only [Api.isOwn, decide_eq_true_eq] at hown hown'
    rw [hown, hown']
  obtain ⟨names, hnames⟩ :=
    @Lexicon.exists_qualify_eq_ok (Lexicon.of api options) _ d (.inl hown)
  obtain ⟨names', hnames'⟩ :=
    @Lexicon.exists_qualify_eq_ok (Lexicon.of api options) _ d' (.inl hown')
  obtain ⟨-, -, hname, -⟩ := Lexicon.of_qualify_eq_ok hnames
  obtain ⟨-, -, hname', -⟩ := Lexicon.of_qualify_eq_ok hnames'
  have hparts := qualified_eq_iff_parts_eq hoverrides hown hown' hnames hnames'
  have hparent : names.name = names'.name → d.parent ≠ d'.parent := by
    intro hsame hparent
    rw [hname, hname'] at hsame
    exact Lexicon.targetName_ne_of_scope_eq (Api.nodup_ids_declaredTypes hids) hd hd' hne
      (Prod.ext hpackage hparent) hsame
  refine ⟨names, names', hnames, hnames', ?_, ?_, ?_⟩
  · intro result h
    exact ⟨typeName?_of_annotate h hids hd hnames, typeName?_of_annotate h hids hd' hnames'⟩
  · rw [hparts]
    constructor
    · rintro ⟨hsame, hmodules⟩
      exact ⟨hparent hsame, hsame, hmodules⟩
    · exact And.right
  · intro hqualified
    obtain ⟨hsame, hmodules⟩ := hparts.1 hqualified
    exact exists_siblings_of_modulesAround_eq hids hparents hacyclic hd hd' hpackage
      (hparent hsame) hmodules

end Pass

/-- The types nested in `HTTPServer` and in `Httpserver` share a qualified name. -/
theorem typeName?_eq_of_capitals :
    let server : Message := { id := ".p.HTTPServer", name := "HTTPServer", package := "p" }
    let server' : Message := { id := ".p.Httpserver", name := "Httpserver", package := "p" }
    let inner : Message :=
      { id := ".p.HTTPServer.Inner", name := "Inner", package := "p"
        parent := some ".p.HTTPServer" }
    let inner' : Message :=
      { id := ".p.Httpserver.Inner", name := "Inner", package := "p"
        parent := some ".p.Httpserver" }
    let api : Api := { packageName := "p", messages := [server, server', inner, inner'] }
    ∃ result, annotate api {} = .ok result ∧ ∃ name, result.model.typeName? inner.id = some name ∧
      result.model.typeName? inner'.id = some name := by
  intro server server' inner inner' api
  obtain ⟨result, h⟩ : ∃ result, annotate api {} = .ok result := by
    apply exists_annotate_eq_ok <;>
      simp [api, server, server', inner, inner', Api.HasModule, Api.isOwn]
  have hids : api.typeIds.Nodup := by simp [api, Api.typeIds, server, server', inner, inner']
  have hdecls : api.declaredTypes = [server, server', inner, inner'].map .ofMessage := by
    simp [api, Api.declaredTypes, Api.structs, server, server', inner, inner']
  have hparents : api.ParentsDeclared := by
    simp [Api.ParentsDeclared, Api.IsParent, hdecls, DeclaredType.ofMessage, api, Api.structs,
      server, server', inner, inner']
  have hnested : ∀ {id parent outer}, api.NestedUse id parent → ¬ api.NestedUse parent outer := by
    intro id parent outer h h'
    simp only [Api.NestedUse, api, server, server', inner, inner', List.mem_cons, List.not_mem_nil,
      or_false, exists_eq_or_imp, exists_eq_left, reduceCtorEq, and_false, false_or, false_and,
      exists_false, Option.some_inj] at h h'
    rcases h with ⟨rfl, rfl⟩ | ⟨rfl, rfl⟩ <;> simp at h'
  have hacyclic : ∀ id, ¬ Relation.TransGen api.NestedUse id id := by
    intro id hcycle
    obtain ⟨_, hfirst, -⟩ := Relation.TransGen.head'_iff.1 hcycle
    obtain ⟨_, -, hlast⟩ := Relation.TransGen.tail'_iff.1 hcycle
    exact hnested hlast hfirst
  have hrenames : api.renames {} = [] := by decide
  have htarget : ∀ id name, (Lexicon.of api {}).targetName id name = Identifier.typeName name := by
    intro id name
    simp [Lexicon.targetName, Lexicon.alias?, Lexicon.of, hrenames, leafName]
  have hmodules : (Lexicon.of api {}).modulesAround inner.parent =
      (Lexicon.of api {}).modulesAround inner'.parent := by
    have hname : Identifier.typeName "HTTPServer" = "HTTPServer" := by decide
    have hname' : Identifier.typeName "Httpserver" = "Httpserver" := by decide
    have hmodule : Identifier.fieldName "HTTPServer" = "httpserver" := by decide
    have hmodule' : Identifier.fieldName "Httpserver" = "httpserver" := by decide
    have henclosing : api.enclosing inner.parent = [server] :=
      Api.enclosing_of_parent_eq_none (Api.message?_of_mem hids (m := server) (by simp [api])) rfl
    have henclosing' : api.enclosing inner'.parent = [server'] :=
      Api.enclosing_of_parent_eq_none (Api.message?_of_mem hids (m := server') (by simp [api])) rfl
    simp only [Lexicon.modulesAround, Lexicon.api_of, henclosing, henclosing', List.map_cons,
      List.map_nil, Lexicon.moduleName, htarget, server, server', hname, hname', hmodule, hmodule']
  have hinner : .ofMessage inner ∈ api.declaredTypes := by simp [hdecls]
  have hinner' : .ofMessage inner' ∈ api.declaredTypes := by simp [hdecls]
  have hoverrides : ({} : Options).nameOverrides = ∅ := rfl
  obtain ⟨names, names', hnames, hnames', hentries, hiff, -⟩ :=
    qualified_eq_iff hids hparents hacyclic hoverrides hinner hinner' rfl rfl
      (by simp [DeclaredType.ofMessage, inner, inner'])
  obtain ⟨-, -, hname, -⟩ := Lexicon.of_qualify_eq_ok hnames
  obtain ⟨-, -, hname', -⟩ := Lexicon.of_qualify_eq_ok hnames'
  have hqualified : names.qualified = names'.qualified := by
    refine hiff.2 ⟨?_, ?_, hmodules⟩
    · simp [DeclaredType.ofMessage, inner, inner']
    · rw [hname, hname', htarget, htarget]
      rfl
  obtain ⟨hentry, hentry'⟩ := hentries result h
  exact ⟨result, h, names.qualified, hentry, hqualified ▸ hentry'⟩

end ApiAnnotator
