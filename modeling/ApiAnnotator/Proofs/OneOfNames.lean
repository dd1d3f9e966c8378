import ApiAnnotator.Proofs.Nesting
import ApiAnnotator.Proofs.QualifiedNames
import ApiAnnotator.Text.Spellings

/-!
# What a oneof shares its name with

A oneof becomes an enum in the module of its message, next to the types that are nested in the
message. Types are kept apart by the names that they claim, but a oneof claims none: it has its own
name as a type name, and the only name that it is compared with is that of the message around it. So
a oneof has the same qualified name as any type that stands in the same module under that name, and
as any other oneof of the message with the same type name, and none of this is known to an alias.

## Main statements

* `Lexicon.qualified_eq_ofOneOf_iff` — when a type has the qualified name of a oneof.
* `oneof_clashes_exactly` — **what a oneof shares its name with**, in terms of the tables.
-/

namespace ApiAnnotator

namespace Lexicon

variable [Speller] {lx : Lexicon} {p : Message} {outer : QualifiedName}

/-- The qualified name of a oneof is a path below the configured module. -/
theorem qualified_ofOneOf_eq_pathOf (hpown : lx.api.isOwn p.package = true)
    (houter : lx.ofMessage p = .ok outer) (o : OneOf) :
    (lx.ofOneOf p outer o).qualified = pathOf lx.options.modulePath
      (lx.modulesAround p.parent ++ [lx.moduleName p] ++ [Identifier.typeName o.name]) := by
  have hmodule : outer.modulePath = pathOf lx.options.modulePath (lx.modulesAround p.parent) :=
    modulePath_eq_pathOf hpown houter
  rw [pathOf_append_singleton, pathOf_append_singleton, ← hmodule]
  rfl

/-- Two oneofs of a message have the same qualified name if their type names are the same. -/
theorem qualified_ofOneOf_eq_iff {o o' : OneOf} :
    (lx.ofOneOf p outer o').qualified = (lx.ofOneOf p outer o).qualified ↔
      Identifier.typeName o'.name = Identifier.typeName o.name :=
  String.append_right_inj _

/-- A oneof has an alias exactly if its name is that of its message. -/
theorem isSome_aliasName_annotateOneOf (lx : Lexicon) (p : Message) (outer : QualifiedName)
    (o : OneOf) : (lx.annotateOneOf p outer o).aliasName.isSome = true ↔
      (lx.annotateOneOf p outer o).enumName = outer.name := by
  simp [annotateOneOf, ofOneOf]

/-- **When a type has the qualified name of a oneof**: if it stands in the module of the message
under the type name of the oneof. -/
theorem qualified_eq_ofOneOf_iff {d : DeclaredType} {names : QualifiedName}
    (hpart : IsPart names.name) (hown : lx.api.isOwn d.package = true)
    (hpown : lx.api.isOwn p.package = true) (hnames : lx.qualify d = .ok names)
    (houter : lx.ofMessage p = .ok outer) (o : OneOf) :
    names.qualified = (lx.ofOneOf p outer o).qualified ↔
      names.modulePath = inModule outer.modulePath (lx.moduleName p) ∧
        names.name = Identifier.typeName o.name := by
  obtain ⟨-, -, hname, -, hqualified⟩ := of_qualify_eq_ok hnames
  constructor
  · intro h
    rw [qualified_eq_pathOf hown hnames, qualified_ofOneOf_eq_pathOf hpown houter, ← hname] at h
    have hmodules : ∀ parent, ∀ part ∈ lx.modulesAround parent, IsPart part := by
      intro parent part hmem
      obtain ⟨m, -, rfl⟩ := List.mem_map.1 hmem
      exact Identifier.isPart_fieldName _
    have hparts : ∀ part ∈ lx.modulesAround d.parent ++ [names.name], IsPart part := by
      intro part hmem
      rcases List.mem_append.1 hmem with hmem | hmem
      · exact hmodules _ part hmem
      · rwa [List.mem_singleton.1 hmem]
    have hparts' : ∀ part ∈ lx.modulesAround p.parent ++ [lx.moduleName p] ++
        [Identifier.typeName o.name], IsPart part := by
      intro part hmem
      rw [List.mem_append, List.mem_append, List.mem_singleton, List.mem_singleton] at hmem
      rcases hmem with (hmem | hlast) | hlast
      · exact hmodules _ part hmem
      · rw [hlast]
        exact Identifier.isPart_fieldName _
      · rw [hlast]
        exact Identifier.isPart_typeName _
    obtain ⟨hmodule, hlast⟩ := List.append_inj' (pathOf_injective hparts hparts' h) rfl
    refine ⟨?_, List.singleton_inj.1 hlast⟩
    rw [modulePath_eq_pathOf hown hnames, hmodule, pathOf_append_singleton]
    exact congrArg (inModule · _) (modulePath_eq_pathOf hpown houter).symm
  · rintro ⟨hmodule, hsame⟩
    rw [hqualified, hmodule, hsame]
    rfl

end Lexicon

section Pass

variable [Speller] {api : Api} {options : Options} {result : Annotated}

/-- If oneofs have distinct IDs, each of them has an entry. -/
theorem getElem?_oneofs_of_annotate (h : annotate api options = .ok result)
    (honeofs : (api.ownOneOfs.map (·.2.id)).Nodup) {p : Message} (hp : p ∈ api.ownMessages)
    {outer : QualifiedName} (houter : (Lexicon.of api options).ofMessage p = .ok outer) {o : OneOf}
    (ho : o ∈ p.oneofs) :
    result.model.oneofs[o.id]? = some ((Lexicon.of api options).annotateOneOf p outer o) := by
  obtain ⟨d, hd, hmodel⟩ := draftsFrom_of_annotate h
  have hmem : (p, o) ∈ api.ownOneOfs := List.mem_flatMap.2 ⟨p, hp, List.mem_map_of_mem ho⟩
  have hlast : lastWith? (·.2.id) o.id api.ownOneOfs = some (p, o) := lastWith?_of_mem honeofs hmem
  have hrel := hd.rel_oneofs o.id
  rw [Lexicon.api_of, hlast] at hrel
  obtain ⟨entry, hentry, names, hnames, rfl⟩ := of_rel_some_left hrel
  obtain rfl : outer = names := Except.ok.inj (houter.symm.trans hnames)
  rw [hmodel]
  exact hentry

/-- The qualified names of a type and of a oneof are the same, in terms of their entries: the type
stands in the module of the message under the name of the oneof. If the type is nested in the
message, which is not nested in itself, then the names alone decide. -/
structure Api.SharesNameIff (api : Api) (p : Message) (d : DeclaredType) (names : QualifiedName)
    (outer : AnnotatedMessage) (entry : AnnotatedOneOf) : Prop where
  qualified_eq_iff : names.qualified = entry.qualifiedName ↔
    names.modulePath = inModule outer.modulePath outer.moduleName ∧ names.name = entry.enumName
  nested : d.parent = some p.id → ¬ Relation.TransGen api.EnclosedBy p.id p.id →
    (names.qualified = entry.qualifiedName ↔ names.name = entry.enumName)

/-- **What a oneof shares its name with.** A oneof of an own message has an alias exactly if its
name is that of the message. Whether it has one or not, its qualified name is that of every own type
that stands in the module of the message under the same name, and that of every oneof of the message
with the same type name, and of no others. Here IDs are distinct, and the types are those whose
override, if they have one, has no colon. -/
theorem oneof_clashes_exactly (h : annotate api options = .ok result) (hids : api.typeIds.Nodup)
    (honeofs : (api.ownOneOfs.map (·.2.id)).Nodup) {p : Message} (hp : p ∈ api.ownMessages)
    {o : OneOf} (ho : o ∈ p.oneofs) :
    ∃ outer entry, result.model.messages[p.id]? = some outer ∧
      result.model.oneofs[o.id]? = some entry ∧
      (entry.aliasName.isSome = true ↔ entry.enumName = outer.name) ∧
      (∀ d ∈ api.declaredTypes, api.isOwn d.package = true →
        (∀ name, options.nameOverrides[d.id]? = some name → IsPart name) →
        ∃ names, (Lexicon.of api options).qualify d = .ok names ∧
          result.model.typeName? d.id = some names.qualified ∧
          api.SharesNameIff p d names outer entry) ∧
      ∀ o' ∈ p.oneofs, ∃ entry', result.model.oneofs[o'.id]? = some entry' ∧
        (entry'.qualifiedName = entry.qualifiedName ↔
          Identifier.typeName o'.name = Identifier.typeName o.name) := by
  obtain ⟨hstruct, hpown⟩ := List.mem_filter.1 hp
  obtain ⟨outer, houter, hmessage⟩ := getElem?_messages_of_annotate h hids hstruct
  have hentry : ∀ {o : OneOf}, o ∈ p.oneofs → result.model.oneofs[o.id]? = _ := fun ho =>
    getElem?_oneofs_of_annotate h honeofs hp houter ho
  refine ⟨_, _, hmessage, hentry ho, ?_, ?_, ?_⟩
  · simp only [Lexicon.name_messageEntry]
    exact Lexicon.isSome_aliasName_annotateOneOf _ p outer o
  · intro d hd hown hoverride
    obtain ⟨names, hnames⟩ := exists_names_of_annotate h hd
    obtain ⟨-, -, hname, -⟩ := Lexicon.of_qualify_eq_ok hnames
    have hpart : IsPart names.name := by
      rw [hname]
      exact Lexicon.isPart_targetName_of_override hoverride d.name
    have hiff := Lexicon.qualified_eq_ofOneOf_iff hpart hown hpown hnames houter o
    refine ⟨names, hnames, typeName?_of_annotate h hids hd hnames, ?_, ?_⟩
    · simp only [Lexicon.modulePath_messageEntry, Lexicon.moduleName_messageEntry]
      exact hiff
    · intro hparent hcycle
      have hfound := Api.message?_of_mem hids (Api.mem_messages_of_mem_structs hstruct)
      have hmodule := Lexicon.modulePath_of_parent hfound hcycle hparent hown hpown hnames houter
      exact hiff.trans (and_iff_right hmodule)
  · intro o' ho'
    exact ⟨_, hentry ho', Lexicon.qualified_ofOneOf_eq_iff⟩

end Pass

/-- A oneof has the qualified name of the enum next to it, and no alias. -/
theorem oneof_clashes_with_enum :
    let kind : OneOf := { id := ".p.M.kind", name := "kind" }
    let m : Message := { id := ".p.M", name := "M", package := "p", oneofs := [kind] }
    let e : Enum := { id := ".p.M.Kind", name := "Kind", package := "p", parent := some ".p.M" }
    let api : Api := { packageName := "p", messages := [m], enums := [e] }
    ∃ result, annotate api {} = .ok result ∧
      ∃ entry, result.model.oneofs[kind.id]? = some entry ∧ entry.aliasName = none ∧
        result.model.typeName? e.id = some entry.qualifiedName := by
  intro kind m e api
  obtain ⟨result, h⟩ : ∃ result, annotate api {} = .ok result := by
    apply exists_annotate_eq_ok <;> simp [api, m, e, Api.HasModule, Api.isOwn]
  have hids : api.typeIds.Nodup := by simp [api, Api.typeIds, m, e]
  have hmessages : api.ownMessages = [m] := rfl
  have honeofs : (api.ownOneOfs.map (·.2.id)).Nodup := by
    simp [Api.ownOneOfs, hmessages, m]
  have hcycle : ¬ Relation.TransGen api.EnclosedBy m.id m.id := by
    intro hcycle
    obtain ⟨_, ⟨n, hn, -, hparent⟩, -⟩ := Relation.TransGen.head'_iff.1 hcycle
    have hn : n = m := by simpa [api] using hn
    simp [hn, m] at hparent
  have hm : m ∈ api.ownMessages := by simp [hmessages]
  have hkind : kind ∈ m.oneofs := by simp [m]
  have hrenames : api.renames {} = [] := by decide
  have htarget : ∀ id name, (Lexicon.of api {}).targetName id name = Identifier.typeName name := by
    intro id name
    rw [Lexicon.targetName_of_renames_eq_nil hrenames]
    simp [leafName]
  obtain ⟨names, hnames, hmessage⟩ :=
    getElem?_messages_of_annotate h hids (m := m) (List.mem_filter.1 hm).1
  have hentry := getElem?_oneofs_of_annotate h honeofs hm hnames hkind
  obtain ⟨outer, entry, houter, hfound, halias, htypes, -⟩ :=
    oneof_clashes_exactly h hids honeofs hm hkind
  obtain rfl := Option.some_inj.1 (hmessage.symm.trans houter)
  obtain rfl := Option.some_inj.1 (hentry.symm.trans hfound)
  obtain ⟨inner, hinner, htype, hshares⟩ :=
    htypes (.ofEnum e) (by simp [api, Api.declaredTypes]) rfl (by simp)
  obtain ⟨-, -, hname, -⟩ := Lexicon.of_qualify_eq_ok hnames
  obtain ⟨-, -, hname', -⟩ := Lexicon.of_qualify_eq_ok hinner
  have henum : ((Lexicon.of api {}).annotateOneOf m names kind).enumName = "Kind" := by
    change Identifier.typeName "kind" = "Kind"
    decide
  refine ⟨result, h, _, hentry, ?_, ?_⟩
  · rw [← Option.not_isSome_iff_eq_none, halias, henum, Lexicon.name_messageEntry, hname, htarget]
    decide
  · have hsame : inner.name = "Kind" := by
      rw [hname', htarget]
      decide
    rw [← (hshares.nested rfl hcycle).2 (hsame.trans henum.symm)]
    exact htype

end ApiAnnotator
