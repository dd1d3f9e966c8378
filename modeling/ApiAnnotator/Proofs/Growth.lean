import ApiAnnotator.Proofs.Pass
import ApiAnnotator.Proofs.Scopes
import ApiAnnotator.Text.Spellings

/-!
# Names in a growing API

Names are given out once and in order, so what is declared later takes no name from what is declared
before it. Messages claim before enums. A message that is declared last therefore comes after all
messages, though not after the enums, and an enum that is declared last comes after all types.

Map entries claim no names. They keep theirs for another reason: no type with a name of its own has
their ID.

## Main definitions

* `Api.addMessage`, `Api.addEnum` — an API with one more type at the end.
* `Lexicon.NamesAlike` — two lexica that give a type the same target name and the same alias.

## Main statements

* `claimNames_append` — names do not depend on what is declared after them.
* `Api.names_kept_under_growth` — **one more type renames no type that claims before it**.
-/

namespace ApiAnnotator

/-- The names of the first declarations do not depend on what follows. -/
theorem claimNames_append [Speller] (options : Options) (named : List NamedType)
    (decls more : List DeclaredType) :
    claimNames options named (decls ++ more) =
      claimNames options named decls ++
        claimNames options ((claimNames options named decls).reverse ++ named) more := by
  induction decls generalizing named with
  | nil => rfl
  | cons d rest ih => simp [claimNames, ih]

namespace Lexicon

variable [Speller]

/-- The two lexica give a type the same target name and the same alias. -/
structure NamesAlike (lx lx' : Lexicon) (id name : String) : Prop where
  targetName : lx'.targetName id name = lx.targetName id name
  alias? : lx'.alias? id = lx.alias? id

variable {api api' : Api} {options : Options} {id name : String}

/-- Under the same options the alias settles the target name. -/
theorem namesAlike_of_alias?_eq
    (h : (Lexicon.of api' options).alias? id = (Lexicon.of api options).alias? id) :
    (Lexicon.of api options).NamesAlike (Lexicon.of api' options) id name where
  targetName := by rw [Lexicon.targetName, Lexicon.targetName, h, options_of, options_of]
  alias? := h

/-- A type is named alike in two APIs if it claims the same name in both. -/
theorem namesAlike_of_mem (hids : (api.declaredTypes.map (·.id)).Nodup)
    (hids' : (api'.declaredTypes.map (·.id)).Nodup) {n : NamedType}
    (hn : n ∈ api.namedTypes options) (hn' : n ∈ api'.namedTypes options) :
    (Lexicon.of api options).NamesAlike (Lexicon.of api' options) n.decl.id n.decl.name :=
  namesAlike_of_alias?_eq (by rw [alias?_of_mem hids hn, alias?_of_mem hids' hn'])

/-- What claims no name has no alias. -/
theorem alias?_eq_none_of_not_mem (h : id ∉ api.declaredTypes.map (·.id)) :
    (Lexicon.of api options).alias? id = none := by
  cases halias : (Lexicon.of api options).alias? id with
  | none => rfl
  | some target =>
      obtain ⟨n, hn, -, rfl, -⟩ := Api.mem_renames_iff.1 (mem_renames_of_alias?_eq_some halias)
      have hdecl : n.decl ∈ api.declaredTypes := by
        rw [← decls_claimNames options [] api.declaredTypes]
        exact List.mem_map_of_mem hn
      exact absurd (List.mem_map_of_mem hdecl) h

end Lexicon

namespace Api

/-- The API with one more message at the end. -/
def addMessage (api : Api) (m : Message) : Api :=
  { api with messages := api.messages ++ [m] }

/-- The API with one more enum at the end. -/
def addEnum (api : Api) (e : Enum) : Api :=
  { api with enums := api.enums ++ [e] }

variable {api api' : Api} {options : Options}

theorem typeIds_addMessage_perm (api : Api) (m : Message) :
    (api.addMessage m).typeIds.Perm (m.id :: api.typeIds) := by
  simp only [typeIds, addMessage, List.map_append, List.map_cons, List.map_nil, List.append_assoc,
    List.singleton_append]
  exact List.perm_middle

theorem typeIds_addEnum_perm (api : Api) (e : Enum) :
    (api.addEnum e).typeIds.Perm (e.id :: api.typeIds) := by
  simp only [typeIds, addEnum, List.map_append, List.map_cons, List.map_nil,
    ← List.append_assoc]
  exact List.perm_append_singleton _ _

/-- A map entry claims no name. -/
theorem not_mem_declaredTypes_of_isMapEntry (hids : api.typeIds.Nodup) {m : Message}
    (hm : m ∈ api.messages) (hentry : m.isMapEntry = true) :
    m.id ∉ api.declaredTypes.map (·.id) := by
  intro hmem
  obtain ⟨d, hd, hid⟩ := List.mem_map.1 hmem
  rw [declaredTypes, List.mem_append, List.mem_map, List.mem_map] at hd
  obtain ⟨hmessages, -, hapart⟩ := List.nodup_append.1 hids
  rcases hd with ⟨m', hm', rfl⟩ | ⟨e, he, rfl⟩
  · obtain rfl := List.inj_on_of_nodup_map hmessages (mem_messages_of_mem_structs hm') hm hid
    simp [structs, hentry] at hm'
  · exact hapart m.id (List.mem_map_of_mem hm) e.id (List.mem_map_of_mem he) hid.symm

section Growth

variable [Speller]

/-- A map entry is named alike in two APIs, by its own name. -/
theorem namesAlike_of_isMapEntry (hids : api.typeIds.Nodup) (hids' : api'.typeIds.Nodup)
    {m : Message} (hm : m ∈ api.messages) (hm' : m ∈ api'.messages) (hentry : m.isMapEntry = true) :
    (Lexicon.of api options).NamesAlike (Lexicon.of api' options) m.id m.name := by
  refine Lexicon.namesAlike_of_alias?_eq ?_
  rw [Lexicon.alias?_eq_none_of_not_mem (not_mem_declaredTypes_of_isMapEntry hids hm hentry),
    Lexicon.alias?_eq_none_of_not_mem (not_mem_declaredTypes_of_isMapEntry hids' hm' hentry)]

/-- Two APIs name the types alike that claim first in both, in the same order. -/
theorem namesAlike_of_prefix (hids : api.typeIds.Nodup) (hids' : api'.typeIds.Nodup)
    {decls : List DeclaredType} (hfirst : decls <+: api.declaredTypes)
    (hfirst' : decls <+: api'.declaredTypes) {d : DeclaredType} (hd : d ∈ decls) :
    (Lexicon.of api options).NamesAlike (Lexicon.of api' options) d.id d.name := by
  rw [← decls_claimNames options [] decls] at hd
  obtain ⟨n, hn, rfl⟩ := List.mem_map.1 hd
  have hclaims : ∀ {api : Api}, decls <+: api.declaredTypes → n ∈ api.namedTypes options := by
    rintro api ⟨more, hmore⟩
    rw [namedTypes, ← hmore, claimNames_append]
    exact List.mem_append_left _ hn
  exact Lexicon.namesAlike_of_mem (nodup_ids_declaredTypes hids) (nodup_ids_declaredTypes hids')
    (hclaims hfirst) (hclaims hfirst')

/-- Two APIs name the messages of the first one alike if the second one goes on where its messages
end. -/
theorem namesAlike_of_messages_prefix (hids : api.typeIds.Nodup) (hids' : api'.typeIds.Nodup)
    (hfirst : api.messages <+: api'.messages) {m : Message} (hm : m ∈ api.messages) :
    (Lexicon.of api options).NamesAlike (Lexicon.of api' options) m.id m.name := by
  cases hentry : m.isMapEntry with
  | true => exact namesAlike_of_isMapEntry hids hids' hm (hfirst.subset hm) hentry
  | false =>
      have hstructs : api.structs <+: api'.structs := hfirst.filter _
      have hclaims : api.structs.map DeclaredType.ofMessage <+: api.declaredTypes :=
        List.prefix_append _ _
      have hclaims' : api.structs.map DeclaredType.ofMessage <+: api'.declaredTypes :=
        (hstructs.map _).trans (List.prefix_append _ _)
      have hd : DeclaredType.ofMessage m ∈ api.structs.map DeclaredType.ofMessage :=
        List.mem_map_of_mem (by simp [structs, hm, hentry])
      exact namesAlike_of_prefix hids hids' hclaims hclaims' hd

/-- **One more type renames no type that claims before it.** With distinct IDs, a message that is
declared last leaves the target name and the alias of every other message as they are, and an enum
that is declared last leaves those of every message and every other enum, whatever their names,
packages and parents are, and whatever the options say. -/
theorem names_kept_under_growth (options : Options) (hids : api.typeIds.Nodup) :
    (∀ new : Message, new.id ∉ api.typeIds → ∀ m ∈ api.messages,
      (Lexicon.of api options).NamesAlike (Lexicon.of (api.addMessage new) options) m.id m.name) ∧
    (∀ new : Enum, new.id ∉ api.typeIds →
      (∀ m ∈ api.messages,
        (Lexicon.of api options).NamesAlike (Lexicon.of (api.addEnum new) options) m.id m.name) ∧
      (∀ e ∈ api.enums,
        (Lexicon.of api options).NamesAlike (Lexicon.of (api.addEnum new) options)
          e.id e.name)) := by
  refine ⟨fun new hnew m hm => ?_, fun new hnew => ?_⟩
  · have hids' : (api.addMessage new).typeIds.Nodup :=
      (api.typeIds_addMessage_perm new).nodup_iff.2 (List.nodup_cons.2 ⟨hnew, hids⟩)
    exact namesAlike_of_messages_prefix hids hids' (List.prefix_append _ _) hm
  · have hids' : (api.addEnum new).typeIds.Nodup :=
      (api.typeIds_addEnum_perm new).nodup_iff.2 (List.nodup_cons.2 ⟨hnew, hids⟩)
    refine ⟨fun m hm => namesAlike_of_messages_prefix hids hids' List.prefix_rfl hm, ?_⟩
    intro e he
    have hdecls : (api.addEnum new).declaredTypes = api.declaredTypes ++ [.ofEnum new] := by
      simp [declaredTypes, addEnum, structs]
    have hfirst : api.declaredTypes <+: (api.addEnum new).declaredTypes :=
      hdecls ▸ List.prefix_append _ _
    have hd : DeclaredType.ofEnum e ∈ api.declaredTypes :=
      List.mem_append_right _ (List.mem_map_of_mem he)
    exact namesAlike_of_prefix hids hids' List.prefix_rfl hfirst hd

end Growth

/-- The second `Book` is `Book2`, and so it stays when a message is added that is declared as
`Book2`. -/
theorem second_book_kept_under_growth :
    let book : Message := { id := ".p.Book", name := "Book", package := "p" }
    let again : Message := { id := ".p.book", name := "book", package := "p" }
    let new : Message := { id := ".p.Book2", name := "Book2", package := "p" }
    let api : Api := { packageName := "p", messages := [book, again] }
    let lx := Lexicon.of (api.addMessage new) {}
    api.typeIds.Nodup ∧ new.id ∉ api.typeIds ∧ again ∈ api.messages ∧
      lx.targetName again.id again.name = "Book2" ∧ lx.alias? again.id = some "Book2" ∧
      lx.targetName new.id new.name = "Book22" := by
  intro book again new api lx
  have hids : api.typeIds.Nodup := by simp [api, typeIds, book, again]
  have hnew : new.id ∉ api.typeIds := by simp [api, typeIds, book, again, new]
  have hagain : again ∈ api.messages := by simp [api]
  obtain ⟨htarget, halias⟩ := (names_kept_under_growth {} hids).1 new hnew again hagain
  refine ⟨hids, hnew, hagain, ?_, ?_, by decide⟩
  · rw [htarget]
    decide
  · rw [halias]
    decide

end Api

end ApiAnnotator
