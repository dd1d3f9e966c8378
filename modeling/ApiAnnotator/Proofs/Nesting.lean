import ApiAnnotator.Proofs.Completion
import ApiAnnotator.Proofs.Enclosing
import ApiAnnotator.Proofs.Pass
import ApiAnnotator.Proofs.Paths
import ApiAnnotator.Text.Spellings

/-!
# What is nested in a message is in its module

The module of a nested type is not taken from the annotation of its parent: the way outwards is
walked again for each type. But the way from a nested type is the way from its parent with the
parent before it, so the two annotations agree, whatever is wrong further out. A message that is
nested in itself is the exception, since the walk ends where it would meet the message again.

Oneofs become enums in the module of their message. Their table is keyed by ID and an ID may be used
twice, so it is the last message with a oneof of that ID that the entry belongs to.

## Main definitions

* `AnnotatedMessage.Nests` — the names of a type that is in the module of a message.
* `Api.IsLastWithOneOf` — the message that the entry of a oneof belongs to.

## Main statements

* `Lexicon.modulesAround_of_parent` — the modules around a nested type.
* `Lexicon.modulePath_of_parent`, `Lexicon.nests_of_parent` — the names of a nested type in terms of
  those of its parent.
* `nested_in_module_of_parent` — **what is nested in a message is in its module**.
-/

namespace ApiAnnotator

/-- The names are those of a type in the module of the message, and the message is known to have
nested types. -/
structure AnnotatedMessage.Nests (outer : AnnotatedMessage)
    (name path qualified : String) : Prop where
  modulePath : path = inModule outer.modulePath outer.moduleName
  qualifiedName : qualified = inModule path name
  hasNestedTypes : outer.hasNestedTypes = true

namespace Api

/-- No own message after the given one has a oneof with the given ID. -/
def IsLastWithOneOf (api : Api) (p : Message) (id : String) : Prop :=
  ∃ before after, api.ownMessages = before ++ p :: after ∧
    ∀ q ∈ after, ∀ o ∈ q.oneofs, o.id ≠ id

variable {api : Api} {p : Message}

theorem hasNestedTypes_iff {id : String} :
    api.hasNestedTypes id = true ↔
      (∃ m ∈ api.structs, m.parent = some id) ∨ ∃ e ∈ api.enums, e.parent = some id := by
  simp [hasNestedTypes]

/-- The last oneof with an ID is one of the last message that has any. -/
theorem lastWith?_ownOneOfs {o : OneOf} (ho : o ∈ p.oneofs) (hlast : api.IsLastWithOneOf p o.id) :
    ∃ o' ∈ p.oneofs, lastWith? (·.2.id) o.id api.ownOneOfs = some (p, o') := by
  obtain ⟨before, after, hsplit, hafter⟩ := hlast
  have hlater : lastWith? (·.2.id) o.id
      (after.flatMap fun m => m.oneofs.map fun o => (m, o)) = none := by
    rw [lastWith?_eq_none_iff, List.mem_map]
    rintro ⟨item, hitem, hid⟩
    obtain ⟨q, hq, hitem⟩ := List.mem_flatMap.1 hitem
    obtain ⟨o', ho', rfl⟩ := List.mem_map.1 hitem
    exact hafter q hq o' ho' hid
  have hown : (lastWith? (·.2.id) o.id (p.oneofs.map fun o => (p, o))).isSome = true := by
    rw [isSome_lastWith?_iff, List.map_map]
    exact List.mem_map_of_mem ho
  obtain ⟨item, hitem⟩ := Option.isSome_iff_exists.1 hown
  obtain ⟨o', ho', rfl⟩ := List.mem_map.1 (of_lastWith?_eq_some hitem).1
  refine ⟨o', ho', ?_⟩
  rw [ownOneOfs, hsplit, List.flatMap_append, List.flatMap_cons, lastWith?_append,
    lastWith?_append, hlater, hitem]
  rfl

end Api

namespace Lexicon

variable [Speller] {lx : Lexicon} {p : Message} {d : DeclaredType} {names outer : QualifiedName}

/-- The modules around a nested type are those around its parent and the module of the parent. -/
theorem modulesAround_of_parent (hp : lx.api.message? p.id = some p)
    (hcycle : ¬ Relation.TransGen lx.api.EnclosedBy p.id p.id) :
    lx.modulesAround (some p.id) = lx.modulesAround p.parent ++ [lx.moduleName p] := by
  rw [modulesAround, Api.enclosing_eq_append hp hcycle, List.map_append]
  rfl

/-- The module of a type is the one of its parent if both are in the API's own package. -/
theorem modulePath_of_parent (hp : lx.api.message? p.id = some p)
    (hcycle : ¬ Relation.TransGen lx.api.EnclosedBy p.id p.id) (hparent : d.parent = some p.id)
    (hown : lx.api.isOwn d.package = true) (hpown : lx.api.isOwn p.package = true)
    (hnames : lx.qualify d = .ok names) (houter : lx.ofMessage p = .ok outer) :
    names.modulePath = inModule outer.modulePath (lx.moduleName p) :=
  calc names.modulePath
    _ = pathOf lx.options.modulePath (lx.modulesAround d.parent) := modulePath_eq_pathOf hown hnames
    _ = pathOf lx.options.modulePath (lx.modulesAround p.parent ++ [lx.moduleName p]) := by
        rw [hparent, modulesAround_of_parent hp hcycle]
    _ = inModule (pathOf lx.options.modulePath (lx.modulesAround p.parent)) (lx.moduleName p) :=
        pathOf_append_singleton _ _ _
    _ = inModule outer.modulePath (lx.moduleName p) :=
        congrArg (inModule · _) (modulePath_eq_pathOf hpown houter).symm

/-- The names of a type are in the module of its parent, whatever the gates of the parent are. -/
theorem nests_of_parent (gates : FeatureGates) (hp : lx.api.message? p.id = some p)
    (hcycle : ¬ Relation.TransGen lx.api.EnclosedBy p.id p.id) (hparent : d.parent = some p.id)
    (hown : lx.api.isOwn d.package = true) (hpown : lx.api.isOwn p.package = true)
    (hnames : lx.qualify d = .ok names) (houter : lx.ofMessage p = .ok outer)
    (hnested : lx.api.hasNestedTypes p.id = true) :
    { lx.messageEntry p outer with featureGates := gates }.Nests names.name names.modulePath
      names.qualified := by
  obtain ⟨-, -, -, -, hqualified⟩ := of_qualify_eq_ok hnames
  refine ⟨?_, hqualified, ?_⟩
  · rw [modulePath_messageEntry, moduleName_messageEntry]
    exact modulePath_of_parent hp hcycle hparent hown hpown hnames houter
  · rw [hasNestedTypes_messageEntry _ hpown, hnested]

end Lexicon

section Pass

variable [Speller] {api : Api} {options : Options} {result : Annotated}

/-- The entry of a oneof belongs to the last message that has a oneof with that ID. -/
theorem exists_oneof_of_annotate (h : annotate api options = .ok result) {p : Message}
    {o : OneOf} (ho : o ∈ p.oneofs) (hlast : api.IsLastWithOneOf p o.id) :
    ∃ names, (Lexicon.of api options).ofMessage p = .ok names ∧ ∃ o' ∈ p.oneofs,
      result.model.oneofs[o.id]? = some ((Lexicon.of api options).annotateOneOf p names o') := by
  obtain ⟨d, hd, hmodel⟩ := draftsFrom_of_annotate h
  obtain ⟨o', ho', hfound⟩ := Api.lastWith?_ownOneOfs ho hlast
  have hrel := hd.rel_oneofs o.id
  rw [Lexicon.api_of, hfound] at hrel
  obtain ⟨entry, hentry, names, hnames, rfl⟩ := of_rel_some_left hrel
  rw [hmodel]
  exact ⟨names, hnames, o', ho', hentry⟩

/-- **What is nested in a message is in its module.** The own types with an own message as their
parent are in the module of that message, and the message is known to have nested types, unless the
message is nested in itself. And the entry of a oneof is in the module of the last own message with
a oneof of that ID. -/
theorem nested_in_module_of_parent (h : annotate api options = .ok result)
    (hids : api.typeIds.Nodup) {p : Message} (hp : p ∈ api.ownMessages) :
    ∃ outer, result.model.messages[p.id]? = some outer ∧
      (¬ Relation.TransGen api.EnclosedBy p.id p.id →
        (∀ m ∈ api.ownMessages, m.parent = some p.id →
          ∃ inner, result.model.messages[m.id]? = some inner ∧
            outer.Nests inner.name inner.modulePath inner.qualifiedName) ∧
        ∀ e ∈ api.ownEnums, e.parent = some p.id →
          ∃ inner, result.model.enums[e.id]? = some inner ∧
            outer.Nests inner.name inner.modulePath inner.qualifiedName) ∧
      ∀ o ∈ p.oneofs, api.IsLastWithOneOf p o.id →
        ∃ entry, result.model.oneofs[o.id]? = some entry ∧
          entry.qualifiedName =
            inModule (inModule outer.modulePath outer.moduleName) entry.enumName := by
  obtain ⟨hstruct, hpown⟩ := List.mem_filter.1 hp
  obtain ⟨outer, houter, hentry⟩ := getElem?_messages_of_annotate h hids hstruct
  have hfound := Api.message?_of_mem hids (Api.mem_messages_of_mem_structs hstruct)
  refine ⟨_, hentry, fun hcycle => ⟨?_, ?_⟩, ?_⟩
  · intro m hm hparent
    obtain ⟨hm, hown⟩ := List.mem_filter.1 hm
    obtain ⟨names, hnames, hinner⟩ := getElem?_messages_of_annotate h hids hm
    have hnested : api.hasNestedTypes p.id = true :=
      Api.hasNestedTypes_iff.2 (.inl ⟨m, hm, hparent⟩)
    have hnests := Lexicon.nests_of_parent (api.typeGates options (api.isOwn p.package) p.id)
      hfound hcycle hparent hown hpown hnames houter hnested
    exact ⟨_, hinner, by simpa using hnests⟩
  · intro e he hparent
    obtain ⟨he, hown⟩ := List.mem_filter.1 he
    obtain ⟨names, hnames, hinner⟩ := getElem?_enums_of_annotate h hids he
    have hnested : api.hasNestedTypes p.id = true :=
      Api.hasNestedTypes_iff.2 (.inr ⟨e, he, hparent⟩)
    have hnests := Lexicon.nests_of_parent (api.typeGates options (api.isOwn p.package) p.id)
      hfound hcycle hparent hown hpown hnames houter hnested
    exact ⟨_, hinner, by simpa using hnests⟩
  · intro o ho hlast
    obtain ⟨names, hnames, o', -, honeof⟩ := exists_oneof_of_annotate h ho hlast
    obtain rfl : outer = names := Except.ok.inj (houter.symm.trans hnames)
    exact ⟨_, honeof, by simp [Lexicon.annotateOneOf, Lexicon.ofOneOf]⟩

end Pass

/-- The parent of a message is nested in itself, and still the module of the message holds what is
nested in it. -/
theorem nested_below_circle :
    let circle : Message :=
      { id := ".p.C", name := "C", package := "p", parent := some ".p.C" }
    let kind : OneOf := { id := ".p.C.P.kind", name := "kind" }
    let p : Message :=
      { id := ".p.C.P", name := "P", package := "p", parent := some ".p.C", oneofs := [kind] }
    let m : Message :=
      { id := ".p.C.P.M", name := "M", package := "p", parent := some ".p.C.P" }
    let e : Enum := { id := ".p.C.P.E", name := "E", package := "p", parent := some ".p.C.P" }
    let api : Api := { packageName := "p", messages := [circle, p, m], enums := [e] }
    ∃ result, annotate api {} = .ok result ∧ ∃ outer, result.model.messages[p.id]? = some outer ∧
      (∃ inner, result.model.messages[m.id]? = some inner ∧
        outer.Nests inner.name inner.modulePath inner.qualifiedName) ∧
      (∃ inner, result.model.enums[e.id]? = some inner ∧
        outer.Nests inner.name inner.modulePath inner.qualifiedName) ∧
      ∃ entry, result.model.oneofs[kind.id]? = some entry ∧
        entry.qualifiedName =
          inModule (inModule outer.modulePath outer.moduleName) entry.enumName := by
  intro circle kind p m e api
  obtain ⟨result, h⟩ : ∃ result, annotate api {} = .ok result := by
    apply exists_annotate_eq_ok <;> simp [api, circle, p, m, e, Api.HasModule, Api.isOwn]
  have hids : api.typeIds.Nodup := by simp [api, Api.typeIds, circle, p, m, e]
  have hmessages : api.ownMessages = [circle, p] ++ [m] := rfl
  have hparent : ∀ {id}, api.EnclosedBy id p.id → id = m.id := by
    rintro id ⟨n, hn, rfl, hparent⟩
    simp only [api, List.mem_cons, List.not_mem_nil, or_false] at hn
    rcases hn with rfl | rfl | rfl
    · simp [circle, p] at hparent
    · simp [p] at hparent
    · rfl
  have hinnermost : ∀ {id}, ¬ api.EnclosedBy id m.id := by
    rintro id ⟨n, hn, -, hparent⟩
    simp only [api, List.mem_cons, List.not_mem_nil, or_false] at hn
    rcases hn with rfl | rfl | rfl <;> simp [circle, p, m] at hparent
  have hcycle : ¬ Relation.TransGen api.EnclosedBy p.id p.id := by
    intro hcycle
    obtain ⟨id, hway, hlast⟩ := Relation.TransGen.tail'_iff.1 hcycle
    rw [hparent hlast] at hway
    rcases Relation.ReflTransGen.cases_tail hway with heq | ⟨id', -, hstep⟩
    · simp [p, m] at heq
    · exact hinnermost hstep
  obtain ⟨outer, houter, hnested, honeofs⟩ :=
    nested_in_module_of_parent h hids (p := p) (by simp [hmessages])
  obtain ⟨hinner, henums⟩ := hnested hcycle
  refine ⟨result, h, outer, houter, ?_, ?_, ?_⟩
  · exact hinner m (by simp [hmessages]) rfl
  · exact henums e (by simp [Api.ownEnums, api, e, Api.isOwn]) rfl
  · exact honeofs kind (by simp [p]) ⟨[circle], [m], rfl, by simp [m]⟩

/-- Two messages have a oneof with the same ID, and its entry is not in the module of the first. -/
theorem oneof_of_later_message :
    let kind : OneOf := { id := ".p.kind", name := "kind" }
    let a : Message := { id := ".p.A", name := "A", package := "p", oneofs := [kind] }
    let b : Message := { id := ".p.B", name := "B", package := "p", oneofs := [kind] }
    let api : Api := { packageName := "p", messages := [a, b] }
    api.typeIds.Nodup ∧ a ∈ api.ownMessages ∧ kind ∈ a.oneofs ∧
      ∃ result, annotate api {} = .ok result ∧
        ∃ outer, result.model.messages[a.id]? = some outer ∧
          ∃ entry, result.model.oneofs[kind.id]? = some entry ∧
            entry.qualifiedName ≠
              inModule (inModule outer.modulePath outer.moduleName) entry.enumName := by
  intro kind a b api
  have hids : api.typeIds.Nodup := by simp [api, Api.typeIds, a, b]
  have hstructs : api.structs = [a, b] := rfl
  have hmessages : api.ownMessages = [a, b] := rfl
  obtain ⟨result, h⟩ : ∃ result, annotate api {} = .ok result := by
    apply exists_annotate_eq_ok <;> simp [api, a, b, Api.HasModule, Api.isOwn]
  have htop : ∀ {m : Message} {names}, m.package = "p" → m.parent = none →
      (Lexicon.of api {}).ofMessage m = .ok names → names.modulePath = "crate::model" := by
    intro m names hpackage hparent hnames
    have hown : api.isOwn m.package = true := by simp [Api.isOwn, hpackage, api]
    have hpath := Lexicon.modulePath_eq_pathOf hown hnames
    simpa [DeclaredType.ofMessage, Lexicon.modulesAround, hparent, Api.enclosing, Api.outwards]
      using hpath
  have hmodule : (Lexicon.of api {}).moduleName a = "a" := by decide
  have hmodule' : (Lexicon.of api {}).moduleName b = "b" := by decide
  obtain ⟨outer, houter, hentry⟩ :=
    getElem?_messages_of_annotate h hids (m := a) (by simp [hstructs])
  obtain ⟨names, hnames, o, ho, honeof⟩ := exists_oneof_of_annotate h (p := b) (o := kind)
    (by simp [b]) ⟨[a], [], rfl, by simp⟩
  obtain rfl : o = kind := by simpa [b] using ho
  have henum : Identifier.typeName kind.name = "Kind" := by decide
  refine ⟨hids, by simp [hmessages], by simp [a], result, h, _, hentry, _, honeof, ?_⟩
  simp only [Lexicon.annotateOneOf, Lexicon.ofOneOf, Lexicon.modulePath_messageEntry,
    Lexicon.moduleName_messageEntry, hmodule, hmodule', htop rfl rfl houter, htop rfl rfl hnames,
    henum]
  decide

end ApiAnnotator
