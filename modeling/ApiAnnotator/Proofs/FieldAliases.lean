import ApiAnnotator.Naming.Lexicon
import ApiAnnotator.Proofs.MergedVariants
import ApiAnnotator.Text.Spellings

/-!
# Field aliases

A field that holds a type with the name of the message around it needs another name for this type.
The alias is the type name of the field, or that name followed by `Field` if it would be the name of
the message again. It is made from the names of the field and the message alone, and the type that
the field holds only decides whether there is an alias.

So an alias is never the name of the message. Two aliases in a message are different unless the
fields have the same type name, or one of them has the name of the message and the other this name
followed by `Field`. That their types are different does not keep two aliases apart.

## Main definitions

* `Lexicon.NeedsAlias` — a field holds another type with the name of the message around it.
* `aliasOf` — the alias of a field in a message.

## Main statements

* `Lexicon.fieldAlias?_eq_some_iff` — which fields have an alias, and which one.
* `aliasOf_eq_iff` — which field names make the same alias.
* `Lexicon.fieldAliases_agree_iff` — **when the aliases of two fields are the same**, whatever types
  they stand for.
-/

namespace ApiAnnotator

open Identifier

/-! ## The alias of a field -/

/-- The alias of a field in a message of the given name. -/
def aliasOf [Speller] (containerName fieldName : String) : String :=
  if typeName fieldName = containerName then typeName fieldName ++ "Field" else typeName fieldName

variable {containerName name other : String}

theorem append_field_ne (name : String) : name ++ "Field" ≠ name := by
  intro h
  simpa using congrArg (·.toList.length) h

/-- An alias is not the name of the message. -/
theorem aliasOf_ne [Speller] (containerName name : String) :
    aliasOf containerName name ≠ containerName := by
  unfold aliasOf
  split
  · rename_i heq
    rw [heq]
    exact append_field_ne containerName
  · assumption

/-- Which field names make the same alias: those with the same type name, and those of which one has
the name of the message as its type name and the other this name followed by `Field`. -/
theorem aliasOf_eq_iff [Speller] : aliasOf containerName name = aliasOf containerName other ↔
    typeName name = typeName other ∨
      (typeName name = containerName ∧ typeName other = containerName ++ "Field") ∨
      (typeName other = containerName ∧ typeName name = containerName ++ "Field") := by
  unfold aliasOf
  by_cases hname : typeName name = containerName <;>
    by_cases hother : typeName other = containerName
  · simp [hname, hother]
  · simp [hname, hother, Ne.symm hother, eq_comm]
  · simp [hname, hother]
  · simp [hname, hother]

/-- The same alias of plain names comes from the same letters and digits, unless those of one are
those of the other followed by `field`. -/
theorem letters_of_aliasOf_eq [Speller] (hname : IsPlain name.toList)
    (hother : IsPlain other.toList) (h : aliasOf containerName name = aliasOf containerName other) :
    letters name.toList = letters other.toList ∨
      letters other.toList = letters name.toList ++ "field".toList ∨
      letters name.toList = letters other.toList ++ "field".toList := by
  rw [hname.letters_eq, hother.letters_eq]
  rcases aliasOf_eq_iff.1 h with heq | ⟨rfl, hsuffix⟩ | ⟨rfl, hsuffix⟩
  · exact .inl (by rw [heq])
  · exact .inr (.inl (by rw [hsuffix, String.toList_append, List.map_append]; rfl))
  · exact .inr (.inr (by rw [hsuffix, String.toList_append, List.map_append]; rfl))

/-! ## The aliases of a lexicon -/

namespace Lexicon

variable {lx : Lexicon} {container : Message} {f g : Field} {a b : String}

/-- A field of a message holds a type that is not the message but has its name. -/
def NeedsAlias [Speller] (lx : Lexicon) (container : Message) (containerName : String)
    (f : Field) : Prop :=
  ∃ target name, lx.heldType? f = some target ∧ target ≠ container.id ∧
    lx.api.declaredName? target = some name ∧ lx.targetName target name = containerName

/-- The type that a field holds decides whether there is an alias, and nothing else. -/
theorem fieldAlias?_eq_some_iff [Speller] : lx.fieldAlias? container containerName f = some a ↔
    lx.NeedsAlias container containerName f ∧ aliasOf containerName f.name = a := by
  unfold fieldAlias? NeedsAlias
  cases lx.heldType? f with
  | none => simp
  | some target =>
      by_cases hself : target = container.id
      · simp [hself]
      · cases hname : lx.api.declaredName? target with
        | none => simp [hself, hname]
        | some name =>
            by_cases hsame : lx.targetName target name = containerName
            · have haliasOf : (if typeName f.name = containerName
                  then some (typeName f.name ++ "Field") else some (typeName f.name)) =
                  some (aliasOf containerName f.name) := (apply_ite some _ _ _).symm
              simp [hself, hname, hsame, haliasOf]
            · simp [hself, hname, hsame]

/-- **When the aliases of two fields are the same.** An alias is never the name of the message.
Whatever types they stand for, two aliases of a message are the same exactly if the type names of
the fields are, or one of them is the name of the message and the other is this name followed by
`Field`. For plain field names this takes the same letters and digits, or a name that goes on with
those of `field`. -/
theorem fieldAliases_agree_iff [Speller] (ha : lx.fieldAlias? container containerName f = some a)
    (hb : lx.fieldAlias? container containerName g = some b) :
    a ≠ containerName ∧ b ≠ containerName ∧
    (a = b ↔ typeName f.name = typeName g.name ∨
      (typeName f.name = containerName ∧ typeName g.name = containerName ++ "Field") ∨
      (typeName g.name = containerName ∧ typeName f.name = containerName ++ "Field")) ∧
    (IsPlain f.name.toList → IsPlain g.name.toList → a = b →
      letters f.name.toList = letters g.name.toList ∨
      letters g.name.toList = letters f.name.toList ++ "field".toList ∨
      letters f.name.toList = letters g.name.toList ++ "field".toList) := by
  obtain ⟨-, rfl⟩ := fieldAlias?_eq_some_iff.1 ha
  obtain ⟨-, rfl⟩ := fieldAlias?_eq_some_iff.1 hb
  exact ⟨aliasOf_ne _ _, aliasOf_ne _ _, aliasOf_eq_iff, letters_of_aliasOf_eq⟩

/-- In a message `Widget` the aliases of `other` and `widget` are different, and none of them is the
name of the message. -/
theorem fieldAliases_of_widget :
    let other : Field := { name := "other", kind := .message, typeId := some ".other.Widget" }
    let widget : Field := { name := "widget", kind := .message, typeId := some ".other.Widget" }
    let container : Message :=
      { id := ".p.Widget", name := "Widget", package := "p", fields := [other, widget] }
    let foreign : Message := { id := ".other.Widget", name := "Widget", package := "other" }
    let lx := Lexicon.of { packageName := "p", messages := [container, foreign] } {}
    ∃ a b, lx.fieldAlias? container "Widget" other = some a ∧
      lx.fieldAlias? container "Widget" widget = some b ∧ a ≠ "Widget" ∧ b ≠ "Widget" ∧ a ≠ b := by
  intro other widget container foreign lx
  have ha : lx.fieldAlias? container "Widget" other = some "Other" := by decide
  have hb : lx.fieldAlias? container "Widget" widget = some "WidgetField" := by decide
  obtain ⟨hother, hwidget, hiff, -⟩ := fieldAliases_agree_iff ha hb
  exact ⟨_, _, ha, hb, hother, hwidget, hiff.not.2 (by decide)⟩

/-- In a message `Secret` the aliases of `secret` and `secret_field` stand for different types and
are the same. -/
theorem fieldAliases_agree_of_suffix :
    let secret : Field := { id := ".p.Secret.secret", name := "secret", kind := .message
                            typeId := some ".p.A.Secret" }
    let suffixed : Field := { id := ".p.Secret.secret_field", name := "secret_field"
                              kind := .message, typeId := some ".p.B.Secret" }
    let container : Message :=
      { id := ".p.Secret", name := "Secret", package := "p", fields := [secret, suffixed] }
    let api : Api :=
      { packageName := "p"
        messages := [container, { id := ".p.A", name := "A", package := "p" },
          { id := ".p.A.Secret", name := "Secret", package := "p", parent := some ".p.A" },
          { id := ".p.B", name := "B", package := "p" },
          { id := ".p.B.Secret", name := "Secret", package := "p", parent := some ".p.B" }] }
    let lx := Lexicon.of api {}
    let containerName := lx.targetName container.id container.name
    api.typeIds.Nodup ∧ (container.fields.map (·.id)).Nodup ∧ api.isOwn container.package = true ∧
      secret.name ≠ suffixed.name ∧ lx.heldType? secret = some ".p.A.Secret" ∧
      lx.heldType? suffixed = some ".p.B.Secret" ∧
      lx.fieldAlias? container containerName secret = some "SecretField" ∧
      lx.fieldAlias? container containerName suffixed = some "SecretField" := by
  intro secret suffixed container api lx containerName
  have hids : api.typeIds.Nodup ∧ (container.fields.map (·.id)).Nodup := by decide
  have hheld : lx.heldType? secret = some ".p.A.Secret" ∧
      lx.heldType? suffixed = some ".p.B.Secret" := by decide
  exact ⟨hids.1, hids.2, by decide, by decide, hheld.1, hheld.2, by decide, by decide⟩

end Lexicon

end ApiAnnotator
