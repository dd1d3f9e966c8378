import ApiAnnotator.Adapter
import ApiAnnotator.Proofs.Usage

/-!
# No message contains itself by value

A single message is kept behind a pointer if it is a oneof member or if it can contain the message
it is a field of. Each field is judged on its own, but together the pointers cut every cycle: if
messages held each other by value in a circle, each of them could be reached from the type of its
own field, so that very field would have been given a pointer.

## Main definitions

* `Api.HoldsByValue` — a message holds another one in itself, without a pointer.

## Main statements

* `Api.needsBox_iff` — when a field is kept behind a pointer.
* `Api.not_transGen_holdsByValue` — no message holds itself by value, however many messages are in
  between.
-/

namespace ApiAnnotator.Api

/-- A message with the first ID has a field that holds a single message of the second one, and not
behind a pointer. -/
def HoldsByValue (api : Api) (id target : String) : Prop :=
  ∃ m ∈ api.messages, m.id = id ∧
    ∃ f ∈ m.fields, f.isSingularMessage = true ∧ f.typeId = some target ∧
      api.needsBox m.id f = false

variable {api : Api} {id target : String}

/-- A field is kept behind a pointer if it holds a single message and either belongs to a oneof or
leads back to its own message. -/
theorem needsBox_iff {m : Message} (hm : m ∈ api.messages) (f : Field) :
    api.needsBox m.id f = true ↔
      f.isSingularMessage = true ∧ (f.oneof.isSome = true ∨
        ∃ target, f.typeId = some target ∧ Relation.ReflTransGen api.FieldUse target m.id) := by
  simp [needsBox, Option.any_eq_true, isRecursive_iff hm]

/-- What is held by value is held by a field. -/
theorem HoldsByValue.fieldUse (h : api.HoldsByValue id target) : api.FieldUse id target := by
  obtain ⟨m, hm, rfl, f, hf, -, htype, -⟩ := h
  exact ⟨m, hm, rfl, f, hf, htype⟩

/-- A message that is held by value has no way back to its holder. -/
theorem HoldsByValue.not_reflTransGen (h : api.HoldsByValue id target) :
    ¬ Relation.ReflTransGen api.FieldUse target id := by
  obtain ⟨m, hm, rfl, f, hf, hsingle, htype, hbox⟩ := h
  intro hback
  have hboxed := (needsBox_iff hm f).2 ⟨hsingle, .inr ⟨target, htype, hback⟩⟩
  simp [hbox] at hboxed

/-- No message holds itself by value, neither directly nor through other messages. -/
theorem not_transGen_holdsByValue (id : String) : ¬ Relation.TransGen api.HoldsByValue id id := by
  intro hcycle
  obtain ⟨target, hholds, hrest⟩ := Relation.TransGen.head'_iff.1 hcycle
  have hback : Relation.ReflTransGen api.FieldUse target id :=
    Relation.ReflTransGen.mono (fun _ _ h => HoldsByValue.fieldUse h) _ _ hrest
  exact hholds.not_reflTransGen hback

/-- **Pointers stand where they are needed, and they cut every cycle.** A single message outside of
a oneof is kept behind a pointer exactly if a chain of fields leads back from it, a single message
in a oneof always is, and nothing else is. So what messages hold by value never goes in a circle. -/
theorem boxed_exactly_and_no_cycle_by_value (api : Api) :
    (∀ m ∈ api.messages, ∀ f ∈ m.fields,
      (f.isSingularMessage = true → f.oneof = none →
        (api.needsBox m.id f = true ↔
          ∃ target, f.typeId = some target ∧ Relation.ReflTransGen api.FieldUse target m.id)) ∧
      (f.isSingularMessage = true → f.oneof.isSome = true → api.needsBox m.id f = true) ∧
      (f.isSingularMessage = false → api.needsBox m.id f = false)) ∧
    ∀ id, ¬ Relation.TransGen api.HoldsByValue id id := by
  refine ⟨fun m hm f _ => ⟨?_, ?_, ?_⟩, not_transGen_holdsByValue⟩
  · intro hsingle hfree
    simp [needsBox_iff hm, hsingle, hfree]
  · intro hsingle hmember
    exact (needsBox_iff hm f).2 ⟨hsingle, .inl hmember⟩
  · intro hother
    simp [needsBox, hother]

/-- Two messages that use each other, one of them through a list: the single field gets a pointer,
as its message is reached again through the list, and the list needs none. -/
theorem boxed_through_list :
    let toB : Field := { kind := .message, typeId := some "B" }
    let toAs : Field := { kind := .message, typeId := some "A", repeated := true }
    let a : Message := { id := "A", fields := [toB] }
    let b : Message := { id := "B", fields := [toAs] }
    let api : Api := { messages := [a, b] }
    api.needsBox a.id toB = true ∧ api.needsBox b.id toAs = false := by
  intro toB toAs a b api
  obtain ⟨hfields, -⟩ := boxed_exactly_and_no_cycle_by_value api
  have ha : a ∈ api.messages := by simp [api]
  have hb : b ∈ api.messages := by simp [api]
  have hback : api.FieldUse "B" a.id := ⟨b, hb, rfl, toAs, by simp [b], rfl⟩
  refine ⟨?_, ?_⟩
  · exact ((hfields a ha toB (by simp [a])).1 rfl rfl).2 ⟨"B", rfl, .single hback⟩
  · exact (hfields b hb toAs (by simp [b])).2.2 rfl

end ApiAnnotator.Api
