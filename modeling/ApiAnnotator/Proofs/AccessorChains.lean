import ApiAnnotator.Proofs.Hops
import ApiAnnotator.Text.Spellings

/-!
# Accessors along joined field paths

A field path can be cut anywhere between two of its names. What is before the cut leads to a field,
and what is after it starts in the message that this field holds, so the accessor of the whole path
is the accessor of the first part, followed by what the accessor of the second part adds to the
request. The field at the cut is the last one of the first part and is reached by a last hop, while
on the whole path it is passed. That makes no difference, because a field that can be passed holds a
message and not a text.

Problems are found in the order of the path: what is wrong with the first part is wrong with the
whole path, then comes the message at the cut, and then what is wrong with the second part.

## Main definitions

* `Api.fieldAt?` — the field at the end of a field path.

## Main statements

* `Api.hops_append_of_error`, `Api.hops_append_of_ok` — the steps along a joined path.
* `Api.accessor_append` — **accessors along joined field paths are composed**.
-/

namespace ApiAnnotator.Api

/-- The field at the end of a field path that starts in a message. The path goes on in the messages
that its fields hold. -/
def fieldAt? (api : Api) (m : Message) : List String → Option Field
  | [] => none
  | [name] => m.field? name
  | name :: rest => do
    let f ← m.field? name
    let next ← if f.isSingularMessage then api.message? f.typeRef else none
    api.fieldAt? next rest

variable {api : Api} {m root : Message} {name text : String} {p q : List String} {f : Field}
  {e : AccessorError}

/-! ## One name -/

theorem fieldOf_eq_ok_iff : fieldOf m name = .ok f ↔ m.field? name = some f := by
  unfold fieldOf
  cases m.field? name <;> simp

theorem messageOf_eq_ok_iff {next : Message} :
    api.messageOf name f = .ok next ↔
      f.isSingularMessage = true ∧ api.message? f.typeRef = some next := by
  unfold messageOf
  by_cases hsingle : f.isSingularMessage = true
  · cases api.message? f.typeRef <;> simp [hsingle]
  · simp [hsingle]

section Chains

variable [Speller]

/-- A field that holds a single message is passed like any last field. -/
theorem lastHop_of_isSingularMessage (h : f.isSingularMessage = true) : lastHop f = hop f := by
  rw [lastHop, Field.isSingularString_of_isSingularMessage h, if_neg Bool.false_ne_true]

/-! ## The steps along a joined path -/

/-- Once its first field is found, a longer path goes on in the message that this field holds. -/
theorem hops_cons_of_fieldOf (hq : q ≠ []) (hfield : fieldOf m name = .ok f) :
    api.hops m (name :: q) = (do
      let next ← api.messageOf name f
      return hop f ++ (← api.hops next q)) := by
  rw [hops_cons api m name hq, hfield]
  rfl

/-- What is wrong with the first part of a path is wrong with the whole path. -/
theorem hops_append_of_error (hp : p ≠ []) (hq : q ≠ []) (h : api.hops m p = .error e) :
    api.hops m (p ++ q) = .error e := by
  fun_induction hops api m p with
  | case1 m => exact absurd rfl hp
  | case2 m name =>
      obtain hfield | ⟨f, -, hlast⟩ := except_bind_eq_error_iff.1 h
      · rw [List.singleton_append, hops_cons api m name hq]
        exact except_bind_eq_error_iff.2 (.inl hfield)
      · cases hlast
  | case3 m name rest hrest ih =>
      rw [List.cons_append, hops_cons api m name (List.append_ne_nil_of_right_ne_nil rest hq)]
      simp only [except_bind_eq_error_iff] at h ⊢
      obtain hfield | ⟨f, hfield, hmessage | ⟨next, hmessage, htail | ⟨tail, -, hpure⟩⟩⟩ := h
      · exact .inl hfield
      · exact .inr ⟨f, hfield, .inl hmessage⟩
      · exact .inr ⟨f, hfield, .inr ⟨next, hmessage, .inl (ih next hrest htail)⟩⟩
      · cases hpure

omit [Speller] in
/-- The field path goes on after its first name. -/
theorem fieldAt?_cons (hq : q ≠ []) {next : Message} (hf : m.field? name = some f)
    (hsingle : f.isSingularMessage = true) (hnext : api.message? f.typeRef = some next) :
    api.fieldAt? m (name :: q) = api.fieldAt? next q := by
  rw [fieldAt?, hf, Option.bind_eq_bind, Option.bind_some, if_pos hsingle, hnext]
  · rfl
  · exact hq

/-- Where the first part of a path leads to a field, the whole path goes on in the message that this
field holds. -/
theorem hops_append_of_ok (hp : p ≠ []) (hq : q ≠ []) (h : api.hops m p = .ok text) :
    ∃ f, api.fieldAt? m p = some f ∧
      api.hops m (p ++ q) = (do
        let next ← api.messageOf (p.getLast hp) f
        return text ++ (← api.hops next q)) := by
  fun_induction hops api m p generalizing text with
  | case1 m => exact absurd rfl hp
  | case2 m name =>
      obtain ⟨f, hfield, hlast⟩ := except_bind_eq_ok_iff.1 h
      obtain rfl := Except.ok.inj hlast
      refine ⟨f, fieldOf_eq_ok_iff.1 hfield, ?_⟩
      rw [List.singleton_append, hops_cons_of_fieldOf hq hfield, List.getLast_singleton]
      -- the field is passed only if it holds a message
      cases hmessage : api.messageOf name f with
      | error e => rfl
      | ok next => rw [lastHop_of_isSingularMessage (messageOf_eq_ok_iff.1 hmessage).1]
  | case3 m name rest hrest ih =>
      obtain ⟨f, hfield, hnext⟩ := except_bind_eq_ok_iff.1 h
      obtain ⟨next, hmessage, hhops⟩ := except_bind_eq_ok_iff.1 hnext
      obtain ⟨tail, htail, hpure⟩ := except_bind_eq_ok_iff.1 hhops
      obtain rfl := Except.ok.inj hpure
      obtain ⟨g, hlast, hjoined⟩ := ih next hrest htail
      obtain ⟨hsingle, hfound⟩ := messageOf_eq_ok_iff.1 hmessage
      refine ⟨g, ?_, ?_⟩
      · rw [fieldAt?_cons hrest (fieldOf_eq_ok_iff.1 hfield) hsingle hfound, hlast]
      · have hrest' : rest ++ q ≠ [] := List.append_ne_nil_of_right_ne_nil rest hq
        rw [List.cons_append, hops_cons_of_fieldOf hrest' hfield, List.getLast_cons hrest, hmessage]
        change (do return hop f ++ (← api.hops next (rest ++ q))) = _
        rw [hjoined]
        simp [String.append_assoc]

/-! ## Accessors -/

theorem accessor_eq_ok_iff :
    api.accessor root p = .ok text ↔
      ∃ tail, api.hops root p = .ok tail ∧ accessorRoot ++ tail = text := by
  rw [accessor, except_bind_eq_ok_iff]
  simp [pure, Except.pure]

theorem accessor_eq_error_iff : api.accessor root p = .error e ↔ api.hops root p = .error e := by
  rw [accessor, except_bind_eq_error_iff]
  simp [pure, Except.pure]

/-- The accessor of a joined path, where the accessor of the first part is known. -/
theorem accessor_append_of_ok (hp : p ≠ []) (hq : q ≠ []) (h : api.accessor root p = .ok text) :
    ∃ f, api.fieldAt? root p = some f ∧
      api.accessor root (p ++ q) = (do
        let next ← api.messageOf (p.getLast hp) f
        return text ++ (← api.hops next q)) := by
  obtain ⟨tail, htail, rfl⟩ := accessor_eq_ok_iff.1 h
  obtain ⟨f, hlast, hjoined⟩ := hops_append_of_ok hp hq htail
  refine ⟨f, hlast, ?_⟩
  rw [accessor, hjoined]
  simp [String.append_assoc]

/-- **Accessors along joined field paths are composed.** If the first part has no accessor, the
whole path has none for the same reason. Otherwise the first part leads to a field. If this field is
no single message, or one that is not declared, then that is what is wrong with the whole path. If
it holds a declared message, then the whole path has no accessor for the reason for which the second
part has none in this message, and otherwise its accessor is that of the first part followed by what
the accessor of the second part adds to the request. -/
theorem accessor_append (api : Api) (root : Message) (hp : p ≠ []) (hq : q ≠ []) :
    (∀ e, api.accessor root p = .error e → api.accessor root (p ++ q) = .error e) ∧
    ∀ text, api.accessor root p = .ok text → ∃ f, api.fieldAt? root p = some f ∧
      (f.isSingularMessage = false →
        api.accessor root (p ++ q) = .error (.notAMessage (p.getLast hp))) ∧
      (f.isSingularMessage = true → api.message? f.typeRef = none →
        api.accessor root (p ++ q) = .error (.missingMessage f.typeRef)) ∧
      ∀ m, f.isSingularMessage = true → api.message? f.typeRef = some m →
        (∀ e, api.accessor m q = .error e → api.accessor root (p ++ q) = .error e) ∧
        ∀ text', api.accessor m q = .ok text' → ∃ rest, text' = accessorRoot ++ rest ∧
          api.accessor root (p ++ q) = .ok (text ++ rest) := by
  refine ⟨fun e h => ?_, fun text h => ?_⟩
  · exact accessor_eq_error_iff.2 (hops_append_of_error hp hq (accessor_eq_error_iff.1 h))
  obtain ⟨f, hlast, hjoined⟩ := accessor_append_of_ok hp hq h
  refine ⟨f, hlast, fun hsingle => ?_, fun hsingle hnone => ?_, fun m hsingle hfound => ?_⟩
  · rw [hjoined, messageOf, if_neg (by simp [hsingle])]
    rfl
  · rw [hjoined, messageOf, if_pos hsingle, hnone]
    rfl
  · rw [messageOf_eq_ok_iff.2 ⟨hsingle, hfound⟩] at hjoined
    have hjoined : api.accessor root (p ++ q) = (do return text ++ (← api.hops m q)) := hjoined
    refine ⟨fun e he => ?_, fun text' htext' => ?_⟩
    · rw [hjoined, accessor_eq_error_iff.1 he]
      rfl
    · obtain ⟨rest, hrest, rfl⟩ := accessor_eq_ok_iff.1 htext'
      refine ⟨rest, rfl, ?_⟩
      rw [hjoined, hrest]
      rfl

end Chains

/-- In a list of texts, each item may hold the next one. A path through two items is composed of the
paths through one of them; a text cannot be passed; and an unknown name is unknown to the item in
which it is asked for. -/
theorem accessor_append_in_linked_list :
    let next : Field :=
      { id := ".p.Item.next", name := "next", kind := .message, typeId := some ".p.Item" }
    let title : Field := { id := ".p.Item.title", name := "title" }
    let item : Message := { id := ".p.Item", name := "Item", fields := [next, title] }
    let api : Api := { packageName := "p", messages := [item] }
    api.accessor item (["next"] ++ ["next", "title"]) =
        .ok ("Some(&req).and_then(|m| m.next.as_ref())" ++
          ".and_then(|m| m.next.as_ref()).map(|m| &m.title).map(|s| s.as_str())") ∧
      api.accessor item (["next"] ++ ["size"]) = .error (.unknownField "size" ".p.Item") ∧
      api.accessor item (["next", "title"] ++ ["next"]) = .error (.notAMessage "title") ∧
      api.accessor item (["size"] ++ ["title"]) = .error (.unknownField "size" ".p.Item") := by
  intro next title item api
  have hnext : api.accessor item ["next"] = .ok "Some(&req).and_then(|m| m.next.as_ref())" := by
    decide
  have htitle : api.accessor item ["next", "title"] = .ok (accessorRoot ++
      ".and_then(|m| m.next.as_ref()).map(|m| &m.title).map(|s| s.as_str())") := by decide
  have hsize : api.accessor item ["size"] = .error (.unknownField "size" ".p.Item") := by decide
  have hatNext : api.fieldAt? item ["next"] = some next := by decide
  have hatTitle : api.fieldAt? item ["next", "title"] = some title := by decide
  refine ⟨?_, ?_, ?_, ?_⟩
  · obtain ⟨-, hjoined⟩ := accessor_append api item (List.cons_ne_nil "next" [])
      (List.cons_ne_nil "next" ["title"])
    obtain ⟨f, hf, -, -, hpassed⟩ := hjoined _ hnext
    obtain rfl := Option.some_inj.1 (hatNext.symm.trans hf)
    obtain ⟨rest, hrest, h⟩ := (hpassed item rfl (by decide)).2 _ htitle
    rwa [(String.append_right_inj _).1 hrest]
  · obtain ⟨-, hjoined⟩ := accessor_append api item (List.cons_ne_nil "next" [])
      (List.cons_ne_nil "size" [])
    obtain ⟨f, hf, -, -, hpassed⟩ := hjoined _ hnext
    obtain rfl := Option.some_inj.1 (hatNext.symm.trans hf)
    exact (hpassed item rfl (by decide)).1 _ hsize
  · obtain ⟨-, hjoined⟩ := accessor_append api item (List.cons_ne_nil "next" ["title"])
      (List.cons_ne_nil "next" [])
    obtain ⟨f, hf, hnotPassed, -, -⟩ := hjoined _ htitle
    obtain rfl := Option.some_inj.1 (hatTitle.symm.trans hf)
    exact hnotPassed rfl
  · exact (accessor_append api item (List.cons_ne_nil "size" []) (List.cons_ne_nil "title" [])).1 _
      hsize

end ApiAnnotator.Api
