import ApiAnnotator.Model.Codec
import ApiAnnotator.Proofs.Outcome
import ApiAnnotator.Proofs.PathTemplates
import Mathlib.Data.List.Nodup

/-!
# Models are read back

What has been read as a model and is written again is read as the same model. Most values are read
back whatever they are. A path template is not: its written form may be cut in other places, or not
at all. But one that was read from a text is read back, and all templates of a model that was read
have been read from texts, since a binding cannot go without its template.

So there are two things to show of a codec: which values it restores, and what can be said of the
values that it gives. Of a record both are shown field by field.

## Main definitions

* `Codec.Restores` — a value is read back from its written form.
* `Codec.Gives` — all that a codec reads has some property.
* `Codec.normalize` — reads a value and writes it again.

## Main statements

* `restores_record` — a record is read back if its fields are.
* `gives_record`, `gives_record_of_required` — what is said of a record by way of its fields.
* `Api.read_write` — **a model that was read is read back**.
-/

namespace ApiAnnotator

namespace Json

/-! ## Plain values -/

namespace Codec

variable {α β : Type}

/-- The value is read back from its written form. -/
def Restores (c : Codec α) (a : α) : Prop :=
  c.read (c.write a) = .ok a

/-- All that the codec reads has the property. -/
def Gives (c : Codec α) (P : α → Prop) : Prop :=
  ∀ v a, c.read v = .ok a → P a

/-- The written form of what is read from a JSON value. -/
def normalize (c : Codec α) (v : Json) : Except Misfit Json :=
  c.write <$> c.read v

@[simp] theorem restores_text (s : String) : text.Restores s := rfl

@[simp] theorem restores_flag (b : Bool) : flag.Restores b := rfl

@[simp] theorem restores_int32 (n : Int32) : int32.Restores n := by
  have hrange : Int32.minValue.toInt ≤ n.toInt ∧ n.toInt ≤ Int32.maxValue.toInt :=
    ⟨n.minValue_le_toInt, n.toInt_le⟩
  simp only [Restores, int32, ofScalar, if_pos hrange, Int32.ofInt_toInt]

theorem restores_variant {variants : List (String × α)} {name : α → String} {a : α}
    (h : variants.lookup (name a) = some a) : (variant variants name).Restores a := by
  simp [Restores, variant, variantNamed, h]

section Parts

variable {c : Codec α} {P : α → Prop}

theorem read_optional_of_ne_null {v : Json} (h : v ≠ .null) :
    (optional c).read v = some <$> c.read v := by
  cases v with
  | null => exact absurd rfl h
  | _ => rfl

/-- A value that may be absent is read back if it is when present, and never looks like an absent
one. -/
theorem restores_optional {o : Option α} (hnull : ∀ a ∈ o, c.write a ≠ .null)
    (h : ∀ a ∈ o, c.Restores a) : (optional c).Restores o := by
  cases o with
  | none => rfl
  | some a =>
      have hread : c.read (c.write a) = .ok a := h a rfl
      have hwrite : (optional c).write (some a) = c.write a := rfl
      rw [Restores, hwrite, read_optional_of_ne_null (hnull a rfl), hread]
      rfl

@[simp] theorem restores_optionalText (o : Option String) : optionalText.Restores o :=
  restores_optional (fun _ _ => nofun) fun s _ => restores_text s

theorem gives_optional (h : c.Gives P) : (optional c).Gives fun o => ∀ a ∈ o, P a := by
  intro v o hread a ha
  by_cases hnull : v = .null
  · subst hnull
    obtain rfl : none = o := Except.ok.inj hread
    cases ha
  · rw [read_optional_of_ne_null hnull] at hread
    obtain ⟨a', ha', rfl⟩ := except_map_eq_ok_iff.1 hread
    obtain rfl : a' = a := Option.some.inj ha
    exact h v a' ha'

theorem restores_list {items : List α} (h : ∀ a ∈ items, c.Restores a) :
    (list c).Restores items := by
  refine except_mapM_eq_ok_iff.2 ?_
  rw [List.forall₂_map_left_iff, List.forall₂_same]
  exact h

theorem gives_list (h : c.Gives P) : (list c).Gives fun items => ∀ a ∈ items, P a := by
  intro v items hread a ha
  cases v with
  | arr values =>
      have hitems := except_mapM_eq_ok_iff.1 hread
      obtain ⟨v, -, hv⟩ := exists_mem_of_forall₂ hitems ha
      exact h v a hv
  | _ => cases hread

end Parts

section Refine

variable {c : Codec β} {parse : β → Except String α} {print : α → β}

theorem restores_refine {a : α} (hprint : c.Restores (print a)) (h : parse (print a) = .ok a) :
    (c.refine parse print).Restores a := by
  have hread : c.read (c.write (print a)) = .ok (print a) := hprint
  exact except_bind_eq_ok_iff.2 ⟨print a, hread, except_mapError_eq_ok_iff.2 h⟩

theorem gives_refine {P : α → Prop} (h : ∀ b a, parse b = .ok a → P a) :
    (c.refine parse print).Gives P := by
  intro v a hread
  obtain ⟨b, -, hb⟩ := except_bind_eq_ok_iff.1 hread
  exact h b a (except_mapError_eq_ok_iff.1 hb)

end Refine

end Codec

/-! ## Slots -/

namespace Slot

variable {σ α : Type} {P : σ → Prop} {slots : List (Slot σ)} {slot : Slot σ}

/-- Reading into the slot keeps a property of records. -/
def Keeps (P : σ → Prop) (slot : Slot σ) : Prop :=
  ∀ v s s', slot.read v s = .ok s' → P s → P s'

/-- Reading into the slot makes records have a property. -/
def Sets (P : σ → Prop) (slot : Slot σ) : Prop :=
  ∀ v s s', slot.read v s = .ok s' → P s'

section Single

variable {c : Codec α} {Q : α → Prop} {key : String} {get : σ → α} {set : α → σ → σ}

/-- What a slot writes for one record it reads into another one. -/
theorem read_write_slot {s : σ} (h : c.Restores (get s)) (t : σ) :
    (Json.slot key c get set).read ((Json.slot key c get set).write s) t = .ok (set (get s) t) :=
  except_bind_eq_ok_iff.2 ⟨get s, h, rfl⟩

theorem sets_slot (hc : c.Gives Q) (hset : ∀ a s, Q a → P (set a s)) :
    (Json.slot key c get set).Sets P := by
  intro v s s' hread
  obtain ⟨a, ha, hs'⟩ := except_bind_eq_ok_iff.1 hread
  obtain rfl := Except.ok.inj hs'
  exact hset a s (hc v a ha)

theorem keeps_slot (h : ∀ a s, P s → P (set a s)) : (Json.slot key c get set).Keeps P := by
  intro v s s' hread hs
  obtain ⟨a, -, hs'⟩ := except_bind_eq_ok_iff.1 hread
  obtain rfl := Except.ok.inj hs'
  exact h a s hs

theorem Sets.keeps (h : slot.Sets P) : slot.Keeps P :=
  fun v s s' hread _ => h v s s' hread

/-- A required slot reads and writes like any other one. -/
@[simp] theorem read_requiredSlot :
    (requiredSlot key c get set).read = (Json.slot key c get set).read := rfl

@[simp] theorem write_requiredSlot :
    (requiredSlot key c get set).write = (Json.slot key c get set).write := rfl

theorem sets_requiredSlot_iff :
    (requiredSlot key c get set).Sets P ↔ (Json.slot key c get set).Sets P := Iff.rfl

theorem keeps_requiredSlot_iff :
    (requiredSlot key c get set).Keeps P ↔ (Json.slot key c get set).Keeps P := Iff.rfl

end Single

/-- With distinct keys a slot is found by its key. -/
theorem find?_key (hkeys : (slots.map (·.key)).Nodup) (h : slot ∈ slots) :
    slots.find? (·.key == slot.key) = some slot := by
  cases hfind : slots.find? (·.key == slot.key) with
  | none => simpa using List.find?_eq_none.1 hfind slot h
  | some other =>
      have hkey : other.key = slot.key := by simpa using List.find?_some hfind
      rw [List.inj_on_of_nodup_map hkeys (List.mem_of_find?_eq_some hfind) h hkey]

/-- Reading what some of the slots have written for a record. -/
theorem readMembers_write (hkeys : (slots.map (·.key)).Nodup) {written : List (Slot σ)}
    (hsub : written ⊆ slots) (s t : σ) :
    readMembers slots (written.map fun slot => (slot.key, slot.write s)) t =
      written.foldlM (fun t slot => slot.read (slot.write s) t) t := by
  induction written generalizing t with
  | nil => rfl
  | cons slot written ih =>
      obtain ⟨hslot, hrest⟩ := List.cons_subset.1 hsub
      simp only [readMembers, List.map_cons, List.foldlM_cons, find?_key hkeys hslot]
      exact bind_congr fun t' => ih hrest t'

theorem missing?_eq_none_iff {keys : List String} :
    missing? slots keys = none ↔ ∀ slot ∈ slots, slot.required = true → slot.key ∈ keys := by
  simp [missing?]

theorem readMembers_cons_eq_ok_iff {key : String} {v : Json} {members : List (String × Json)}
    {s s' : σ} :
    readMembers slots ((key, v) :: members) s = .ok s' ↔
      ∃ s₁, (match slots.find? (·.key == key) with
        | some slot => slot.read v s
        | none => .ok s) = .ok s₁ ∧ readMembers slots members s₁ = .ok s' :=
  except_bind_eq_ok_iff

/-- What every slot keeps is kept by reading the members of an object. -/
theorem readMembers_keeps (hslots : ∀ slot ∈ slots, slot.Keeps P) {members : List (String × Json)}
    {s s' : σ} (h : readMembers slots members s = .ok s') (hs : P s) : P s' := by
  induction members generalizing s with
  | nil =>
      obtain rfl : s = s' := Except.ok.inj h
      exact hs
  | cons member members ih =>
      obtain ⟨key, v⟩ := member
      obtain ⟨s₁, hmember, hrest⟩ := readMembers_cons_eq_ok_iff.1 h
      refine ih hrest ?_
      cases hfind : slots.find? (·.key == key) with
      | some slot =>
          rw [hfind] at hmember
          exact hslots slot (List.mem_of_find?_eq_some hfind) v s s₁ hmember hs
      | none =>
          rw [hfind] at hmember
          obtain rfl : s = s₁ := Except.ok.inj hmember
          exact hs

/-- What one slot sets and every slot keeps holds of an object that has the key of that slot. -/
theorem readMembers_sets (hkeys : (slots.map (·.key)).Nodup)
    (hslots : ∀ slot ∈ slots, slot.Keeps P) (hslot : slot ∈ slots) (hsets : slot.Sets P)
    {members : List (String × Json)} {s s' : σ} (hmem : slot.key ∈ members.map Prod.fst)
    (h : readMembers slots members s = .ok s') : P s' := by
  induction members generalizing s with
  | nil => cases hmem
  | cons member members ih =>
      obtain ⟨key, v⟩ := member
      obtain ⟨s₁, hmember, hrest⟩ := readMembers_cons_eq_ok_iff.1 h
      rcases List.mem_cons.1 hmem with rfl | hmem
      · rw [find?_key hkeys hslot] at hmember
        exact readMembers_keeps hslots hrest (hsets v s s₁ hmember)
      · exact ih hmem hrest

section Items

variable {shortfall overflow : Misfit} {items : List Json} {s s' : σ}

theorem readItems_nil : readItems shortfall overflow slots [] s =
    if slots.any (·.required) then .error shortfall else .ok s := by
  cases slots <;> rfl

/-- What every slot keeps is kept by reading the items of a list. -/
theorem readItems_keeps (hslots : ∀ slot ∈ slots, slot.Keeps P)
    (h : readItems shortfall overflow slots items s = .ok s') (hs : P s) : P s' := by
  induction slots generalizing items s with
  | nil =>
      cases items with
      | nil =>
          obtain rfl : s = s' := Except.ok.inj h
          exact hs
      | cons v items => cases h
  | cons slot slots ih =>
      cases items with
      | nil =>
          rw [readItems_nil] at h
          split at h
          · cases h
          · obtain rfl : s = s' := Except.ok.inj h
            exact hs
      | cons v items =>
          obtain ⟨s₁, hslot, hrest⟩ := except_bind_eq_ok_iff.1 h
          obtain ⟨hkeeps, hslots'⟩ := List.forall_mem_cons.1 hslots
          exact ih hslots' hrest (hkeeps v s s₁ hslot hs)

/-- What a required slot sets and every slot keeps holds of a list. -/
theorem readItems_sets (hslots : ∀ slot ∈ slots, slot.Keeps P) (hslot : slot ∈ slots)
    (hrequired : slot.required = true) (hsets : slot.Sets P)
    (h : readItems shortfall overflow slots items s = .ok s') : P s' := by
  induction slots generalizing items s with
  | nil => cases hslot
  | cons first slots ih =>
      cases items with
      | nil =>
          have hany : (first :: slots).any (·.required) = true :=
            List.any_eq_true.2 ⟨slot, hslot, hrequired⟩
          rw [readItems_nil, if_pos hany] at h
          cases h
      | cons v items =>
          obtain ⟨s₁, hfirst, hrest⟩ := except_bind_eq_ok_iff.1 h
          obtain ⟨-, hslots'⟩ := List.forall_mem_cons.1 hslots
          rcases List.mem_cons.1 hslot with rfl | hslot
          · exact readItems_keeps hslots' hrest (hsets v s s₁ hfirst)
          · exact ih hslots' hslot hrest

end Items

end Slot

/-! ## Records -/

namespace Codec

variable {σ : Type} {name : String} {blank : σ} {slots : List (Slot σ)} {P : σ → Prop}

/-- **A record is read back** if reading its fields into a blank one makes the record. -/
theorem restores_record {s : σ} (hkeys : (slots.map (·.key)).Nodup)
    (h : slots.foldlM (fun t slot => slot.read (slot.write s) t) blank = .ok s) :
    (record name blank slots).Restores s := by
  have hmembers := Slot.readMembers_write hkeys (List.Subset.refl slots) s blank
  refine except_bind_eq_ok_iff.2 ⟨s, hmembers.trans h, ?_⟩
  have hnone : Slot.missing? slots
      ((slots.map fun slot => (slot.key, slot.write s)).map Prod.fst) = none := by
    rw [Slot.missing?_eq_none_iff]
    intro slot hslot _
    simpa using ⟨slot, hslot, rfl⟩
  rw [hnone]

theorem write_record_ne_null {s : σ} : (record name blank slots).write s ≠ .null :=
  nofun

/-- A record is read from an object with all the keys that must be there, or from a list. -/
theorem of_read_record_eq_ok {v : Json} {s : σ} (h : (record name blank slots).read v = .ok s) :
    (∃ members, Slot.missing? slots (members.map Prod.fst) = none ∧
      Slot.readMembers slots members blank = .ok s) ∨
    ∃ shortfall overflow items, Slot.readItems shortfall overflow slots items blank = .ok s := by
  cases v with
  | obj members =>
      obtain ⟨s', hread, hrest⟩ := except_bind_eq_ok_iff.1 h
      cases hmissing : Slot.missing? slots (members.map Prod.fst) with
      | some misfit => simp [hmissing] at hrest
      | none =>
          obtain rfl : s' = s := by simpa [hmissing] using hrest
          exact .inl ⟨members, hmissing, hread⟩
  | arr items => exact .inr ⟨_, _, items, h⟩
  | _ => cases h

/-- What holds of the blank record and is kept by every slot holds of every record that is read. -/
theorem gives_record (hblank : P blank) (hslots : ∀ slot ∈ slots, slot.Keeps P) :
    (record name blank slots).Gives P := by
  intro v s h
  rcases of_read_record_eq_ok h with ⟨members, -, hread⟩ | ⟨shortfall, overflow, items, hread⟩
  · exact Slot.readMembers_keeps hslots hread hblank
  · exact Slot.readItems_keeps hslots hread hblank

/-- What a required slot sets and every slot keeps holds of every record that is read. -/
theorem gives_record_of_required (hkeys : (slots.map (·.key)).Nodup)
    (hslots : ∀ slot ∈ slots, slot.Keeps P) {slot : Slot σ} (hslot : slot ∈ slots)
    (hrequired : slot.required = true) (hsets : slot.Sets P) :
    (record name blank slots).Gives P := by
  intro v s h
  rcases of_read_record_eq_ok h with ⟨members, hkey, hread⟩ | ⟨shortfall, overflow, items, hread⟩
  · have hmem := Slot.missing?_eq_none_iff.1 hkey slot hslot hrequired
    exact Slot.readMembers_sets hkeys hslots hslot hsets hmem hread
  · exact Slot.readItems_sets hslots hslot hrequired hsets hread

end Codec

end Json

open Json

/-! ## Values that are always read back -/

@[simp] theorem FieldKind.restores_codec (kind : FieldKind) : FieldKind.codec.Restores kind :=
  Codec.restores_variant (FieldKind.lookup_name kind)

@[simp] theorem Field.restores_codec (f : Field) : Field.codec.Restores f := by
  refine Codec.restores_record (by decide) ?_
  simp [Slot.read_write_slot, bind, Except.bind, pure, Except.pure]

@[simp] theorem OneOf.restores_codec (o : OneOf) : OneOf.codec.Restores o := by
  refine Codec.restores_record (by decide) ?_
  simp [Slot.read_write_slot, bind, Except.bind, pure, Except.pure]

@[simp] theorem Message.restores_codec (m : Message) : Message.codec.Restores m := by
  refine Codec.restores_record (by decide) ?_
  simp [Slot.read_write_slot, Codec.restores_list, bind, Except.bind, pure, Except.pure]

@[simp] theorem EnumValue.restores_codec (v : EnumValue) : EnumValue.codec.Restores v := by
  refine Codec.restores_record (by decide) ?_
  simp [Slot.read_write_slot, bind, Except.bind, pure, Except.pure]

@[simp] theorem Enum.restores_codec (e : Enum) : Enum.codec.Restores e := by
  refine Codec.restores_record (by decide) ?_
  simp [Slot.read_write_slot, Codec.restores_list, bind, Except.bind, pure, Except.pure]

/-! ## Values that are read back after they were read -/

/-- A path template that was read from a text is read back. -/
theorem PathTemplate.gives_codec : PathTemplate.codec.Gives PathTemplate.codec.Restores := by
  refine Codec.gives_refine fun s t h => Codec.restores_refine (Codec.restores_text _) ?_
  rw [except_mapError_eq_ok_iff] at h ⊢
  exact parse_render_of_parse_eq_ok h

/-- The template of a binding has been read, as a binding must have one. -/
theorem Binding.gives_codec : Binding.codec.Gives Binding.codec.Restores := by
  have htemplate : Binding.codec.Gives fun b => PathTemplate.codec.Restores b.template := by
    have hsets : (requiredSlot "template" PathTemplate.codec Binding.template
        fun v s => { s with template := v }).Sets fun b => PathTemplate.codec.Restores b.template :=
      Slot.sets_requiredSlot_iff.2 (Slot.sets_slot PathTemplate.gives_codec fun _ _ h => h)
    refine Codec.gives_record_of_required (by decide) ?_ (.tail _ (.head _)) rfl hsets
    simp only [List.forall_mem_cons]
    exact ⟨Slot.keeps_requiredSlot_iff.2 (Slot.keeps_slot fun _ _ h => h), hsets.keeps, by simp⟩
  intro v b h
  refine Codec.restores_record (by decide) ?_
  simp [Slot.read_write_slot, htemplate v b h, bind, Except.bind, pure, Except.pure]

theorem HttpRule.gives_codec : HttpRule.codec.Gives HttpRule.codec.Restores := by
  have hbindings : HttpRule.codec.Gives fun r => ∀ b ∈ r.bindings, Binding.codec.Restores b := by
    refine Codec.gives_record (by simp) ?_
    simp only [List.forall_mem_cons]
    refine ⟨Slot.Sets.keeps ?_, Slot.keeps_slot fun _ _ h => h, by simp⟩
    exact Slot.sets_slot (Codec.gives_list Binding.gives_codec) fun _ _ h => h
  intro v r h
  refine Codec.restores_record (by decide) ?_
  simp [Slot.read_write_slot, Codec.restores_list (hbindings v r h), bind, Except.bind, pure,
    Except.pure]

theorem Method.gives_codec : Method.codec.Gives Method.codec.Restores := by
  have hhttp : Method.codec.Gives fun m => ∀ r ∈ m.http, HttpRule.codec.Restores r := by
    refine Codec.gives_record (by simp) ?_
    simp only [List.forall_mem_cons]
    -- one slot reads the rule, and no other one touches it
    refine ⟨?_, ?_, ?_, ?_, ?_, ?_, ?_, ?_, Slot.Sets.keeps ?_, by simp⟩
    case refine_9 => exact Slot.sets_slot (Codec.gives_optional HttpRule.gives_codec) fun _ _ h => h
    all_goals exact Slot.keeps_slot fun _ _ h => h
  intro v m h
  have hrestores : (Codec.optional HttpRule.codec).Restores m.http :=
    Codec.restores_optional (fun _ _ => Codec.write_record_ne_null) (hhttp v m h)
  refine Codec.restores_record (by decide) ?_
  simp [Slot.read_write_slot, hrestores, bind, Except.bind, pure, Except.pure]

theorem Service.gives_codec : Service.codec.Gives Service.codec.Restores := by
  have hmethods : Service.codec.Gives fun s => ∀ m ∈ s.methods, Method.codec.Restores m := by
    refine Codec.gives_record (by simp) ?_
    simp only [List.forall_mem_cons]
    refine ⟨?_, ?_, ?_, ?_, ?_, ?_, Slot.Sets.keeps ?_, by simp⟩
    case refine_7 => exact Slot.sets_slot (Codec.gives_list Method.gives_codec) fun _ _ h => h
    all_goals exact Slot.keeps_slot fun _ _ h => h
  intro v s h
  refine Codec.restores_record (by decide) ?_
  simp [Slot.read_write_slot, Codec.restores_list (hmethods v s h), bind, Except.bind, pure,
    Except.pure]

theorem Api.gives_codec : Api.codec.Gives Api.codec.Restores := by
  have hservices : Api.codec.Gives fun api => ∀ s ∈ api.services, Service.codec.Restores s := by
    refine Codec.gives_record (by simp) ?_
    simp only [List.forall_mem_cons]
    refine ⟨?_, ?_, ?_, ?_, ?_, ?_, Slot.Sets.keeps ?_, by simp⟩
    case refine_7 => exact Slot.sets_slot (Codec.gives_list Service.gives_codec) fun _ _ h => h
    all_goals exact Slot.keeps_slot fun _ _ h => h
  intro v api h
  refine Codec.restores_record (by decide) ?_
  simp [Slot.read_write_slot, Codec.restores_list, Codec.restores_list (hservices v api h), bind,
    Except.bind, pure, Except.pure]

/-- **A model that was read is read back.** What has been read from a JSON value, in whatever form,
is read again from its written form. So reading and writing a value twice gives the same as doing so
once. -/
theorem Api.read_write {v : Json} {api : Api} (h : Api.codec.read v = .ok api) :
    Api.codec.read (Api.codec.write api) = .ok api ∧
      (Api.codec.normalize v >>= Api.codec.normalize) = Api.codec.normalize v := by
  have hread : Api.codec.read (Api.codec.write api) = .ok api := Api.gives_codec v api h
  have hnormal : Api.codec.normalize v = .ok (Api.codec.write api) :=
    except_map_eq_ok_iff.2 ⟨api, h, rfl⟩
  refine ⟨hread, ?_⟩
  rw [hnormal]
  exact except_map_eq_ok_iff.2 ⟨api, hread, rfl⟩

/-- A model given with an unknown key, a list in place of an object, a `null`, a kind in the long
form and a wildcard that is understood. It is written with all keys and without the wildcard, and
read back. -/
theorem read_write_tree :
    let given : Json := .obj [("packageName", .str "p"), ("color", .int 3), ("description", .null),
      ("messages", .arr [.obj [("name", .str "Tree"), ("fields", .arr [.obj [("name", .str "root"),
        ("typez", .obj [("int64", .null)])]])]]),
      ("services", .arr [.obj [("methods", .arr [.obj [("pathInfo",
        .arr [.arr [.arr [.str "GET", .str "/v1/\x7bname=*\x7d"]]])]])]])]
    let root : Field := { name := "root", kind := .int64 }
    let template : PathTemplate := ⟨[.literal "v1", .variable ⟨["name"], ["*"]⟩], none⟩
    let plant : Method := { http := some { bindings := [⟨"GET", template⟩] } }
    let api : Api :=
      { packageName := "p", messages := [{ name := "Tree", fields := [root] }],
        services := [{ methods := [plant] }] }
    let writtenRoot : Json := .obj [("id", .str ""), ("name", .str "root"), ("typez", .str "int64"),
      ("typeId", .null), ("repeated", .bool false), ("optional", .bool false), ("map", .bool false),
      ("deprecated", .bool false), ("resourceReference", .bool false), ("oneof", .null),
      ("documentation", .str "")]
    let writtenTree : Json := .obj [("id", .str ""), ("name", .str "Tree"), ("package", .str ""),
      ("parent", .null), ("documentation", .str ""), ("deprecated", .bool false),
      ("fields", .arr [writtenRoot]), ("oneofs", .arr []), ("isMapEntry", .bool false)]
    let writtenRule : Json := .obj [
      ("bindings", .arr [.obj [("verb", .str "GET"), ("template", .str "/v1/\x7bname\x7d")]]),
      ("bodyFieldPath", .null)]
    let writtenPlant : Json := .obj [("id", .str ""), ("name", .str ""), ("documentation", .str ""),
      ("inputTypeId", .str ""), ("outputTypeId", .str ""), ("clientSideStreaming", .bool false),
      ("serverSideStreaming", .bool false), ("deprecated", .bool false), ("pathInfo", writtenRule)]
    let writtenService : Json := .obj [("id", .str ""), ("name", .str ""), ("package", .str ""),
      ("documentation", .str ""), ("defaultHost", .str ""), ("deprecated", .bool false),
      ("methods", .arr [writtenPlant])]
    let written : Json := .obj [("name", .str ""), ("packageName", .str "p"), ("title", .str ""),
      ("description", .null), ("messages", .arr [writtenTree]), ("enums", .arr []),
      ("services", .arr [writtenService])]
    Api.codec.read given = .ok api ∧ Api.codec.write api = written ∧
      Api.codec.read written = .ok api := by
  intro given root template plant api writtenRoot writtenTree writtenRule writtenPlant
    writtenService written
  have hread : Api.codec.read given = .ok api := rfl
  have hwritten : Api.codec.write api = written := rfl
  exact ⟨hread, hwritten, hwritten ▸ (Api.read_write hread).1⟩

end ApiAnnotator
