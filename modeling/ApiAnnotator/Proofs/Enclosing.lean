import ApiAnnotator.Model.Lookup
import Mathlib.Data.Finset.Card
import Mathlib.Data.List.Chain
import Mathlib.Data.List.Infix
import Mathlib.Logic.Relation

/-!
# The messages around a type

The walk outwards from a type ends where it would go in a circle, so what it meets depends on what
it has passed. But only a message that it comes back to can end it: a message that is not met again
might as well not have been passed. So the messages around a type are those around its parent and
then the parent, unless the parent is nested in itself. Further out, parents may be unknown or form
a circle.

A walk can also be described by its result alone: each message is the one that the parent of the
message before it refers to, and no ID comes up twice. From a given start there is one way only, so
all walks are beginnings of the longest one, and that is the one that is taken. As the IDs of a walk
differ, it is never longer than there are IDs.

## Main definitions

* `Api.EnclosedBy` — a message is declared inside of another one.
* `Api.IsWalk` — a walk from parent to parent that meets no ID twice.

## Main statements

* `outwards_of_message?` — one step of the walk.
* `outwards_eq_of_not_reached` — what is not met again might as well not have been passed.
* `enclosing_eq_append` — **the messages around a type are those around its parent and the parent**.
* `isWalk_past_iff` — the walks are the beginnings of the walk that is taken.
* `enclosing_is_longest_walk` — **the messages around a type are the longest walk from its parent**.
-/

namespace ApiAnnotator.Api

/-- A message with the first ID is declared inside of the second one. -/
def EnclosedBy (api : Api) (id parent : String) : Prop :=
  ∃ m ∈ api.messages, m.id = id ∧ m.parent = some parent

variable {api : Api} {id : String} {m : Message} {seen : List String}

/-- The messages around a type start with its parent, unless that has been passed before. -/
theorem outwards_of_message? (h : api.message? id = some m) (hnew : m.id ∉ seen) :
    api.outwards seen (some id) = m :: api.outwards (m.id :: seen) m.parent := by
  rw [outwards]
  split
  next hnone => simp [h] at hnone
  next m' hfound =>
    obtain rfl := Option.some_inj.1 (h.symm.trans hfound)
    rw [if_neg hnew]

/-- The walk ends at a message that has been passed before. -/
theorem outwards_of_mem (h : api.message? id = some m) (hmem : m.id ∈ seen) :
    api.outwards seen (some id) = [] := by
  rw [outwards]
  split
  next => rfl
  next m' hfound =>
    obtain rfl := Option.some_inj.1 (h.symm.trans hfound)
    rw [if_pos hmem]

/-- The walk ends at an ID that no message has. -/
theorem outwards_of_message?_eq_none (h : api.message? id = none) :
    api.outwards seen (some id) = [] := by
  rw [outwards]
  split
  next => rfl
  next m' hfound => simp [h] at hfound

/-- A message that the walk does not come back to might as well not have been passed. -/
theorem outwards_eq_of_not_reached {passed : String} {seen' : List String} {parent : Option String}
    (hseen : ∀ s, s ∈ seen' ↔ s = passed ∨ s ∈ seen)
    (hpassed : ∀ id, parent = some id → ¬ Relation.ReflTransGen api.EnclosedBy id passed) :
    api.outwards seen' parent = api.outwards seen parent := by
  fun_induction api.outwards seen parent generalizing seen' with
  | case1 seen => rw [outwards]
  | case2 seen id hnone => rw [outwards_of_message?_eq_none hnone]
  | case3 seen id m hfound hmem => rw [outwards_of_mem hfound ((hseen m.id).2 (.inr hmem))]
  | case4 seen id m hfound hnew ih =>
      obtain ⟨hm, rfl⟩ := of_message?_eq_some hfound
      have hother : m.id ≠ passed := by
        intro heq
        exact hpassed m.id rfl (heq ▸ .refl)
      have hnew' : m.id ∉ seen' := by simp [hseen, hother, hnew]
      rw [outwards_of_message? hfound hnew', ih]
      · intro s
        simp only [List.mem_cons, hseen]
        exact or_left_comm
      · intro id hid hreached
        exact hpassed m.id rfl (hreached.head ⟨m, hm, rfl, hid⟩)

/-- **The messages around a type are those around its parent and the parent**, unless the parent is
nested in itself. -/
theorem enclosing_eq_append (h : api.message? id = some m)
    (hcycle : ¬ Relation.TransGen api.EnclosedBy m.id m.id) :
    api.enclosing (some id) = api.enclosing m.parent ++ [m] := by
  obtain ⟨hm, rfl⟩ := of_message?_eq_some h
  have hparent : ∀ id, m.parent = some id → ¬ Relation.ReflTransGen api.EnclosedBy id m.id := by
    intro id hid hreached
    exact hcycle (Relation.TransGen.head' ⟨m, hm, rfl, hid⟩ hreached)
  have hwalk : api.outwards [m.id] m.parent = api.outwards [] m.parent :=
    outwards_eq_of_not_reached (by simp) hparent
  rw [enclosing, outwards_of_message? h List.not_mem_nil, hwalk, List.reverse_cons, enclosing]

theorem enclosing_of_parent_eq_none (h : api.message? id = some m) (htop : m.parent = none) :
    api.enclosing (some id) = [m] := by
  rw [enclosing, outwards_of_message? h (by simp), htop, outwards, List.reverse_singleton]

/-! ## The longest walk -/

/-- A walk outwards: the first message is the one that the start refers to, each next one is the one
that the parent of the message before it refers to, and no ID comes up twice. -/
structure IsWalk (api : Api) (start : Option String) (walk : List Message) : Prop where
  of_head? : ∀ m ∈ walk.head?, start.bind api.message? = some m
  isChain : walk.IsChain fun m outer => m.parent.bind api.message? = some outer
  nodup_ids : (walk.map (·.id)).Nodup

variable {start : Option String} {walk : List Message}

theorem isWalk_nil : api.IsWalk start [] where
  of_head? := by simp
  isChain := .nil
  nodup_ids := List.nodup_nil

/-- A walk starts with a message and goes on from its parent without coming back to it. -/
theorem isWalk_cons_iff : api.IsWalk start (m :: walk) ↔
    start.bind api.message? = some m ∧ api.IsWalk m.parent walk ∧ m.id ∉ walk.map (·.id) := by
  constructor
  · intro ⟨hhead, hchain, hids⟩
    rw [List.isChain_cons] at hchain
    rw [List.map_cons, List.nodup_cons] at hids
    exact ⟨hhead m rfl, ⟨hchain.1, hchain.2, hids.2⟩, hids.1⟩
  · rintro ⟨hstart, ⟨hhead, hchain, hids⟩, hnew⟩
    exact
      { of_head? := by simpa using hstart
        isChain := List.isChain_cons.2 ⟨hhead, hchain⟩
        nodup_ids := List.nodup_cons.2 ⟨hnew, hids⟩ }

/-- With one more message met, a walk is still past all of them if it does not come back to that
message. -/
theorem forall_id_not_mem_cons_iff : (∀ n ∈ walk, n.id ∉ m.id :: seen) ↔
    m.id ∉ walk.map (·.id) ∧ ∀ n ∈ walk, n.id ∉ seen := by
  simp only [List.mem_cons, not_or, forall_and, List.mem_map, not_exists, not_and]

/-- The walks past what has been met are the beginnings of the walk that is taken. -/
theorem isWalk_past_iff : api.IsWalk start walk ∧ (∀ n ∈ walk, n.id ∉ seen) ↔
    walk <+: api.outwards seen start := by
  -- each message of the walk is one step outwards, after which it counts as met
  induction walk generalizing seen start with
  | nil => simp [isWalk_nil]
  | cons m rest ih =>
      rw [isWalk_cons_iff]
      cases start with
      | none => simp [outwards]
      | some id =>
          rw [Option.bind_some]
          cases hfound : api.message? id with
          | none => simp [outwards_of_message?_eq_none hfound]
          | some first =>
              by_cases hmet : first.id ∈ seen
              · rw [outwards_of_mem hfound hmet, List.prefix_nil]
                refine ⟨?_, fun h => absurd h (List.cons_ne_nil m rest)⟩
                rintro ⟨⟨hfirst, -, -⟩, hpast⟩
                obtain rfl := Option.some_inj.1 hfirst
                exact absurd hmet (hpast first List.mem_cons_self)
              · rw [outwards_of_message? hfound hmet, List.cons_prefix_cons, ← ih,
                  forall_id_not_mem_cons_iff, List.forall_mem_cons]
                constructor
                · rintro ⟨⟨hfirst, hrest, hback⟩, -, hpast⟩
                  obtain rfl := Option.some_inj.1 hfirst
                  exact ⟨rfl, hrest, hback, hpast⟩
                · rintro ⟨rfl, hrest, hback, hpast⟩
                  exact ⟨⟨rfl, hrest, hback⟩, hmet, hpast⟩

/-- The walks are the beginnings of the walk that is taken. -/
theorem isWalk_iff : api.IsWalk start walk ↔ walk <+: (api.enclosing start).reverse := by
  rw [enclosing, List.reverse_reverse, ← isWalk_past_iff]
  simp

/-- The ID that a walk goes on to. -/
def nextId? (start : Option String) (walk : List Message) : Option String :=
  walk.getLast?.elim start (·.parent)

/-- A walk goes on to the message that the next ID refers to, unless that has been met. -/
theorem IsWalk.concat (h : api.IsWalk start walk) (hnext : nextId? start walk = some id)
    (hm : api.message? id = some m) (hnew : m.id ∉ walk.map (·.id)) :
    api.IsWalk start (walk ++ [m]) where
  of_head? := by
    cases walk with
    | nil =>
        have hstart : start = some id := hnext
        simp [hstart, hm]
    | cons first rest => exact h.of_head?
  isChain := by
    refine List.isChain_append.2 ⟨h.isChain, .singleton m, ?_⟩
    intro last hlast m' hm'
    obtain rfl : m = m' := by simpa using hm'
    have hparent : last.parent = some id := by
      rwa [nextId?, Option.mem_def.1 hlast] at hnext
    rw [hparent, Option.bind_some, hm]
  nodup_ids := by
    rw [List.map_append, List.map_singleton, ← List.concat_eq_append]
    exact h.nodup_ids.concat hnew

theorem IsWalk.mem_messages (h : api.IsWalk start walk) (hm : m ∈ walk) : m ∈ api.messages := by
  induction walk generalizing start with
  | nil => cases hm
  | cons first rest ih =>
      obtain ⟨hfirst, hrest, -⟩ := isWalk_cons_iff.1 h
      obtain ⟨id, -, hfound⟩ := Option.bind_eq_some_iff.1 hfirst
      rcases List.mem_cons.1 hm with rfl | hm
      · exact (of_message?_eq_some hfound).1
      · exact ih hrest hm

/-- A walk is not longer than there are IDs of messages. -/
theorem IsWalk.length_le (h : api.IsWalk start walk) :
    walk.length ≤ (api.messages.map (·.id)).toFinset.card := by
  have hsubset : (walk.map (·.id)).toFinset ⊆ (api.messages.map (·.id)).toFinset := by
    intro id hid
    obtain ⟨m, hm, rfl⟩ := List.mem_map.1 (List.mem_toFinset.1 hid)
    exact List.mem_toFinset.2 (List.mem_map_of_mem (h.mem_messages hm))
  calc walk.length = (walk.map (·.id)).length := (List.length_map ..).symm
    _ = (walk.map (·.id)).toFinset.card := (List.toFinset_card_of_nodup h.nodup_ids).symm
    _ ≤ (api.messages.map (·.id)).toFinset.card := Finset.card_le_card hsubset

/-- **The messages around a type are the longest walk from its parent**, with its last message
first. It ends only where the next ID is not that of a message or has been met, and as its IDs
differ, it is not longer than there are IDs of messages. Parents may be unknown or form a circle,
and several messages may have the same ID. -/
theorem enclosing_is_longest_walk (api : Api) (start : Option String) :
    api.IsWalk start (api.enclosing start).reverse ∧
      (∀ walk, api.IsWalk start walk → walk <+: (api.enclosing start).reverse) ∧
      (∀ id, nextId? start (api.enclosing start).reverse = some id →
        api.message? id = none ∨ id ∈ (api.enclosing start).map (·.id)) ∧
      ((api.enclosing start).map (·.id)).Nodup ∧
      (api.enclosing start).length ≤ (api.messages.map (·.id)).toFinset.card := by
  have hwalk : api.IsWalk start (api.enclosing start).reverse := isWalk_iff.2 List.prefix_rfl
  refine ⟨hwalk, fun walk h => isWalk_iff.1 h, ?_, ?_, ?_⟩
  · intro id hnext
    cases hfound : api.message? id with
    | none => exact .inl rfl
    | some m =>
        obtain ⟨-, rfl⟩ := of_message?_eq_some hfound
        refine .inr (by_contra fun hnew => ?_)
        -- otherwise there is a walk that is longer by one message
        have hlonger := isWalk_iff.1 (hwalk.concat hnext hfound (by simpa using hnew))
        have hlength := hlonger.length_le
        rw [List.length_append, List.length_singleton] at hlength
        exact absurd hlength (Nat.not_succ_le_self _)
  · have hids := hwalk.nodup_ids
    rwa [List.map_reverse, List.nodup_reverse] at hids
  · simpa using hwalk.length_le

/-- Two messages that are nested in each other, one of them declared twice with different parents:
the declaration that counts leads into the circle, and the walk ends where it closes. -/
theorem enclosing_of_circle :
    let lost : Message := { id := ".p.A", name := "Lost", parent := some ".p.Missing" }
    let a : Message := { id := ".p.A", name := "A", parent := some ".p.B" }
    let b : Message := { id := ".p.B", name := "B", parent := some ".p.A" }
    let api : Api := { messages := [lost, a, b] }
    api.IsWalk (some ".p.A") [a, b] ∧ [a, b] <+: (api.enclosing (some ".p.A")).reverse ∧
      nextId? (some ".p.A") (api.enclosing (some ".p.A")).reverse = some ".p.A" ∧
      (api.enclosing (some ".p.A")).length = 2 := by
  intro lost a b api
  obtain ⟨-, hprefix, -, -, hlength⟩ := enclosing_is_longest_walk api (some ".p.A")
  have hwalk : api.IsWalk (some ".p.A") [a, b] :=
    { of_head? := by simp [api, message?, lost, a, b]
      isChain := by simp [api, message?, lost, a, b]
      nodup_ids := by simp [a, b] }
  have hids : (api.messages.map (·.id)).toFinset.card = 2 := by decide
  have hbefore := hprefix [a, b] hwalk
  have hall : (api.enclosing (some ".p.A")).reverse = [a, b] := by
    refine (hbefore.eq_of_length_le ?_).symm
    rw [List.length_reverse]
    exact hlength.trans hids.le
  refine ⟨hwalk, hbefore, ?_, ?_⟩
  · rw [hall]
    rfl
  · rw [← List.length_reverse, hall]
    rfl

end ApiAnnotator.Api
