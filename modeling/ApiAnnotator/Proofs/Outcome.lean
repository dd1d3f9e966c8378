import ApiAnnotator.FieldType
import Mathlib.Data.List.Forall2

/-!
# How annotations succeed

An annotation that succeeds gives a value and a list of warnings. A composed annotation succeeds
exactly if its parts do, one after the other, and what it notes is what the parts note, in order. So
a successful annotation can be taken apart into its steps without looking into the monad.

## Main definitions

* `Yields x a ws` — the annotation `x` succeeds with the value `a` and notes the warnings `ws`.

## Main statements

* `yields_pure_iff`, `yields_bind_iff`, `yields_noted_iff`, `yields_except_iff` — the steps.
* `Yields.forall₂_of_mapM`, `Yields.forall₂_of_mapM_keyed` — a successful run over a list, item by
  item.
-/

namespace ApiAnnotator

variable {α β : Type} {a : α} {b : β} {ws : List Warning}

/-- The annotation succeeds with the given value and notes the given warnings. -/
def Yields (x : Annotating α) (a : α) (ws : List Warning) : Prop :=
  x.run.value = .ok a ∧ x.run.warnings = ws

theorem yields_pure_iff {a' : α} : Yields (pure a') a ws ↔ a' = a ∧ ws = [] := by
  simp [Yields, eq_comm]

/-- A composed annotation succeeds in two steps. -/
theorem yields_bind_iff {x : Annotating α} {f : α → Annotating β} :
    Yields (x >>= f) b ws ↔
      ∃ a ws₁ ws₂, Yields x a ws₁ ∧ Yields (f a) b ws₂ ∧ ws = ws₁ ++ ws₂ := by
  simp only [Yields, ExceptT.run_bind, Noted.value_bind, Noted.warnings_bind]
  cases x.run.value with
  | error e => simp
  | ok a => simp [eq_comm]

@[simp] theorem Noted.value_map (f : α → β) (x : Noted α) : (f <$> x).value = f x.value := rfl

@[simp] theorem Noted.warnings_map (f : α → β) (x : Noted α) :
    (f <$> x).warnings = x.warnings := by
  rw [map_eq_pure_bind, Noted.warnings_bind, Noted.warnings_pure, List.append_nil]

/-- A step that only notes warnings always succeeds. -/
theorem yields_noted_iff {x : Noted α} :
    Yields (liftM x : Annotating α) a ws ↔ x.value = a ∧ x.warnings = ws := by
  simp [Yields, liftM, monadLift, MonadLift.monadLift, ExceptT.run_lift]

/-- A step that can only fail notes nothing. -/
theorem yields_except_iff {x : Except UnmappedPackage α} :
    Yields (liftM x : Annotating α) a ws ↔ x = .ok a ∧ ws = [] := by
  simp [Yields, liftM, monadLift, MonadLift.monadLift, ExceptT.run_mk, eq_comm]

/-- The steps of an annotation that notes nothing. -/
theorem except_bind_eq_ok_iff {ε : Type} {x : Except ε α} {f : α → Except ε β} :
    x >>= f = .ok b ↔ ∃ a, x = .ok a ∧ f a = .ok b := by
  cases x <;> simp [bind, Except.bind]

/-- The first step with a problem gives the problem of all. -/
theorem except_bind_eq_error_iff {ε : Type} {x : Except ε α} {f : α → Except ε β} {e : ε} :
    x >>= f = .error e ↔ x = .error e ∨ ∃ a, x = .ok a ∧ f a = .error e := by
  cases x <;> simp [bind, Except.bind]

/-- A step whose value is changed afterwards succeeds exactly if the step does. -/
theorem except_map_eq_ok_iff {ε : Type} {x : Except ε α} {f : α → β} :
    f <$> x = .ok b ↔ ∃ a, x = .ok a ∧ f a = b := by
  cases x <;> simp [Functor.map, Except.map]

/-- A step whose value is changed afterwards has the problem that it has before. -/
theorem except_map_eq_error_iff {ε : Type} {x : Except ε α} {f : α → β} {e : ε} :
    f <$> x = .error e ↔ x = .error e := by
  cases x <;> simp [Functor.map, Except.map]

/-- A step succeeds as before if its problem is put differently. -/
theorem except_mapError_eq_ok_iff {ε ε' : Type} {x : Except ε α} {f : ε → ε'} :
    x.mapError f = .ok a ↔ x = .ok a := by
  cases x <;> simp [Except.mapError]

/-- A problem that is put differently is there exactly if the problem is. -/
theorem except_mapError_eq_error_iff {ε ε' : Type} {x : Except ε α} {f : ε → ε'} {e : ε'} :
    x.mapError f = .error e ↔ ∃ problem, x = .error problem ∧ f problem = e := by
  cases x <;> simp [Except.mapError]

/-- A run over a list that notes nothing succeeds exactly if it does so for every item. -/
theorem except_mapM_eq_ok_iff {ε : Type} {f : α → Except ε β} {xs : List α} {ys : List β} :
    xs.mapM f = .ok ys ↔ List.Forall₂ (fun x y => f x = .ok y) xs ys := by
  induction xs generalizing ys with
  | nil => simp [pure, Except.pure, eq_comm]
  | cons x xs ih =>
      simp only [List.mapM_cons, except_bind_eq_ok_iff, ih, pure, Except.pure, Except.ok.injEq,
        List.forall₂_cons_left_iff]
      constructor
      · rintro ⟨y, hy, ys', hys, rfl⟩
        exact ⟨y, ys', hy, hys, rfl⟩
      · rintro ⟨y, ys', hy, hys, rfl⟩
        exact ⟨y, hy, ys', hys, rfl⟩

/-- A run over a list that notes nothing has the problem of the first item that has one. -/
theorem except_mapM_eq_error_iff {ε : Type} {f : α → Except ε β} {xs : List α} {e : ε} :
    xs.mapM f = .error e ↔ ∃ before x after, xs = before ++ x :: after ∧
      (∀ x' ∈ before, ∃ y, f x' = .ok y) ∧ f x = .error e := by
  induction xs with
  | nil => simp [pure, Except.pure]
  | cons x xs ih =>
      rw [List.mapM_cons, except_bind_eq_error_iff]
      constructor
      · rintro (hx | ⟨y, hy, hrest⟩)
        · exact ⟨[], x, xs, rfl, by simp, hx⟩
        · rcases except_bind_eq_error_iff.1 hrest with hxs | ⟨ys, -, hpure⟩
          · obtain ⟨before, x', after, rfl, hbefore, hx'⟩ := ih.1 hxs
            exact ⟨x :: before, x', after, rfl, List.forall_mem_cons.2 ⟨⟨y, hy⟩, hbefore⟩, hx'⟩
          · cases hpure
      · rintro ⟨before, x', after, hsplit, hbefore, hx'⟩
        cases before with
        | nil =>
            obtain ⟨rfl, rfl⟩ := List.cons.inj hsplit
            exact .inl hx'
        | cons first before =>
            obtain ⟨rfl, rfl⟩ := List.cons.inj hsplit
            obtain ⟨⟨y, hy⟩, hbefore⟩ := List.forall_mem_cons.1 hbefore
            refine .inr ⟨y, hy, except_bind_eq_error_iff.2 (.inl ?_)⟩
            exact ih.2 ⟨before, x', after, rfl, hbefore, hx'⟩

/-- What is in the second of two related lists is related to something in the first one. -/
theorem exists_mem_of_forall₂ {R : α → β → Prop} {xs : List α} {ys : List β}
    (h : List.Forall₂ R xs ys) {y : β} (hy : y ∈ ys) : ∃ x ∈ xs, R x y := by
  induction h with
  | nil => simp at hy
  | cons hxy _ ih =>
      rcases List.mem_cons.1 hy with rfl | hy
      · exact ⟨_, List.mem_cons_self, hxy⟩
      · obtain ⟨x, hx, hxy⟩ := ih hy
        exact ⟨x, List.mem_cons_of_mem _ hx, hxy⟩

/-- A run over a list succeeds only if it does so for every item, and it notes what is noted for
each. -/
theorem Yields.forall₂_of_mapM {f : α → Annotating β} {xs : List α} {ys : List β}
    (h : Yields (xs.mapM f) ys ws) :
    List.Forall₂ (fun x y => ∃ ws' ⊆ ws, Yields (f x) y ws') xs ys := by
  induction xs generalizing ys ws with
  | nil =>
      rw [List.mapM_nil] at h
      obtain ⟨rfl, -⟩ := yields_pure_iff.1 h
      exact .nil
  | cons x xs ih =>
      rw [List.mapM_cons] at h
      obtain ⟨y, ws₁, ws₂, hx, hrest, rfl⟩ := yields_bind_iff.1 h
      obtain ⟨ys', ws₃, ws₄, hxs, hcons, rfl⟩ := yields_bind_iff.1 hrest
      obtain ⟨rfl, rfl⟩ := yields_pure_iff.1 hcons
      refine .cons ⟨ws₁, by simp, hx⟩ ((ih hxs).imp ?_)
      rintro x' y' ⟨ws', hsub, hx'⟩
      exact ⟨ws', fun w hw => by simp [hsub hw], hx'⟩

/-- The same for a run that puts each result under the key of its item. -/
theorem Yields.forall₂_of_mapM_keyed {key : α → String} {f : α → Annotating β} {xs : List α}
    {entries : List (String × β)}
    (h : Yields (xs.mapM fun x => do return (key x, ← f x)) entries ws) :
    List.Forall₂ (fun x entry => entry.1 = key x ∧ ∃ ws' ⊆ ws, Yields (f x) entry.2 ws')
      xs entries := by
  refine h.forall₂_of_mapM.imp ?_
  rintro x entry ⟨ws', hsub, hx⟩
  obtain ⟨y, ws₁, ws₂, hy, hpair, rfl⟩ := yields_bind_iff.1 hx
  obtain ⟨rfl, rfl⟩ := yields_pure_iff.1 hpair
  exact ⟨rfl, ws₁, fun w hw => hsub (by simp [hw]), hy⟩

end ApiAnnotator
