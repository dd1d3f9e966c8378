import ApiAnnotator.Naming.Lexicon
import Mathlib.Data.List.Basic

/-!
# Paths and their parts

The qualified name of a type is a path: a root module followed by a module for each message around
the type and by the target name. Where no part contains a colon, a path below a known root can be
taken apart again, so two paths are the same only if all of their parts are.

## Main definitions

* `IsPart` — a text without colons.
* `pathOf` — the path of some parts below a root.

## Main statements

* `pathOf_injective` — **a path below a root determines its parts**.
* `Lexicon.of_qualify_eq_ok`, `Lexicon.modulePath_eq_pathOf`, `Lexicon.qualified_eq_pathOf` — the
  names of a type as paths.
-/

namespace ApiAnnotator

/-- A text that can be a part of a path. -/
def IsPart (part : String) : Prop :=
  ':' ∉ part.toList

/-- The path of the given parts below a root. -/
def pathOf (root : String) (parts : List String) : String :=
  parts.foldl inModule root

@[simp] theorem pathOf_nil (root : String) : pathOf root [] = root := rfl

theorem pathOf_append_singleton (root : String) (parts : List String) (part : String) :
    pathOf root (parts ++ [part]) = inModule (pathOf root parts) part := by
  simp [pathOf]

theorem toList_inModule (module name : String) :
    (inModule module name).toList = module.toList ++ ':' :: ':' :: name.toList := by
  simp [inModule]

/-- A path in a module is no single part. -/
theorem not_isPart_inModule (module name : String) : ¬ IsPart (inModule module name) := by
  simp [IsPart, toList_inModule]

theorem toList_pathOf (root : String) (parts : List String) :
    (pathOf root parts).toList =
      root.toList ++ parts.flatMap fun part => ':' :: ':' :: part.toList := by
  induction parts generalizing root with
  | nil => simp
  | cons part parts ih =>
      have hstep : pathOf root (part :: parts) = pathOf (inModule root part) parts := rfl
      rw [hstep, ih, toList_inModule]
      simp

/-- A path below a root is in the module of the root. -/
theorem pathOf_cons (root part : String) (parts : List String) :
    pathOf root (part :: parts) = inModule root (pathOf part parts) := by
  rw [← String.toList_inj, toList_pathOf, toList_inModule, toList_pathOf]
  simp

/-- What stands before the first colon and what follows is determined by the whole text. -/
theorem append_inj_of_isPart {part part' : String} {rest rest' : List Char}
    (hpart : IsPart part) (hpart' : IsPart part')
    (hrest : ∀ c ∈ rest.head?, c = ':') (hrest' : ∀ c ∈ rest'.head?, c = ':')
    (h : part.toList ++ rest = part'.toList ++ rest') : part = part' ∧ rest = rest' := by
  have hcut : ∀ {part : String} {rest : List Char}, IsPart part → (∀ c ∈ rest.head?, c = ':') →
      (part.toList ++ rest).takeWhile (· ≠ ':') = part.toList := by
    intro part rest hpart hrest
    have hall : ∀ c ∈ part.toList, decide (c ≠ ':') = true := by
      intro c hc
      rw [decide_eq_true_iff]
      rintro rfl
      exact hpart hc
    rw [List.takeWhile_append_of_pos hall]
    cases rest with
    | nil => simp
    | cons c rest => simp [hrest c rfl]
  have hparts : part.toList = part'.toList := by
    rw [← hcut hpart hrest, h, hcut hpart' hrest']
  refine ⟨String.toList_inj.1 hparts, ?_⟩
  rw [hparts] at h
  exact List.append_cancel_left h

/-- **A path below a root determines its parts.** -/
theorem pathOf_injective {root : String} {parts parts' : List String}
    (hparts : ∀ part ∈ parts, IsPart part) (hparts' : ∀ part ∈ parts', IsPart part)
    (h : pathOf root parts = pathOf root parts') : parts = parts' := by
  have hlists := congrArg String.toList h
  rw [toList_pathOf, toList_pathOf] at hlists
  have hflat := List.append_cancel_left hlists
  clear h hlists
  induction parts generalizing parts' with
  | nil =>
      cases parts' with
      | nil => rfl
      | cons part' parts' => simp at hflat
  | cons part parts ih =>
      cases parts' with
      | nil => simp at hflat
      | cons part' parts' =>
          have hhead : ∀ parts : List String,
              ∀ c ∈ (parts.flatMap fun part => ':' :: ':' :: part.toList).head?, c = ':' := by
            intro parts
            cases parts <;> simp
          simp only [List.flatMap_cons, List.cons_append, List.cons.injEq, true_and] at hflat
          obtain ⟨rfl, hrest⟩ := append_inj_of_isPart (hparts part List.mem_cons_self)
            (hparts' part' List.mem_cons_self) (hhead parts) (hhead parts') hflat
          rw [ih (fun p hp => hparts p (List.mem_cons_of_mem part hp))
            (fun p hp => hparts' p (List.mem_cons_of_mem part hp)) hrest]

namespace Lexicon

variable [Speller] {lx : Lexicon}

/-- The modules around a type with the given parent, outermost first. -/
def modulesAround (lx : Lexicon) (parent : Option String) : List String :=
  (lx.api.enclosing parent).map lx.moduleName

theorem moduleBelow_eq_pathOf (root : String) (parent : Option String) :
    lx.moduleBelow root parent = pathOf root (lx.modulesAround parent) := by
  simp [moduleBelow, pathOf, modulesAround, List.foldl_map]

/-- The names of a type: the name in its module, the module, and the path of both. -/
theorem of_qualify_eq_ok {d : DeclaredType} {names : QualifiedName}
    (h : lx.qualify d = .ok names) :
    ∃ root, lx.rootModule d.package d.id = .ok root ∧ names.name = lx.targetName d.id d.name ∧
      names.modulePath = pathOf root (lx.modulesAround d.parent) ∧
      names.qualified = inModule names.modulePath names.name := by
  unfold qualify at h
  cases hroot : lx.rootModule d.package d.id with
  | error problem => simp [hroot, bind, Except.bind] at h
  | ok root =>
      simp only [hroot, bind, Except.bind, pure, Except.pure, Except.ok.injEq] at h
      subst h
      exact ⟨root, rfl, rfl, moduleBelow_eq_pathOf root d.parent, rfl⟩

/-- The module of a type of the API's own package is a path below the configured module. -/
theorem modulePath_eq_pathOf {d : DeclaredType} {names : QualifiedName}
    (hown : lx.api.isOwn d.package = true) (h : lx.qualify d = .ok names) :
    names.modulePath = pathOf lx.options.modulePath (lx.modulesAround d.parent) := by
  obtain ⟨root, hroot, -, hmodule, -⟩ := of_qualify_eq_ok h
  have hown : lx.rootModule d.package d.id = .ok lx.options.modulePath := if_pos hown
  obtain rfl : lx.options.modulePath = root := Except.ok.inj (hown.symm.trans hroot)
  exact hmodule

/-- The qualified name of a type of the API's own package is a path below the configured module. -/
theorem qualified_eq_pathOf {d : DeclaredType} {names : QualifiedName}
    (hown : lx.api.isOwn d.package = true) (h : lx.qualify d = .ok names) :
    names.qualified =
      pathOf lx.options.modulePath (lx.modulesAround d.parent ++ [lx.targetName d.id d.name]) := by
  obtain ⟨-, -, hname, -, hqualified⟩ := of_qualify_eq_ok h
  rw [hqualified, modulePath_eq_pathOf hown h, hname, pathOf_append_singleton]

end Lexicon

end ApiAnnotator
