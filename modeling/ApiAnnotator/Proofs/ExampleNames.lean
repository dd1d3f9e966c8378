import ApiAnnotator.Proofs.Completion
import ApiAnnotator.Proofs.JoinedParts
import ApiAnnotator.Proofs.Paths
import ApiAnnotator.Text.Spellings

/-!
# Example names

Code inside of the crate refers to a type by its qualified name, which stands below the configured
module path. For code outside of the crate a first part `crate` gives way to the namespace of the
crate, and any other path goes below this namespace.

Example names are made for such code, but they take the five letters `crate` away wherever the
module path starts with them, also where they are the start of a longer part. So they are the paths
for code outside of the crate for every module path that does not start with these letters or has
them as its first part, and for no other.

## Main definitions

* `firstPart` — what stands before the first `::` of a path.
* `outsidePath` — the path of a type for code outside of the crate.

## Main statements

* `firstPart_eq_iff` — a path has a part as its first one if it is this part or goes on with `::`.
* `Lexicon.qualified_eq_inModule_relative` — a qualified name is the module path and the relative
  name.
* `example_follows_qualified_iff` — **where an example name is the path for code outside of the
  crate**.
-/

namespace ApiAnnotator

/-! ## First parts -/

/-- The colons between two parts of a path. -/
def colons : List Char :=
  [':', ':']

/-- What stands before the first `::`, or everything. -/
def firstPart : List Char → List Char
  | [] => []
  | c :: rest => if colons <+: c :: rest then [] else c :: firstPart rest

/-- The path of a type for code outside of the crate: the namespace of the crate stands for a first
part `crate`, and before any other path. -/
def outsidePath (namespaceName path : String) : String :=
  let first := firstPart path.toList
  if String.ofList first = "crate" then
    namespaceName ++ String.ofList (path.toList.drop first.length)
  else inModule namespaceName path

/-- A path has a part as its first one if it is this part or goes on with `::`. -/
theorem firstPart_eq_iff {part path : List Char} (hpart : ':' ∉ part) :
    firstPart path = part ↔ path = part ∨ part ++ colons <+: path := by
  induction path generalizing part with
  | nil => simp [firstPart, colons]
  | cons c rest ih =>
      rw [firstPart]
      cases part with
      | nil => simp
      | cons d part =>
          rw [List.mem_cons, not_or] at hpart
          rw [List.cons_append, List.cons_prefix_cons, List.cons.injEq]
          by_cases hcut : colons <+: c :: rest
          · obtain rfl : ':' = c := (List.cons_prefix_cons.1 hcut).1
            simp [hcut, hpart.1, Ne.symm hpart.1]
          · rw [if_neg hcut, List.cons.injEq, ih hpart.2, eq_comm (a := d), ← and_or_left]

/-- The first part of a path in a module is that of the module. -/
theorem firstPart_append (module rest : List Char) :
    firstPart (module ++ (colons ++ rest)) = firstPart (module ++ colons) := by
  induction module with
  | nil => simp [firstPart, colons]
  | cons c module ih =>
      have hcut : colons <+: c :: (module ++ (colons ++ rest)) ↔
          colons <+: c :: (module ++ colons) := by
        cases module <;> simp [colons]
      simp only [List.cons_append, firstPart, hcut, ih]

/-- The first part of a path in a module starts the module. -/
theorem prefix_of_firstPart_eq {module part : List Char} (hpart : ':' ∉ part)
    (h : firstPart (module ++ colons) = part) : part <+: module := by
  have hprefix : part <+: module ++ colons := by
    rcases (firstPart_eq_iff hpart).1 h with heq | hlead
    · exact heq ▸ List.prefix_rfl
    · exact (List.prefix_append part colons).trans hlead
  rcases List.prefix_or_prefix_of_prefix hprefix (List.prefix_append module colons) with
    hle | ⟨after, rfl⟩
  · exact hle
  · cases after with
    | nil => simp
    | cons c after =>
        -- the part would go on with the colon behind the module
        rw [List.prefix_append_right_inj] at hprefix
        obtain rfl := (List.cons_prefix_cons.1 hprefix).1
        exact absurd (by simp) hpart

/-! ## Paths for code outside of the crate -/

variable {namespaceName module rest relative : String}

theorem inModule_assoc (outer module name : String) :
    inModule (inModule outer module) name = inModule outer (inModule module name) := by
  rw [← String.toList_inj]
  simp [toList_inModule]

theorem firstPart_inModule (module name : String) :
    firstPart (inModule module name).toList = firstPart (module.toList ++ colons) := by
  rw [← firstPart_append module.toList name.toList, toList_inModule]
  rfl

/-- The namespace of the crate stands for a first part `crate`. -/
theorem outsidePath_of_crate (hmodule : module = "crate" ++ rest)
    (hfirst : firstPart (module.toList ++ colons) = "crate".toList) :
    outsidePath namespaceName (inModule module relative) =
      inModule (namespaceName ++ rest) relative := by
  rw [← firstPart_inModule module relative] at hfirst
  rw [outsidePath, hfirst, if_pos String.ofList_toList, ← String.toList_inj]
  simp [toList_inModule, hmodule]

/-- Any other path goes below the namespace of the crate. -/
theorem outsidePath_of_ne (hfirst : firstPart (module.toList ++ colons) ≠ "crate".toList) :
    outsidePath namespaceName (inModule module relative) =
      inModule namespaceName (inModule module relative) := by
  rw [← firstPart_inModule module relative] at hfirst
  rw [outsidePath, if_neg]
  rwa [← String.toList_inj, String.toList_ofList]

namespace Lexicon

variable {lx : Lexicon} {d : DeclaredType} {names : QualifiedName}

theorem relativeName_inModule (path : String) :
    lx.relativeName (inModule lx.options.modulePath path) = path := by
  rw [relativeName, inModule, Text.afterPrefix?_append, Option.getD_some]

/-- The other names of a type of the API's own package are made of the qualified one. -/
theorem relative_of_qualify_eq_ok [Speller] (hown : lx.api.isOwn d.package = true)
    (h : lx.qualify d = .ok names) : names.relative = lx.relativeName names.qualified ∧
      names.exampleName = lx.ownExample names.relative := by
  unfold qualify at h
  obtain ⟨root, -, hnames⟩ := except_bind_eq_ok_iff.1 h
  obtain rfl := Except.ok.inj hnames
  exact ⟨rfl, if_pos hown⟩

/-- The qualified name of a type of the API's own package is the configured module path and the
relative name. -/
theorem qualified_eq_inModule_relative [Speller] (hown : lx.api.isOwn d.package = true)
    (h : lx.qualify d = .ok names) :
    names.qualified = inModule lx.options.modulePath names.relative := by
  have hbelow : ∃ path, names.qualified = inModule lx.options.modulePath path := by
    rw [qualified_eq_pathOf hown h]
    cases lx.modulesAround d.parent with
    | nil => exact ⟨_, pathOf_cons _ _ _⟩
    | cons part parts => exact ⟨_, pathOf_cons _ _ _⟩
  obtain ⟨path, hpath⟩ := hbelow
  rw [(relative_of_qualify_eq_ok hown h).1, hpath, relativeName_inModule]

theorem ownExample_of_crate (hmodule : lx.options.modulePath = "crate" ++ rest) :
    lx.ownExample relative = inModule (lx.crateNamespace ++ rest) relative := by
  rw [ownExample, hmodule, Text.afterPrefix?_append]

/-- An example name is the path for code outside of the crate if the module path does not start with
the letters of `crate` or has them as its first part. -/
theorem ownExample_eq_outsidePath_iff :
    lx.ownExample relative =
        outsidePath lx.crateNamespace (inModule lx.options.modulePath relative) ↔
      ∀ rest, lx.options.modulePath = "crate" ++ rest →
        firstPart (lx.options.modulePath.toList ++ colons) = "crate".toList := by
  by_cases hfirst : firstPart (lx.options.modulePath.toList ++ colons) = "crate".toList
  · obtain ⟨rest, hrest⟩ := prefix_of_firstPart_eq (by decide) hfirst
    have hmodule : lx.options.modulePath = "crate" ++ String.ofList rest :=
      String.toList_inj.1 (by simpa using hrest.symm)
    rw [ownExample_of_crate hmodule, outsidePath_of_crate hmodule hfirst]
    exact iff_of_true rfl fun _ _ => hfirst
  · rw [outsidePath_of_ne hfirst]
    cases hlead : Text.afterPrefix? "crate" lx.options.modulePath with
    | none =>
        rw [ownExample, hlead]
        refine iff_of_true (inModule_assoc _ _ _) fun rest hmodule => ?_
        rw [hmodule, Text.afterPrefix?_append] at hlead
        cases hlead
    | some rest =>
        have hmodule := Text.afterPrefix?_eq_some_iff.1 hlead
        rw [ownExample_of_crate hmodule]
        refine iff_of_false (fun heq => ?_) fun hall => hfirst (hall rest hmodule)
        -- the other path keeps the five letters
        have hlength := congrArg (·.toList.length) heq
        simp [toList_inModule, hmodule] at hlength
        omega

end Lexicon

/-- **Where an example name is the path for code outside of the crate.** A type of the API's own
package has a qualified name, which is the module path and the relative name. Its example name is
the qualified name for code outside of the crate exactly if the module path does not start with the
letters of `crate` or has them as its first part; where they start a longer part, only they give way
to the namespace of the crate. -/
theorem example_follows_qualified_iff [Speller] (api : Api) (options : Options) (d : DeclaredType)
    (hown : api.isOwn d.package = true) :
    ∃ names, (Lexicon.of api options).qualify d = .ok names ∧
      names.qualified = inModule options.modulePath names.relative ∧
      (names.exampleName =
          outsidePath (Lexicon.of api options).crateNamespace names.qualified ↔
        ∀ rest, options.modulePath = "crate" ++ rest →
          firstPart (options.modulePath.toList ++ colons) = "crate".toList) ∧
      ∀ rest, options.modulePath = "crate" ++ rest → names.exampleName =
        inModule ((Lexicon.of api options).crateNamespace ++ rest) names.relative := by
  obtain ⟨names, h⟩ := @Lexicon.exists_qualify_eq_ok (Lexicon.of api options) _ d (.inl hown)
  have hqualified := Lexicon.qualified_eq_inModule_relative hown h
  have hexample := (Lexicon.relative_of_qualify_eq_ok hown h).2
  refine ⟨names, h, hqualified, ?_, fun rest hmodule => ?_⟩
  · rw [hexample, hqualified]
    exact Lexicon.ownExample_eq_outsidePath_iff
  · rw [hexample]
    exact Lexicon.ownExample_of_crate hmodule

/-- Below `crates::model` the letters of `crate` are taken out of a longer part. -/
theorem example_of_longer_part :
    let x : Message := { id := ".p.X", name := "X", package := "p" }
    let lx := Lexicon.of { packageName := "p", messages := [x] } { modulePath := "crates::model" }
    ∃ names, lx.ofMessage x = .ok names ∧ names.qualified = "crates::model::X" ∧
      names.exampleName = "ps::model::X" ∧
      outsidePath lx.crateNamespace names.qualified = "p::crates::model::X" := by
  intro x lx
  obtain ⟨names, h, hqualified, -, hexample⟩ :=
    example_follows_qualified_iff lx.api lx.options (.ofMessage x) (by decide)
  have hname : lx.targetName x.id x.name = "X" := by decide
  have houtermost : lx.modulesAround none = [] := by
    simp [Lexicon.modulesAround, Api.enclosing, Api.outwards]
  have hpath : names.qualified = "crates::model::X" :=
    calc names.qualified
      _ = pathOf "crates::model" (lx.modulesAround none ++ [lx.targetName x.id x.name]) :=
        Lexicon.qualified_eq_pathOf (by decide) h
      _ = inModule "crates::model" "X" := by rw [houtermost, hname, List.nil_append]; rfl
      _ = "crates::model::X" := by decide
  have hrelative : names.relative = "X" := by
    rw [(Lexicon.relative_of_qualify_eq_ok (by decide) h).1, hpath]
    decide
  refine ⟨names, h, hpath, ?_, ?_⟩
  · rw [hexample "s::model" (by decide), hrelative]
    decide
  · rw [hpath]
    decide

end ApiAnnotator
