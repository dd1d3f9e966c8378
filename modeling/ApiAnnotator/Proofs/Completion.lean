import ApiAnnotator.Proofs.Pass
import ApiAnnotator.Text.Spellings

/-!
# What stops a pass

A name is made for every type that is declared or referred to, and that is the only step of a pass
that can fail: it needs the module that the package of the type lives in. So whatever stops a pass
is a type of a foreign package that no crate is known for, and where there is no such type, nothing
does, however little of the rest of the API makes sense. A type that gets a name of its own in such
a package always stops the pass. A map entry gets none, so it does so only if something refers to
it.

## Main definitions

* `StopsOnlyAt x P` — whatever stops the annotation `x` satisfies `P`.
* `Api.HasModule` — a package is the API's own or lives in a known crate.
* `Api.IsUnmapped` — a package is neither, said by the sources of the crates.
* `Api.HasProblem` — a problem is about a type of an unmapped package.

## Main statements

* `hasProblem_of_annotate_eq_error` — a pass is stopped by problems of the API alone.
* `exists_annotate_eq_ok` — **a pass over packages with modules gives a result**.
* `annotate_stops_exactly_at_unmapped` — **a pass stops exactly at unmapped packages**.
-/

namespace ApiAnnotator

/-- Whatever stops the annotation satisfies the predicate. -/
def StopsOnlyAt {α : Type} (x : Annotating α) (P : UnmappedPackage → Prop) : Prop :=
  ∀ e, x.run.value = .error e → P e

section StopsOnlyAt

variable {α β : Type} {P : UnmappedPackage → Prop}

theorem stopsOnlyAt_pure (a : α) : StopsOnlyAt (pure a) P := by
  intro e h
  cases h

theorem stopsOnlyAt_noted (x : Noted α) : StopsOnlyAt (liftM x : Annotating α) P := by
  intro e h
  simp [liftM, monadLift, MonadLift.monadLift, ExceptT.run_lift] at h

theorem stopsOnlyAt_except {x : Except UnmappedPackage α} (h : ∀ e, x = .error e → P e) :
    StopsOnlyAt (liftM x : Annotating α) P := by
  intro e he
  refine h e ?_
  simpa [liftM, monadLift, MonadLift.monadLift, ExceptT.run_mk] using he

theorem StopsOnlyAt.bind {x : Annotating α} {f : α → Annotating β} (hx : StopsOnlyAt x P)
    (hf : ∀ a, StopsOnlyAt (f a) P) : StopsOnlyAt (x >>= f) P := by
  intro e he
  rw [ExceptT.run_bind, Noted.value_bind] at he
  cases hvalue : x.run.value with
  | error e' =>
      rw [hvalue] at he
      obtain rfl : e' = e := Except.error.inj he
      exact hx e' hvalue
  | ok a =>
      rw [hvalue] at he
      exact hf a e he

theorem stopsOnlyAt_mapM {f : α → Annotating β} {xs : List α}
    (h : ∀ x ∈ xs, StopsOnlyAt (f x) P) : StopsOnlyAt (xs.mapM f) P := by
  induction xs with
  | nil => exact stopsOnlyAt_pure []
  | cons x xs ih =>
      rw [List.mapM_cons]
      refine (h x List.mem_cons_self).bind fun y => ?_
      exact (ih fun x' hx' => h x' (List.mem_cons_of_mem x hx')).bind fun ys => stopsOnlyAt_pure _

/-- A step whose value is only put together with others fails as the step does. -/
theorem except_bind_pure_eq_error {ε : Type} {x : Except ε α} {f : α → β} {e : ε}
    (h : (do return f (← x)) = .error e) : x = .error e := by
  cases x with
  | error e' => exact congrArg Except.error (Except.error.inj h)
  | ok a => cases h

end StopsOnlyAt

/-! ## Unmapped packages -/

namespace Api

/-- A package is the API's own, or a crate is known that it lives in. -/
def HasModule (api : Api) (options : Options) (package : String) : Prop :=
  api.isOwn package = true ∨
    (options.externPackage? (Options.packageSource package)).isSome = true

/-- A package is foreign, and it is the source of no known crate. -/
def IsUnmapped (api : Api) (options : Options) (package : String) : Prop :=
  package ≠ api.packageName ∧
    ∀ external ∈ options.externPackages, Options.packageSource package ∉ external.sources

/-- All messages, map entries included, and all enums. -/
def allTypes (api : Api) : List DeclaredType :=
  api.messages.map .ofMessage ++ api.enums.map .ofEnum

/-- The problem is about a type of an unmapped package. -/
def HasProblem (api : Api) (options : Options) (e : UnmappedPackage) : Prop :=
  ∃ d ∈ api.allTypes, d.id = e.referencedBy ∧ Options.packageSource d.package = e.package ∧
    api.IsUnmapped options d.package

variable {api : Api} {options : Options}

theorem not_hasModule_iff {package : String} :
    ¬ api.HasModule options package ↔ api.IsUnmapped options package := by
  simp [HasModule, IsUnmapped, isOwn, Options.externPackage?]

theorem ofMessage_mem_allTypes {m : Message} (hm : m ∈ api.messages) :
    .ofMessage m ∈ api.allTypes :=
  List.mem_append_left _ (List.mem_map_of_mem hm)

theorem ofEnum_mem_allTypes {e : Enum} (he : e ∈ api.enums) : .ofEnum e ∈ api.allTypes :=
  List.mem_append_right _ (List.mem_map_of_mem he)

end Api

/-! ## What stops a step -/

namespace Lexicon

variable {lx : Lexicon}

/-- A package without a module is a problem, and there is no other one. -/
theorem rootModule_eq_error_iff {package id : String} {e : UnmappedPackage} :
    lx.rootModule package id = .error e ↔
      ¬ lx.api.HasModule lx.options package ∧ e = ⟨Options.packageSource package, id⟩ := by
  unfold rootModule Api.HasModule
  by_cases hown : lx.api.isOwn package = true
  · simp [hown]
  · cases hexternal : lx.options.externPackage? (Options.packageSource package) with
    | some external => simp [hown, hexternal]
    | none => simp [hown, hexternal, eq_comm]

variable [Speller]

/-- A type cannot be named exactly if its package has no module. -/
theorem qualify_eq_error_iff {d : DeclaredType} {e : UnmappedPackage} :
    lx.qualify d = .error e ↔
      ¬ lx.api.HasModule lx.options d.package ∧ e = ⟨Options.packageSource d.package, d.id⟩ := by
  rw [← rootModule_eq_error_iff]
  unfold qualify
  cases lx.rootModule d.package d.id with
  | error problem => simp [bind, Except.bind]
  | ok root => simp [bind, Except.bind, pure, Except.pure]

theorem exists_qualify_eq_ok {d : DeclaredType} (h : lx.api.HasModule lx.options d.package) :
    ∃ names, lx.qualify d = .ok names := by
  cases hnames : lx.qualify d with
  | ok names => exact ⟨names, rfl⟩
  | error e => exact absurd h (qualify_eq_error_iff.1 hnames).1

theorem hasProblem_of_qualify {d : DeclaredType} {e : UnmappedPackage} (hd : d ∈ lx.api.allTypes)
    (h : lx.qualify d = .error e) : lx.api.HasProblem lx.options e := by
  obtain ⟨hmodule, rfl⟩ := qualify_eq_error_iff.1 h
  exact ⟨d, hd, rfl, rfl, Api.not_hasModule_iff.1 hmodule⟩

theorem hasProblem_of_ofMessage {m : Message} {e : UnmappedPackage} (hm : m ∈ lx.api.messages)
    (h : lx.ofMessage m = .error e) : lx.api.HasProblem lx.options e :=
  hasProblem_of_qualify (Api.ofMessage_mem_allTypes hm) h

theorem hasProblem_of_ofEnum {enum : Enum} {e : UnmappedPackage} (he : enum ∈ lx.api.enums)
    (h : lx.ofEnum enum = .error e) : lx.api.HasProblem lx.options e :=
  hasProblem_of_qualify (Api.ofEnum_mem_allTypes he) h

/-- An ID that nothing is declared with is no problem, and any other is one only if it is one to
name what it refers to. -/
theorem hasProblem_of_ofId {id : String} {e : UnmappedPackage} (h : lx.ofId id = .error e) :
    lx.api.HasProblem lx.options e := by
  unfold ofId at h
  cases hm : lx.api.message? id with
  | some m =>
      rw [hm] at h
      exact hasProblem_of_ofMessage (Api.of_message?_eq_some hm).1 (except_bind_pure_eq_error h)
  | none =>
      cases he : lx.api.enum? id with
      | none => simp [hm, he] at h
      | some enum =>
          rw [hm, he] at h
          exact hasProblem_of_ofEnum (of_lastWith?_eq_some he).1 (except_bind_pure_eq_error h)

variable (lx) in
/-- Whatever stops the annotation is a problem of the API. -/
def StopsAtProblems {α : Type} (x : Annotating α) : Prop :=
  StopsOnlyAt x (lx.api.HasProblem lx.options)

theorem stopsAtProblems_typeOf (id referencedBy : String) :
    lx.StopsAtProblems (lx.typeOf id referencedBy) := by
  unfold typeOf
  refine (stopsOnlyAt_except fun e => hasProblem_of_ofId).bind fun names? => ?_
  cases names? with
  | some names => exact stopsOnlyAt_pure _
  | none => exact (stopsOnlyAt_noted _).bind fun _ => stopsOnlyAt_pure _

theorem stopsAtProblems_elementType (f : Field) (referencedBy : String) :
    lx.StopsAtProblems (lx.elementType f referencedBy) := by
  unfold elementType
  cases f.kind.scalarType? with
  | some scalar => exact stopsOnlyAt_pure _
  | none => exact stopsAtProblems_typeOf _ _

theorem stopsAtProblems_mapType (f : Field) : lx.StopsAtProblems (lx.mapType f) := by
  unfold mapType
  cases lx.api.mapKey? f.typeRef with
  | none => exact (stopsOnlyAt_noted _).bind fun _ => stopsOnlyAt_pure _
  | some key =>
      cases lx.api.mapValue? f.typeRef with
      | none => exact (stopsOnlyAt_noted _).bind fun _ => stopsOnlyAt_pure _
      | some value =>
          refine (stopsAtProblems_elementType key f.id).bind fun _ => ?_
          exact (stopsAtProblems_elementType value f.id).bind fun _ => stopsOnlyAt_pure _

theorem stopsAtProblems_fieldType (boxed : Bool) (f : Field) :
    lx.StopsAtProblems (lx.fieldType boxed f) := by
  unfold fieldType
  by_cases hmap : f.map = true
  · rw [if_pos hmap]
    exact (stopsAtProblems_mapType f).bind fun _ => stopsOnlyAt_pure _
  · rw [if_neg hmap]
    exact (stopsAtProblems_elementType f f.id).bind fun _ => stopsOnlyAt_pure _

theorem stopsAtProblems_annotateMessage {m : Message} (hm : m ∈ lx.api.messages) :
    lx.StopsAtProblems (lx.annotateMessage m) := by
  refine (stopsOnlyAt_except fun e => hasProblem_of_ofMessage hm).bind fun names => ?_
  refine (stopsOnlyAt_mapM fun f _ => ?_).bind fun fields => stopsOnlyAt_pure _
  refine StopsOnlyAt.bind ?_ fun _ => stopsOnlyAt_pure _
  exact (stopsAtProblems_fieldType _ f).bind fun _ => stopsOnlyAt_pure _

theorem stopsAtProblems_callType (known : KnownTypes) (id methodId : String) :
    lx.StopsAtProblems (lx.callType known id methodId) := by
  unfold callType
  cases known.name? id with
  | some name => exact stopsOnlyAt_pure _
  | none => exact stopsAtProblems_typeOf _ _

theorem stopsAtProblems_returnType (known : KnownTypes) (m : Method) :
    lx.StopsAtProblems (lx.returnType known m) := by
  unfold returnType
  by_cases hempty : m.outputTypeId = emptyMessageId
  · rw [if_pos hempty]
    exact stopsOnlyAt_pure _
  · rw [if_neg hempty]
    exact stopsAtProblems_callType known _ _

theorem stopsAtProblems_annotateService (known : KnownTypes) (r : RetainedService) :
    lx.StopsAtProblems (lx.annotateService known r) := by
  refine (stopsOnlyAt_mapM fun m _ => ?_).bind fun methods => stopsOnlyAt_pure _
  refine StopsOnlyAt.bind ?_ fun _ => stopsOnlyAt_pure _
  refine (stopsAtProblems_callType known _ _).bind fun _ => ?_
  refine (stopsAtProblems_returnType known m).bind fun _ => ?_
  exact (stopsOnlyAt_noted _).bind fun _ => stopsOnlyAt_pure _

theorem stopsAtProblems_drafts (retained : List RetainedService) :
    lx.StopsAtProblems (lx.drafts retained) := by
  have hmessage : ∀ {p : Message → Bool} {m}, m ∈ lx.api.structs.filter p → m ∈ lx.api.messages :=
    fun hm => Api.mem_messages_of_mem_structs (List.mem_filter.1 hm).1
  refine (stopsOnlyAt_mapM fun e he => ?_).bind fun ownEnums => ?_
  · refine (stopsOnlyAt_except fun problem h => ?_).bind fun _ => stopsOnlyAt_pure _
    exact hasProblem_of_ofEnum (List.mem_filter.1 he).1 (except_bind_pure_eq_error h)
  refine (stopsOnlyAt_mapM fun m hm => ?_).bind fun ownMessages => ?_
  · exact (stopsAtProblems_annotateMessage (hmessage hm)).bind fun _ => stopsOnlyAt_pure _
  refine (stopsOnlyAt_mapM fun r _ => ?_).bind fun services => ?_
  · exact (stopsAtProblems_annotateService _ r).bind fun _ => stopsOnlyAt_pure _
  refine (stopsOnlyAt_noted _).bind fun _ => ?_
  refine (stopsOnlyAt_mapM fun e he => ?_).bind fun otherEnums => ?_
  · refine (stopsOnlyAt_except fun problem h => ?_).bind fun _ => stopsOnlyAt_pure _
    exact hasProblem_of_ofEnum (List.mem_filter.1 he).1 (except_bind_pure_eq_error h)
  refine (stopsOnlyAt_mapM fun m hm => ?_).bind fun otherMessages => stopsOnlyAt_pure _
  refine (stopsOnlyAt_except fun problem h => ?_).bind fun _ => stopsOnlyAt_pure _
  exact hasProblem_of_ofMessage (hmessage hm) (except_bind_pure_eq_error h)

end Lexicon

/-! ## What stops a pass -/

section Pass

variable [Speller] {api : Api} {options : Options}

/-- A pass is stopped by problems of the API alone. -/
theorem hasProblem_of_annotate_eq_error {e : UnmappedPackage}
    (h : annotate api options = .error e) : api.HasProblem options e := by
  have hdrafts := (Lexicon.of api options).stopsAtProblems_drafts (api.retained options)
  unfold annotate at h
  cases hvalue : ((Lexicon.of api options).drafts (api.retained options)).run.value with
  | ok d => simp [hvalue, Except.map] at h
  | error problem =>
      simp only [hvalue, Except.map, Except.error.injEq] at h
      exact h ▸ hdrafts problem hvalue

/-- A pass over types none of which is in an unmapped package gives a result. -/
theorem exists_annotate_eq_ok_of_forall
    (hmapped : ∀ d ∈ api.allTypes, ¬ api.IsUnmapped options d.package) :
    ∃ result, annotate api options = .ok result := by
  cases h : annotate api options with
  | ok result => exact ⟨result, rfl⟩
  | error e =>
      obtain ⟨d, hd, -, -, hunmapped⟩ := hasProblem_of_annotate_eq_error h
      exact absurd hunmapped (hmapped d hd)

/-- **A pass over packages with modules gives a result.** -/
theorem exists_annotate_eq_ok (hmessages : ∀ m ∈ api.messages, api.HasModule options m.package)
    (henums : ∀ e ∈ api.enums, api.HasModule options e.package) :
    ∃ result, annotate api options = .ok result := by
  refine exists_annotate_eq_ok_of_forall fun d hd hunmapped => ?_
  rw [Api.allTypes, List.mem_append, List.mem_map, List.mem_map] at hd
  rcases hd with ⟨m, hm, rfl⟩ | ⟨e, he, rfl⟩
  · exact Api.not_hasModule_iff.2 hunmapped (hmessages m hm)
  · exact Api.not_hasModule_iff.2 hunmapped (henums e he)

/-- A declared type of an unmapped package stops the pass, as no name can be made for it. -/
theorem exists_annotate_eq_error {d : DeclaredType} (hd : d ∈ api.declaredTypes)
    (hunmapped : api.IsUnmapped options d.package) : ∃ e, annotate api options = .error e := by
  cases h : annotate api options with
  | error e => exact ⟨e, rfl⟩
  | ok result =>
      obtain ⟨names, hnames⟩ := exists_names_of_annotate h hd
      have herror : (Lexicon.of api options).qualify d =
          .error ⟨Options.packageSource d.package, d.id⟩ :=
        Lexicon.qualify_eq_error_iff.2 ⟨Api.not_hasModule_iff.2 hunmapped, rfl⟩
      cases hnames.symm.trans herror

/-- **A pass stops exactly at unmapped packages.** If no type is in an unmapped package, the pass
gives a result, whatever else the API holds. If a type that gets a name of its own is in one, the
pass gives a problem. And whenever it gives a problem, that names the package of a type with the ID
that the problem is used by, without leading dots, and that package is unmapped. -/
theorem annotate_stops_exactly_at_unmapped (api : Api) (options : Options) :
    ((∀ d ∈ api.allTypes, ¬ api.IsUnmapped options d.package) →
      ∃ result, annotate api options = .ok result) ∧
    ((∃ d ∈ api.declaredTypes, api.IsUnmapped options d.package) →
      ∃ e, annotate api options = .error e) ∧
    ∀ e, annotate api options = .error e →
      ∃ d ∈ api.allTypes, d.id = e.referencedBy ∧ Options.packageSource d.package = e.package ∧
        api.IsUnmapped options d.package := by
  refine ⟨exists_annotate_eq_ok_of_forall, ?_, fun e h => hasProblem_of_annotate_eq_error h⟩
  rintro ⟨d, hd, hunmapped⟩
  exact exists_annotate_eq_error hd hunmapped

end Pass

/-- An enum of a foreign package stops the pass until a crate is known for the package. The parent
that is missing and the field of an unknown type do not. -/
theorem stopped_until_mapped :
    let gone : Field := { id := ".p.M.gone", kind := .message, typeId := some ".p.Gone" }
    let m : Message :=
      { id := ".p.M", package := "p", parent := some ".p.Missing", fields := [gone] }
    let e : Enum := { id := ".q.v1.E", package := ".q.v1" }
    let api : Api := { packageName := "p", messages := [m], enums := [e] }
    let options : Options := { externPackages := [⟨"q", "q-v1", ["q.v1"], none⟩] }
    annotate api {} = .error ⟨"q.v1", ".q.v1.E"⟩ ∧ ∃ result, annotate api options = .ok result := by
  intro gone m e api options
  have htypes : api.allTypes = [.ofMessage m, .ofEnum e] := rfl
  have hsource : Options.packageSource ".q.v1" = "q.v1" := by decide
  have hother : ".q.v1" ≠ "p" := by decide
  refine ⟨?_, ?_⟩
  · obtain ⟨-, hstops, hproblem⟩ := annotate_stops_exactly_at_unmapped api {}
    obtain ⟨problem, h⟩ := hstops ⟨.ofEnum e, by simp [api, Api.declaredTypes], by
      simp [Api.IsUnmapped, DeclaredType.ofEnum, api, e, hother]⟩
    obtain ⟨d, hd, hid, hpackage, hunmapped⟩ := hproblem problem h
    rw [htypes, List.mem_cons, List.mem_singleton] at hd
    rcases hd with rfl | rfl
    · simp [Api.IsUnmapped, DeclaredType.ofMessage, api, m] at hunmapped
    · rw [h, ← hsource]
      exact congrArg Except.error (congrArg₂ UnmappedPackage.mk hpackage.symm hid.symm)
  · obtain ⟨hcompletes, -, -⟩ := annotate_stops_exactly_at_unmapped api options
    refine hcompletes ?_
    simp [htypes, Api.IsUnmapped, DeclaredType.ofMessage, DeclaredType.ofEnum, api, options, m, e,
      hsource]

end ApiAnnotator
