import ApiAnnotator.Listing
import ApiAnnotator.Proofs.Accounting
import ApiAnnotator.Proofs.Alphabet
import ApiAnnotator.Text.Spellings

/-!
# Methods that are called by gRPC only

A pass and a listing each decide by themselves what cannot be called over HTTP. Both leave streams
out. Of the rest a pass asks for an HTTP rule and a listing for a binding, so they differ about the
methods whose rule has no binding: a pass annotates them, and a listing shows them as gRPC.

## Main definitions

* `Api.methods` — the methods of all services.
* `Method.IsUnbound` — an HTTP rule without a binding.

## Main statements

* `methodRoute_fst_eq_grpcOnly_iff` — what a listing shows as gRPC.
* `isGenerated_iff` — what a pass annotates unless it is asked for more.
* `annotated_grpc_only_iff` — **of what a pass annotates, a listing shows as gRPC what is unbound**.
-/

namespace ApiAnnotator

/-- The methods of all services. -/
def Api.methods (api : Api) : List Method :=
  api.services.flatMap (·.methods)

/-- The method has an HTTP rule, but the rule has no binding. -/
def Method.IsUnbound (m : Method) : Prop :=
  ∃ rule, m.http = some rule ∧ rule.bindings = []

/-- What is written in capitals is not the word for methods without a verb. -/
theorem toUpper_ne_grpcOnly (verb : String) : verb.toUpper ≠ grpcOnly := by
  intro h
  have hsmall : 'g' ∈ verb.toUpper.toList := by
    rw [h]
    decide
  obtain ⟨c, -, hc⟩ : ∃ c ∈ verb.toList, c.toUpper = 'g' := by
    simpa [String.toUpper] using hsmall
  have hupper := Identifier.isLower_toUpper c
  rw [hc] at hupper
  exact absurd hupper (by decide)

/-- A listing shows streams and methods without a binding as gRPC, and no others. -/
theorem methodRoute_fst_eq_grpcOnly_iff (m : Method) :
    (methodRoute m).1 = grpcOnly ↔ m.isStreaming = true ∨ m.bindings = [] := by
  unfold methodRoute
  cases hbindings : m.bindings with
  | nil => simp
  | cons b rest =>
      cases hstreaming : m.isStreaming with
      | true => simp
      | false => simpa using toUpper_ne_grpcOnly b.verb

/-- A method without a binding is unbound if it has an HTTP rule. -/
theorem Method.isUnbound_iff {m : Method} (hrule : m.http.isSome = true) :
    m.IsUnbound ↔ m.bindings = [] := by
  obtain ⟨rule, hrule⟩ := Option.isSome_iff_exists.1 hrule
  simp [IsUnbound, bindings, hrule]

/-- Only a method with an HTTP rule has a binding. -/
theorem Method.isSome_http_of_bindings_ne_nil {m : Method} (h : m.bindings ≠ []) :
    m.http.isSome = true := by
  cases hrule : m.http with
  | none => simp [bindings, hrule] at h
  | some rule => rfl

section Pass

variable {api : Api} {options : Options} {result : Annotated}

/-- Unless it is asked for more, a pass generates the methods that do not stream and have an HTTP
rule. -/
theorem isGenerated_iff (hoff : options.includeGrpcOnlyMethods = false) (m : Method) :
    isGenerated options m = true ↔ m.isStreaming = false ∧ m.http.isSome = true := by
  simp [isGenerated, hoff]

/-- The methods that a pass annotates unless it is asked for more. -/
theorem mem_methods_of_annotate_iff [Speller] (h : annotate api options = .ok result)
    (hoff : options.includeGrpcOnlyMethods = false) (id : String) :
    id ∈ result.model.methods ↔
      ∃ m ∈ api.methods, m.id = id ∧ m.isStreaming = false ∧ m.http.isSome = true := by
  rw [(covers_of_annotate h).methods id, Api.generated_eq_filter]
  constructor
  · rintro ⟨m, hm, hid⟩
    obtain ⟨hmem, hgenerated⟩ := List.mem_filter.1 hm
    exact ⟨m, hmem, hid, (isGenerated_iff hoff m).1 hgenerated⟩
  · rintro ⟨m, hmem, hid, hgenerated⟩
    exact ⟨m, List.mem_filter.2 ⟨hmem, (isGenerated_iff hoff m).2 hgenerated⟩, hid⟩

/-- **Of what a pass annotates, a listing shows as gRPC what is unbound.** Unless it is asked for
more, a pass annotates the methods that do not stream and have an HTTP rule, among them every method
that does not stream and has a binding. If the IDs of methods are distinct, an annotated method is
shown as gRPC exactly if its rule has no binding. -/
theorem annotated_grpc_only_iff [Speller] (h : annotate api options = .ok result)
    (hoff : options.includeGrpcOnlyMethods = false) :
    (∀ id, id ∈ result.model.methods ↔
      ∃ m ∈ api.methods, m.id = id ∧ m.isStreaming = false ∧ m.http.isSome = true) ∧
    (∀ m ∈ api.methods, m.isStreaming = false → m.bindings ≠ [] → m.id ∈ result.model.methods) ∧
    ((api.methods.map (·.id)).Nodup → ∀ m ∈ api.methods, m.id ∈ result.model.methods →
      ((methodRoute m).1 = grpcOnly ↔ m.IsUnbound)) := by
  refine ⟨mem_methods_of_annotate_iff h hoff, fun m hm hstreaming hbindings => ?_, ?_⟩
  · have hrule := Method.isSome_http_of_bindings_ne_nil hbindings
    exact (mem_methods_of_annotate_iff h hoff m.id).2 ⟨m, hm, rfl, hstreaming, hrule⟩
  · intro hids m hm hannotated
    obtain ⟨m', hm', hid, hstreaming, hrule⟩ :=
      (mem_methods_of_annotate_iff h hoff m.id).1 hannotated
    obtain rfl := List.inj_on_of_nodup_map hids hm' hm hid
    rw [methodRoute_fst_eq_grpcOnly_iff, Method.isUnbound_iff hrule]
    simp [hstreaming]

/-- A method whose HTTP rule has no binding is annotated, and a listing shows it as gRPC. -/
theorem annotated_grpc_only_of_empty_rule :
    let get : Method := { id := ".p.S.Get", http := some {} }
    let api : Api := { packageName := "p", services := [{ id := ".p.S", methods := [get] }] }
    ∃ result, annotate api {} = .ok result ∧ get.id ∈ result.model.methods ∧
      (methodRoute get).1 = grpcOnly := by
  intro get api
  obtain ⟨result, h⟩ : ∃ result, annotate api {} = .ok result := by
    apply exists_annotate_eq_ok <;> simp [api]
  have hmem : get ∈ api.methods := by simp [api, Api.methods]
  have hids : (api.methods.map (·.id)).Nodup := by simp [api, Api.methods]
  obtain ⟨hmethods, -, hlisted⟩ := annotated_grpc_only_iff h rfl
  have hannotated : get.id ∈ result.model.methods := (hmethods get.id).2 ⟨get, hmem, rfl, rfl, rfl⟩
  exact ⟨result, h, hannotated, (hlisted hids get hmem hannotated).2 ⟨{}, rfl, rfl⟩⟩

end Pass

end ApiAnnotator
