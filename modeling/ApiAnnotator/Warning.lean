/-!
# Warnings

Problems of a model do not stop an annotation pass: the entity is annotated as well as it can be,
and a warning is noted. Warnings are kept in the order in which they arise.

## Main definitions

* `Warning` — what a warning can be about, with its wording.
* `Noted` — a value with the warnings that arose on the way to it.
-/

namespace ApiAnnotator

/-- A problem that does not stop a pass. -/
inductive Warning where
  | missingType (id referencedBy : String)
  | unresolvedFieldPath (methodId fieldPath reason : String)
  | unsupportedVerb (methodId verb : String)
  | serviceCountAdvisory (count threshold : Nat)
  deriving DecidableEq

namespace Warning

/-- The wording of a warning. -/
def message : Warning → String
  | missingType id referencedBy => s!"'{referencedBy}' references unknown type '{id}'"
  | unresolvedFieldPath methodId fieldPath reason =>
    s!"[{methodId}] cannot resolve field path '{fieldPath}': {reason}"
  | unsupportedVerb methodId verb => s!"[{methodId}] unsupported HTTP verb '{verb}'"
  | serviceCountAdvisory count threshold =>
    s!"{count} services are generated without per-service features (threshold {threshold}); " ++
      "consider enabling `per-service-features`"

/-- Whether the warning is about the options and not about the model. -/
def isAdvisory : Warning → Bool
  | serviceCountAdvisory .. => true
  | _ => false

end Warning

/-- A value with the warnings that arose on the way to it, in their order. -/
structure Noted (α : Type) where
  value : α
  warnings : List Warning

namespace Noted

/-- A warning and nothing else. -/
def warn (w : Warning) : Noted Unit :=
  ⟨(), [w]⟩

instance : Monad Noted where
  pure a := ⟨a, []⟩
  bind x f := ⟨(f x.value).value, x.warnings ++ (f x.value).warnings⟩

@[simp] theorem value_pure (a : α) : (pure a : Noted α).value = a := rfl

@[simp] theorem warnings_pure (a : α) : (pure a : Noted α).warnings = [] := rfl

@[simp] theorem value_bind (x : Noted α) (f : α → Noted β) :
    (x >>= f).value = (f x.value).value := rfl

@[simp] theorem warnings_bind (x : Noted α) (f : α → Noted β) :
    (x >>= f).warnings = x.warnings ++ (f x.value).warnings := rfl

instance : LawfulMonad Noted :=
  LawfulMonad.mk' _
    (by rintro α ⟨a, w⟩; simp [Functor.map])
    (by intro α β a f; simp [Bind.bind, Pure.pure])
    (by intro α β γ x f g; simp [Bind.bind])

end Noted

end ApiAnnotator
