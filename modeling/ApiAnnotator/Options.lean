import ApiAnnotator.Table
import ApiAnnotator.Text.Blank
import ApiAnnotator.Text.Natural

/-!
# Options

The options of a crate arrive as pairs of texts. Each key has a rule of its own for its value, and
an entry that breaks the rule is an error whatever the other entries are: an entry is turned into a
change of the options on its own, and only when all entries are valid are the changes made, in
order, to the default options. Of several entries for one key the last one counts, except that each
`package:` entry adds a package.

## Main definitions

* `Options`, `ExternPackage` — the validated options.
* `OptionError` — what can be wrong with an entry, with its wording.
* `Options.change` — the change that a single entry asks for.
* `Options.ofEntries` — the options of a list of entries.
-/

namespace ApiAnnotator

open Text

/-- The alphabet in which bytes are written as text. -/
inductive BytesAlphabet where
  | standard
  | urlSafe
  deriving DecidableEq

/-- A crate that other packages live in: the alias under which code imports it, its name, the
packages found in it, and the feature that switches it on. -/
structure ExternPackage where
  aliasName : String
  crate : String
  sources : List String
  feature : Option String
  deriving DecidableEq

/-- The options of a crate. -/
structure Options where
  packageNameOverride : Option String := none
  modulePath : String := "crate::model"
  perServiceFeatures : Bool := false
  defaultFeatures : Option (List String) := none
  includeGrpcOnlyMethods : Bool := false
  generateSetterSamples : Bool := false
  generateRpcSamples : Bool := false
  bytesAlphabet : BytesAlphabet := .standard
  templateOverride : Option String := none
  version : Option String := none
  copyrightYear : Option String := none
  nameOverrides : Table String := ∅
  internalTypes : Names := ∅
  serviceAdvisoryThreshold : Nat := 15
  /-- In the order of the aliases. -/
  externPackages : List ExternPackage := []

/-- What can be wrong with an entry. -/
inductive OptionError where
  | unknownOption (key : String)
  | invalidBool (key value : String)
  | invalidInteger (key value : String)
  | invalidValue (key value : String)
  | invalidPackageSpec (key value reason : String)
  | invalidNameOverride (key entry : String)
  deriving DecidableEq

/-- The wording of an option error. -/
def OptionError.message : OptionError → String
  | .unknownOption key => s!"unknown codec option `{key}`"
  | .invalidBool key value => s!"codec option `{key}` expects `true` or `false`, got `{value}`"
  | .invalidInteger key value =>
    s!"codec option `{key}` expects a non-negative integer, got `{value}`"
  | .invalidValue key value => s!"codec option `{key}` has an unsupported value `{value}`"
  | .invalidPackageSpec key value reason =>
    s!"invalid package mapping `{key}` = `{value}`: {reason}"
  | .invalidNameOverride key entry =>
    s!"invalid name override `{entry}` in `{key}`: expected ID=Name"

/-- The greatest threshold that can be given. -/
def greatestThreshold : Nat := Nat.pow 2 64 - 1

/-- A truth value. -/
def parseFlag (key value : String) : Except OptionError Bool :=
  if value = "true" then .ok true
  else if value = "false" then .ok false
  else .error (.invalidBool key value)

/-- An alphabet. -/
def parseAlphabet (key value : String) : Except OptionError BytesAlphabet :=
  if value = "standard" then .ok .standard
  else if value = "url-safe" then .ok .urlSafe
  else .error (.invalidValue key value)

/-- A threshold. -/
def parseThreshold (key value : String) : Except OptionError Nat :=
  match natural? greatestThreshold value with
  | some n => .ok n
  | none => .error (.invalidInteger key value)

/-- An ID and the name it gets. -/
def parseNameOverride (key entry : String) : Except OptionError (String × String) :=
  match splitAtFirst '=' entry with
  | some (id, name) =>
    if id = "" ∨ name = "" then .error (.invalidNameOverride key entry) else .ok (id, name)
  | none => .error (.invalidNameOverride key entry)

/-- What has been read of a package entry. -/
structure PackageParts where
  crate : Option String := none
  sources : List String := []
  feature : Option String := none

/-- Reads one part of a package entry; the error is the reason to refuse the entry. -/
def PackageParts.add (parts : PackageParts) (part : String) : Except String PackageParts :=
  match splitAtFirst '=' part with
  | none => .error "expected key=value"
  | some (key, value) =>
    if key = "package" then .ok { parts with crate := some value }
    else if key = "source" then .ok { parts with sources := parts.sources ++ [trimStart '.' value] }
    else if key = "feature" then .ok { parts with feature := some value }
    else .error s!"unknown key `{key}`"

/-- The package of its parts, if none is missing. -/
def PackageParts.finish (aliasName : String) (parts : PackageParts) : Except String ExternPackage :=
  match parts.crate with
  | none => .error "missing `package`"
  | some crate =>
    if parts.sources = [] then .error "missing `source`"
    else .ok ⟨aliasName, crate, parts.sources, parts.feature⟩

/-- The package of an entry `package=…,source=…,feature=…`. -/
def parsePackage (aliasName value : String) : Except String ExternPackage :=
  if aliasName = "" then .error "empty alias"
  else do (← (trimmedParts value).foldlM PackageParts.add {}).finish aliasName

namespace Options

/-- The change that an entry makes to the options. -/
def change (key value : String) : Except OptionError (Options → Options) :=
  match afterPrefix? "package:" key with
  | some aliasName => do
    let package ← (parsePackage aliasName value).mapError (.invalidPackageSpec key value)
    return fun o => { o with externPackages := o.externPackages ++ [package] }
  | none =>
    match key with
    | "package-name-override" => .ok fun o => { o with packageNameOverride := some value }
    | "module-path" => .ok fun o => { o with modulePath := value }
    | "per-service-features" => do
      let flag ← parseFlag key value
      return fun o => { o with perServiceFeatures := flag }
    | "default-features" => .ok fun o => { o with defaultFeatures := some (trimmedParts value) }
    | "include-grpc-only-methods" => do
      let flag ← parseFlag key value
      return fun o => { o with includeGrpcOnlyMethods := flag }
    | "generate-setter-samples" => do
      let flag ← parseFlag key value
      return fun o => { o with generateSetterSamples := flag }
    | "generate-rpc-samples" => do
      let flag ← parseFlag key value
      return fun o => { o with generateRpcSamples := flag }
    | "bytes-alphabet" => do
      let alphabet ← parseAlphabet key value
      return fun o => { o with bytesAlphabet := alphabet }
    | "template-override" => .ok fun o => { o with templateOverride := some value }
    | "version" => .ok fun o => { o with version := some value }
    | "copyright-year" => .ok fun o => { o with copyrightYear := some value }
    | "name-overrides" => do
      let overrides ← (trimmedParts value).mapM (parseNameOverride key)
      return fun o => { o with nameOverrides := Table.ofEntries overrides }
    | "internal-types" => .ok fun o => { o with internalTypes := .ofList (trimmedParts value) }
    | "service-advisory-threshold" => do
      let threshold ← parseThreshold key value
      return fun o => { o with serviceAdvisoryThreshold := threshold }
    | _ => .error (.unknownOption key)

/-- The options with the packages in the order of their aliases; packages with the same alias stay
in the order of their entries. -/
def sortPackages (o : Options) : Options :=
  { o with externPackages := o.externPackages.mergeSort fun a b => a.aliasName ≤ b.aliasName }

/-- The options of a list of entries. The first entry that is invalid on its own is the error. -/
def ofEntries (entries : List (String × String)) : Except OptionError Options := do
  let changes ← entries.mapM fun (key, value) => change key value
  return (changes.foldl (fun o change => change o) ({} : Options)).sortPackages

/-- The package name with the leading dots dropped. -/
def packageSource (package : String) : String :=
  trimStart '.' package

/-- The name of the crate: as given, or the package name with dashes for dots. -/
def crateName (o : Options) (package : String) : String :=
  o.packageNameOverride.getD
    (String.ofList ((packageSource package).toList.map fun c => if c = '.' then '-' else c))

/-- The crate that a package lives in: the first one that names it as a source. -/
def externPackage? (o : Options) (source : String) : Option ExternPackage :=
  o.externPackages.find? fun package => source ∈ package.sources

end Options

end ApiAnnotator
