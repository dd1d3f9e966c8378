import ApiAnnotator.Annotated.Gating
import ApiAnnotator.Annotated.Types

/-!
# The annotation pass

An annotation pass goes over an API once and annotates each entity: first the types of the API's own
package, enums before messages, then the services, then the types of other packages by their names
alone. Last, if the options ask for it, the own types are gated on the features of the services.

A pass stops only at a type of a package that no crate is known for. All other problems are noted as
warnings, in the order in which they are met.

## Main definitions

* `Annotated` — the annotated model with the statistics of the pass.
* `annotate` — the pass.
-/

namespace ApiAnnotator

/-- The result of an annotation pass. -/
structure Annotated where
  model : AnnotatedModel
  statistics : Statistics
  deriving DecidableEq

/-- The annotations of all types and services before the gates are set, each under its ID and in the
order in which they are made. -/
structure Drafts where
  ownEnums : List (String × EnumParts)
  ownMessages : List (String × MessageParts)
  services : List (String × ServiceParts)
  otherEnums : List (String × AnnotatedEnum)
  otherMessages : List (String × AnnotatedMessage)

namespace Drafts

/-- The own types by ID. -/
def known (enums : List (String × EnumParts)) (messages : List (String × MessageParts)) :
    KnownTypes where
  messages := Table.ofEntries (messages.map fun (id, parts) => (id, parts.entry))
  enums := Table.ofEntries (enums.map fun (id, parts) => (id, parts.entry))

/-- The messages by ID. -/
def messages (d : Drafts) : Table AnnotatedMessage :=
  Table.ofEntries ((d.ownMessages.map fun (id, parts) => (id, parts.entry)) ++ d.otherMessages)

/-- The enums by ID. -/
def enums (d : Drafts) : Table AnnotatedEnum :=
  Table.ofEntries ((d.ownEnums.map fun (id, parts) => (id, parts.entry)) ++ d.otherEnums)

end Drafts

variable [Speller]

/-- The kept services in the order of their declaration. -/
def Api.retained (api : Api) (options : Options) : List RetainedService :=
  api.services.filterMap (retain? options)

/-- Advises to turn on features for single services if there are many services without them. -/
def adviseFeatures (options : Options) (count : Nat) : Noted Unit :=
  if !options.perServiceFeatures && options.serviceAdvisoryThreshold < count then
    Noted.warn (.serviceCountAdvisory count options.serviceAdvisoryThreshold)
  else return ()

/-- The features of kept services, each of them once and in order. -/
def featuresOf (retained : List RetainedService) : List String :=
  (Std.ExtTreeSet.ofList (retained.map (·.feature))).toList

namespace Lexicon

variable (lx : Lexicon)

/-- The annotations of all types and services before the gates are set. -/
def drafts (retained : List RetainedService) : Annotating Drafts := do
  let isOwn := lx.api.isOwn
  let ownEnums ← (lx.api.enums.filter (isOwn ·.package)).mapM fun e => do
    return (e.id, ← lx.annotateEnum e)
  let ownMessages ← (lx.api.structs.filter (isOwn ·.package)).mapM fun m => do
    return (m.id, ← lx.annotateMessage m)
  let known := Drafts.known ownEnums ownMessages
  let services ← retained.mapM fun r => do
    return (r.service.id, ← lx.annotateService known r)
  adviseFeatures lx.options retained.length
  let otherEnums ← (lx.api.enums.filter (!isOwn ·.package)).mapM fun e => do
    return (e.id, ← lx.basicEnum e)
  let otherMessages ← (lx.api.structs.filter (!isOwn ·.package)).mapM fun m => do
    return (m.id, ← lx.basicMessage m)
  return { ownEnums, ownMessages, services, otherEnums, otherMessages }

/-- The annotation of the crate. -/
def crateInfo (retained : List RetainedService) (features : List String) : CrateInfo :=
  let o := lx.options
  { crateName := o.crateName lx.api.packageName
    crateNamespace := lx.crateNamespace
    modulePath := o.modulePath
    title := lx.api.title
    perServiceFeatures := o.perServiceFeatures
    allFeatures := features
    defaultFeatures := o.defaultFeatures.getD features
    generateSetterSamples := o.generateSetterSamples
    generateRpcSamples := o.generateRpcSamples
    templateOverride := o.templateOverride
    version := o.version
    copyrightYear := o.copyrightYear
    externPackages := o.externPackages
    services := retained.map (·.service.id) }

/-- The annotated model made of the drafts. -/
def model (retained : List RetainedService) (features : List String) (d : Drafts) :
    AnnotatedModel :=
  let needs := retained.map lx.api.need
  let gated := lx.options.perServiceFeatures
  { crate := lx.crateInfo retained features
    messages := if gated then gateMessages needs d.messages else d.messages
    fields := Table.ofEntries (d.ownMessages.flatMap fun (_, parts) => parts.fields)
    oneofs := Table.ofEntries (d.ownMessages.flatMap fun (_, parts) => parts.oneofs)
    enums := if gated then gateEnums needs d.messages d.enums else d.enums
    enumValues := Table.ofEntries (d.ownEnums.flatMap fun (_, parts) => parts.values)
    services := Table.ofEntries (d.services.map fun (id, parts) => (id, parts.entry))
    methods := Table.ofEntries (d.services.flatMap fun (_, parts) => parts.methods) }

/-- What the pass did, in numbers. -/
def statistics (retained : List RetainedService) (features : List String) (d : Drafts)
    (warnings : List Warning) : Statistics :=
  { messages := d.ownMessages.length
    enums := d.ownEnums.length
    external := d.otherEnums.length + d.otherMessages.length
    services := d.services.length
    methods := (retained.flatMap (·.methods)).length
    skipped := (lx.api.services.flatMap (·.methods)).countP fun m => !isGenerated lx.options m
    features := features.length
    warnings }

end Lexicon

/-- Annotates an API under the given options. -/
def annotate (api : Api) (options : Options) : Except UnmappedPackage Annotated :=
  let lx := Lexicon.of api options
  let retained := api.retained options
  let features := if options.perServiceFeatures then featuresOf retained else []
  let noted := (lx.drafts retained).run
  noted.value.map fun drafts =>
    { model := lx.model retained features drafts
      statistics := lx.statistics retained features drafts noted.warnings }

end ApiAnnotator
