import ApiAnnotator.Annotated.Json
import ApiAnnotator.Annotated.Pass
import ApiAnnotator.CommandLine.Disk
import ApiAnnotator.CommandLine.Job
import ApiAnnotator.Json.Codec
import ApiAnnotator.Listing
import ApiAnnotator.Main
import ApiAnnotator.Model.Codec
import ApiAnnotator.PathTemplate.Parser
import ApiAnnotator.Proofs.Boxing
import ApiAnnotator.Proofs.Outcome
import ApiAnnotator.Proofs.Pass
import ApiAnnotator.Proofs.Gating
import ApiAnnotator.Proofs.References
import ApiAnnotator.Proofs.Alphabet
import ApiAnnotator.Proofs.Scopes
import ApiAnnotator.Proofs.QualifiedNames
import ApiAnnotator.Proofs.PathTemplates
import ApiAnnotator.Proofs.Placeholders
import ApiAnnotator.Proofs.ExactGates
import ApiAnnotator.Proofs.Codecs
import ApiAnnotator.Proofs.Accounting
import ApiAnnotator.Proofs.Nesting
import ApiAnnotator.Proofs.Containers
import ApiAnnotator.Proofs.Hops
import ApiAnnotator.Proofs.OneOfNames
import ApiAnnotator.Proofs.ServiceOrder
import ApiAnnotator.Proofs.PathParameters
import ApiAnnotator.Proofs.Growth
import ApiAnnotator.Proofs.GrpcOnly
import ApiAnnotator.Proofs.TypeNames
import ApiAnnotator.Proofs.Disks
import ApiAnnotator.Proofs.CommandRuns
import ApiAnnotator.Proofs.JoinedWords
import ApiAnnotator.Proofs.SettledNames
import ApiAnnotator.Proofs.LegalNames
import ApiAnnotator.Proofs.ScopeNames
import ApiAnnotator.Proofs.KeptNames
import ApiAnnotator.Proofs.AccessorChains
import ApiAnnotator.Proofs.Candidates
import ApiAnnotator.Proofs.JoinedParts
import ApiAnnotator.Proofs.Matchers
import ApiAnnotator.Proofs.BracePositions
import ApiAnnotator.Proofs.MergedVariants
import ApiAnnotator.Proofs.SampleFields
import ApiAnnotator.Proofs.ExampleNames
import ApiAnnotator.Proofs.OptionEntries
import ApiAnnotator.Proofs.FieldAliases
import ApiAnnotator.Proofs.Usage
import ApiAnnotator.Proofs.Enclosing
import ApiAnnotator.Proofs.FreshNames
import ApiAnnotator.Proofs.WordCuts
