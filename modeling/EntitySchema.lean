import EntitySchema.Command.Check
import EntitySchema.Command.Generate
import EntitySchema.CommandLine.Parse
import EntitySchema.CommandLine.Program
import EntitySchema.CommandLine.Similar
import EntitySchema.CommandLine.Spec
import EntitySchema.Decimal.Binary64
import EntitySchema.Decimal.Notation
import EntitySchema.Decimal.Read
import EntitySchema.Decimal.Shortest
import EntitySchema.Digest.Sha256
import EntitySchema.Emit.CFamily
import EntitySchema.Emit.Disk
import EntitySchema.Emit.Generator
import EntitySchema.Emit.Indented
import EntitySchema.Emit.Options
import EntitySchema.Emit.Rust
import EntitySchema.Json.Fault
import EntitySchema.Json.Read
import EntitySchema.Json.Scan
import EntitySchema.Json.Value
import EntitySchema.Json.Write
import EntitySchema.Main
import EntitySchema.Path.Basic
import EntitySchema.Project.Config
import EntitySchema.Project.File
import EntitySchema.Project.Load
import EntitySchema.Proofs.BaseChain
import EntitySchema.Proofs.CanonicalCycle
import EntitySchema.Proofs.Components
import EntitySchema.Proofs.EmissionOrder
import EntitySchema.Proofs.FingerprintLine
import EntitySchema.Proofs.Links
import EntitySchema.Proofs.MissingEntities
import EntitySchema.Proofs.PassErrors
import EntitySchema.Proofs.Placement
import EntitySchema.Proofs.Reachability
import EntitySchema.Proofs.Regeneration
import EntitySchema.Proofs.RegistrationOrder
import EntitySchema.Proofs.ResolvePass
import EntitySchema.Proofs.SameDecls
import EntitySchema.Proofs.ValueCycleCount
import EntitySchema.Proofs.ValueCycles
import EntitySchema.Proofs.WellFormed
import EntitySchema.Schema.Decl
import EntitySchema.Schema.Document
import EntitySchema.Schema.Error
import EntitySchema.Schema.FieldType
import EntitySchema.Schema.Graph
import EntitySchema.Schema.Inheritance
import EntitySchema.Schema.Lint
import EntitySchema.Schema.Literal
import EntitySchema.Schema.Model
import EntitySchema.Schema.Name
import EntitySchema.Schema.Primitive
import EntitySchema.Schema.Registry
import EntitySchema.Schema.Resolve
import EntitySchema.Schema.SourceLiteral
import EntitySchema.Schema.TypeExpr
import EntitySchema.Target.Keywords
import EntitySchema.Target.Language
import EntitySchema.Target.Spelling
import EntitySchema.Text.Blank
import EntitySchema.Text.CaseMap
import EntitySchema.Text.CaseTables
import EntitySchema.Text.Grapheme
import EntitySchema.Text.GraphemeExtend
import EntitySchema.Text.GraphemeTables
import EntitySchema.Text.Quote
import EntitySchema.Text.Ranges
import EntitySchema.Text.Unprintable
import EntitySchema.Text.Words
import EntitySchema.Workspace.Clock
import EntitySchema.Workspace.Fault
import EntitySchema.Workspace.FileMap
import EntitySchema.Workspace.Host
import EntitySchema.Workspace.Machine
import EntitySchema.Workspace.Sources
import EntitySchema.Workspace.Tree
import EntitySchema.Yaml.Chars
import EntitySchema.Yaml.Decode
import EntitySchema.Yaml.Document
import EntitySchema.Yaml.Emit
import EntitySchema.Yaml.Mark
import EntitySchema.Yaml.Parser
import EntitySchema.Yaml.Scalar
import EntitySchema.Yaml.Scanner
import EntitySchema.Yaml.Token
import EntitySchema.Proofs.MemberLayout
import EntitySchema.Proofs.CrossReferences
import EntitySchema.Proofs.OutputNames
import EntitySchema.Proofs.CommandSettings
import EntitySchema.Proofs.OutputsBelow
import EntitySchema.Proofs.Materialize
import EntitySchema.Proofs.ShortestPath
import EntitySchema.Proofs.ValueCycleReport
import EntitySchema.Proofs.ShadowingOption
import EntitySchema.Proofs.TypeGrammar
import EntitySchema.Proofs.DocumentChecks
import EntitySchema.Proofs.InheritanceCycles
import EntitySchema.Proofs.Loading
import EntitySchema.Proofs.SourceTextDefaults
import EntitySchema.Proofs.IdentifierWords
import EntitySchema.Proofs.MemberNames
import EntitySchema.Proofs.ShortestDigits
import EntitySchema.Proofs.StringLiterals
import EntitySchema.Proofs.NumberLiterals
import EntitySchema.Proofs.DefaultLiterals
import EntitySchema.Proofs.Registration
import EntitySchema.Proofs.DescriptionComments
import EntitySchema.Proofs.DocComments
import EntitySchema.Proofs.WrittenNames
import EntitySchema.Proofs.TarjanInvariant
import EntitySchema.Proofs.TarjanSearch
import EntitySchema.Proofs.Kahn
import EntitySchema.Proofs.WalkOutcome
import EntitySchema.Proofs.AcyclicPart
