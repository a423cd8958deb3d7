import DtoForge.Main
import DtoForge.Proofs.Steps
import DtoForge.Proofs.Text.Units
import DtoForge.Proofs.Naming.Fresh
import DtoForge.Proofs.Naming.Search
import DtoForge.Proofs.Naming.Spelling
import DtoForge.Proofs.Naming.Opening
import DtoForge.Proofs.Naming.NormalForm
import DtoForge.Proofs.Schema.NameSet
import DtoForge.Proofs.Schema.Readback
import DtoForge.Proofs.Schema.Shape
import DtoForge.Proofs.Schema.Equivalence
import DtoForge.Proofs.Schema.Depth
import DtoForge.Proofs.Document.Json
import DtoForge.Proofs.Document.ResponseExample
import DtoForge.Proofs.Schema.Fragments
import DtoForge.Proofs.Schema.Grammar
import DtoForge.Proofs.Schema.Offences
import DtoForge.Proofs.Registry.Consistency
import DtoForge.Proofs.Registry.History
import DtoForge.Proofs.Registry.Refusals
import DtoForge.Proofs.Resolution.Denotation
import DtoForge.Proofs.Resolution.Mirror
import DtoForge.Proofs.Resolution.Run
import DtoForge.Proofs.Resolution.Seeding
import DtoForge.Proofs.Resolution.Closure
import DtoForge.Proofs.Resolution.Deduplication
import DtoForge.Proofs.Resolution.Meaning
import DtoForge.Proofs.Resolution.Acceptance
import DtoForge.Proofs.Resolution.Spelling
import DtoForge.Proofs.Resolution.Ownership
import DtoForge.Proofs.Resolution.Forest
import DtoForge.Proofs.Resolution.Identifiers
import DtoForge.Proofs.Resolution.Turns
import DtoForge.Proofs.Resolution.Queue
import DtoForge.Proofs.Resolution.Points
import DtoForge.Proofs.Resolution.BreadthFirst
import DtoForge.Proofs.Resolution.Portrait
import DtoForge.Proofs.Resolution.Termination
import DtoForge.Proofs.Resolution.Stability
import DtoForge.Proofs.Resolution.KeyNames
import DtoForge.Proofs.Settings.Suffixes
import DtoForge.Proofs.Dart.Header
import DtoForge.Proofs.Dart.Units
import DtoForge.Proofs.Dart.FileNames
import DtoForge.Proofs.Dart.Literal
import DtoForge.Proofs.Resolution.Output
import DtoForge.Proofs.Dart.Identifiers
import DtoForge.Proofs.Dart.Members
import DtoForge.Proofs.Dart.TypeExpressions
import DtoForge.Proofs.Dart.ClassReadback
import DtoForge.Proofs.Files.Changes
import DtoForge.Proofs.Generation.Writing
import DtoForge.Proofs.Generation.Plan
import DtoForge.Proofs.Generation.Runs
import DtoForge.Proofs.Generation.Containment
import DtoForge.Proofs.CommandLine.Batch
import DtoForge.Proofs.CommandLine.Generating
import DtoForge.Proofs.Generation.Layers
import DtoForge.Proofs.CommandLine.Precedence
