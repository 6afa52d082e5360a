import SolutionSweep.Audit.Event
import SolutionSweep.Audit.Instant
import SolutionSweep.Audit.Log
import SolutionSweep.CommandLine.Arguments
import SolutionSweep.CommandLine.Files
import SolutionSweep.CommandLine.Flag
import SolutionSweep.CommandLine.Run
import SolutionSweep.Descriptor.Reference
import SolutionSweep.Detection
import SolutionSweep.Graph.Reachability
import SolutionSweep.Graph.Walk
import SolutionSweep.Json.Basic
import SolutionSweep.Json.Display
import SolutionSweep.Json.Parser
import SolutionSweep.Json.Printer
import SolutionSweep.Main
import SolutionSweep.Manifest.Block
import SolutionSweep.Manifest.Conventions
import SolutionSweep.Manifest.Document
import SolutionSweep.Manifest.Identifier
import SolutionSweep.Manifest.Line
import SolutionSweep.Manifest.Nesting
import SolutionSweep.Manifest.Pruning
import SolutionSweep.Manifest.Registry
import SolutionSweep.Manifest.Removal
import SolutionSweep.Manifest.Section
import SolutionSweep.Manifest.Surgery
import SolutionSweep.Manifest.VersionControl
import SolutionSweep.Number.Double
import SolutionSweep.Path
import SolutionSweep.Path.Reference
import SolutionSweep.Proofs.CommandLine.Approval
import SolutionSweep.Proofs.Graph.Exactness
import SolutionSweep.Proofs.Graph.Restriction
import SolutionSweep.Proofs.Graph.SharedFiles
import SolutionSweep.Proofs.Graph.Usage
import SolutionSweep.Proofs.Graph.WalkInvariant
import SolutionSweep.Proofs.Json.Printer
import SolutionSweep.Proofs.Manifest.Batch
import SolutionSweep.Proofs.Manifest.Blanks
import SolutionSweep.Proofs.Manifest.Book
import SolutionSweep.Proofs.Manifest.Bookkeeping
import SolutionSweep.Proofs.Manifest.Climbing
import SolutionSweep.Proofs.Manifest.Deletion
import SolutionSweep.Proofs.Manifest.Denotation
import SolutionSweep.Proofs.Manifest.Excision
import SolutionSweep.Proofs.Manifest.FixedPoint
import SolutionSweep.Proofs.Manifest.Identifier
import SolutionSweep.Proofs.Manifest.LineKinds
import SolutionSweep.Proofs.Manifest.NumberedLines
import SolutionSweep.Proofs.Manifest.Numerals
import SolutionSweep.Proofs.Manifest.Orderly
import SolutionSweep.Proofs.Manifest.Outline
import SolutionSweep.Proofs.Manifest.Places
import SolutionSweep.Proofs.Manifest.Pruning
import SolutionSweep.Proofs.Manifest.Refinement
import SolutionSweep.Proofs.Manifest.Registered
import SolutionSweep.Proofs.Manifest.Release
import SolutionSweep.Proofs.Manifest.Remains
import SolutionSweep.Proofs.Manifest.Removal
import SolutionSweep.Proofs.Manifest.Rendering
import SolutionSweep.Proofs.Manifest.Renumbering
import SolutionSweep.Proofs.Manifest.Reordering
import SolutionSweep.Proofs.Manifest.Thinning
import SolutionSweep.Proofs.Manifest.Without
import SolutionSweep.Proofs.Path
import SolutionSweep.Proofs.Session.Convergence
import SolutionSweep.Proofs.Session.Effects
import SolutionSweep.Proofs.Session.Problems
import SolutionSweep.Proofs.Store
import SolutionSweep.Proofs.Table
import SolutionSweep.Proofs.Text.Basic
import SolutionSweep.Proofs.Text.Numeral
import SolutionSweep.Proofs.Text.Utf8
import SolutionSweep.Proofs.Traversal
import SolutionSweep.Session.Outcome
import SolutionSweep.Session.Run
import SolutionSweep.Session.Selection
import SolutionSweep.Settings.Basic
import SolutionSweep.Settings.File
import SolutionSweep.Settings.Merge
import SolutionSweep.Settings.Value
import SolutionSweep.Store
import SolutionSweep.Table
import SolutionSweep.Text.Basic
import SolutionSweep.Text.Case
import SolutionSweep.Text.Case.Context
import SolutionSweep.Text.Case.Fold
import SolutionSweep.Text.Case.Lower
import SolutionSweep.Text.Case.Mapping
import SolutionSweep.Text.Case.Upper
import SolutionSweep.Text.CodePoint
import SolutionSweep.Text.Digit
import SolutionSweep.Text.Hex
import SolutionSweep.Text.LineBreak
import SolutionSweep.Text.Numeral
import SolutionSweep.Text.Printable
import SolutionSweep.Text.Quoted
import SolutionSweep.Text.Ranges
import SolutionSweep.Text.Utf8
import SolutionSweep.Text.Word
import SolutionSweep.Toml.Basic
import SolutionSweep.Toml.Parser
import SolutionSweep.Toml.Scalar
import SolutionSweep.Proofs.Manifest.Idempotence
import SolutionSweep.Proofs.Manifest.Sections
import SolutionSweep.Proofs.Descriptor.Layout
import SolutionSweep.Proofs.Manifest.Atomicity
import SolutionSweep.Proofs.Descriptor.Extraction
import SolutionSweep.Proofs.Manifest.UniqueName
import SolutionSweep.Proofs.Text.Fold
import SolutionSweep.Proofs.Path.Walk
import SolutionSweep.Proofs.Path.Spelling
import SolutionSweep.Proofs.Path.Containment
import SolutionSweep.Proofs.Graph.Roots
import SolutionSweep.Proofs.Descriptor.Tags
import SolutionSweep.Proofs.Descriptor.Insertion
import SolutionSweep.Proofs.Descriptor.OpenQuotes
import SolutionSweep.Proofs.Manifest.Ancestors
import SolutionSweep.Proofs.Manifest.RoundTrip
import SolutionSweep.Proofs.Text.Case
import SolutionSweep.Proofs.Manifest.Spellings
import SolutionSweep.Proofs.Session.Keeping
import SolutionSweep.Proofs.Audit.RoundTrip
import SolutionSweep.Proofs.Audit.Damage
import SolutionSweep.Proofs.Audit.LowerBound
import SolutionSweep.Proofs.Audit.Sanitizing
import SolutionSweep.Proofs.Manifest.Blocks
import SolutionSweep.Proofs.Manifest.Rewriting
import SolutionSweep.Proofs.Manifest.Unregistering
import SolutionSweep.Proofs.Settings.Layers
