import VirtualImports.Main
import VirtualImports.Proofs.Statement.Shape
import VirtualImports.Proofs.Statement.Finding
import VirtualImports.Proofs.Statement.Source
import VirtualImports.Proofs.Statement.TypeMark
import VirtualImports.Proofs.Statement.Quotes
import VirtualImports.Proofs.Configuration.Acceptance
import VirtualImports.Proofs.Rewrite.Pass
import VirtualImports.Proofs.Rewrite.Weaving
import VirtualImports.Proofs.Rewrite.Simultaneity
import VirtualImports.Proofs.Statement.Sweep
import VirtualImports.Proofs.Statement.Revision
import VirtualImports.Proofs.Clause.Names
import VirtualImports.Proofs.Routing.Records
import VirtualImports.Proofs.Routing.Rendering
import VirtualImports.Proofs.Rewrite.Idempotence
import VirtualImports.Proofs.Statement.Succession
import VirtualImports.Proofs.Clause.Lexing
import VirtualImports.Proofs.Clause.Layout
import VirtualImports.Proofs.Clause.Reading
import VirtualImports.Proofs.Clause.Meaning
import VirtualImports.Proofs.Clause.Acceptance
import VirtualImports.Proofs.Statement.Spacing
import VirtualImports.Proofs.Routing.Clauses
import VirtualImports.Proofs.Routing.RoundTrip
import VirtualImports.Proofs.Routing.CatchAll
import VirtualImports.Proofs.Rewrite.OneModule
import VirtualImports.Proofs.Rewrite.Sequence
import VirtualImports.Proofs.Rewrite.Reordering
import VirtualImports.Proofs.Routing.Bound
import VirtualImports.Proofs.Routing.Stability
import VirtualImports.Proofs.Routing.Fates
import VirtualImports.Proofs.Routing.Grouping
import VirtualImports.Proofs.Routing.Order
import VirtualImports.Proofs.Routing.LocalNames
import VirtualImports.Proofs.Routing.Preservation
import VirtualImports.Proofs.Rewrite.Concatenation
import VirtualImports.Proofs.Text.LineEndings
import VirtualImports.Proofs.Rewrite.LineEndings
import VirtualImports.Proofs.Rewrite.Rerouting
import VirtualImports.Proofs.Statement.Recognition
import VirtualImports.Proofs.Statement.Returns
import VirtualImports.Proofs.Statement.LocatedReturns
import VirtualImports.Proofs.Rewrite.Conversion
import VirtualImports.Proofs.Routing.ReadBack
import VirtualImports.Proofs.Rewrite.Readability
import VirtualImports.Proofs.Routing.Destinations
import VirtualImports.Proofs.Rewrite.Notes
import VirtualImports.Proofs.Rewrite.Success
import VirtualImports.Proofs.Configuration.Settings
import VirtualImports.Proofs.Configuration.Specifiers
import VirtualImports.Proofs.Configuration.Nearest
import VirtualImports.Proofs.Declaration.Decoding
import VirtualImports.Proofs.Declaration.Footprint
import VirtualImports.Proofs.Files.Writing
import VirtualImports.Proofs.Files.Places
import VirtualImports.Proofs.Files.Growth
import VirtualImports.Proofs.Files.Below
import VirtualImports.Proofs.Text.Utf8
import VirtualImports.Proofs.Command.Batch
import VirtualImports.Proofs.Command.Endings
import VirtualImports.Proofs.Command.Turns
import VirtualImports.Proofs.Command.Mirroring
import VirtualImports.Proofs.Command.Independence
import VirtualImports.Proofs.Command.Emission
import VirtualImports.Proofs.Text.Pattern
import VirtualImports.Proofs.Statement.Matching
import VirtualImports.Proofs.Statement.Locating
import VirtualImports.Proofs.Statement.Neighbours
import VirtualImports.Proofs.Statement.Agreement
import VirtualImports.Proofs.Statement.Trimming
import VirtualImports.Proofs.Rewrite.Accounting
import VirtualImports.Proofs.Rewrite.CatchAll
import VirtualImports.Proofs.Rewrite.Locality
import VirtualImports.Proofs.Rewrite.Substitution
