import ErrorDerive.Main
import ErrorDerive.Proofs.Generation.Acceptance
import ErrorDerive.Proofs.Generation.Decision
import ErrorDerive.Proofs.Generation.Bodies
import ErrorDerive.Proofs.Generation.Outcome
import ErrorDerive.Proofs.Rust.FormatReading
import ErrorDerive.Proofs.Rust.LiteralReading
import ErrorDerive.Proofs.Rust.ArmReading
import ErrorDerive.Proofs.Rust.Layout
import ErrorDerive.Proofs.Generation.Branches
import ErrorDerive.Proofs.Rust.Matching
import ErrorDerive.Proofs.Rust.DisplayMeaning
import ErrorDerive.Proofs.Files.Seen
import ErrorDerive.Proofs.Files.Walking
import ErrorDerive.Proofs.Rust.SourceMeaning
import ErrorDerive.Proofs.Files.FolderMaking
import ErrorDerive.Proofs.Clobbering
import ErrorDerive.Proofs.Generation.Selection
import ErrorDerive.Proofs.Generation.Grouping
import ErrorDerive.Proofs.Generation.Comparison
import ErrorDerive.Proofs.Generation.Pinning
import ErrorDerive.Proofs.Generation.SettingsReach
import ErrorDerive.Proofs.Generation.ErrorNames
import ErrorDerive.Proofs.Generation.WholeFile
import ErrorDerive.Proofs.Text.Printing
import ErrorDerive.Proofs.Files.OutputWriting
import ErrorDerive.Proofs.Session.Outcomes
import ErrorDerive.Proofs.Text.Encoding
import ErrorDerive.Proofs.CommandLine.Commands
import ErrorDerive.Proofs.CommandLine.Calls
import ErrorDerive.Proofs.CommandLine.Generating
import ErrorDerive.Proofs.CommandLine.Modes
import ErrorDerive.Proofs.Generation.DefaultDisplay
import ErrorDerive.Proofs.Generation.TypePaths
import ErrorDerive.Proofs.Generation.SourceSpelling
import ErrorDerive.Proofs.Text.Decoding
import ErrorDerive.Proofs.Files.Rewriting
import ErrorDerive.Proofs.Files.LineBalance
import ErrorDerive.Proofs.Yaml.ValueCauses
import ErrorDerive.Proofs.Loading.Breakdowns
import ErrorDerive.Proofs.Generation.NormalForm
import ErrorDerive.Proofs.Text.Separators
import ErrorDerive.Proofs.Schema.Entries
import ErrorDerive.Proofs.Generation.QualifiedNames
import ErrorDerive.Proofs.Loading.Checking
import ErrorDerive.Proofs.Loading.Warnings
import ErrorDerive.Proofs.Loading.Shorthands
import ErrorDerive.Proofs.Loading.Dumps
import ErrorDerive.Proofs.Loading.TypeFiles
import ErrorDerive.Proofs.Generation.Coverage
import ErrorDerive.Proofs.Generation.AnnotationGroups
import ErrorDerive.Proofs.Files.Lookup
import ErrorDerive.Proofs.Loading.Discovery
import ErrorDerive.Proofs.Session.LogDelivery
