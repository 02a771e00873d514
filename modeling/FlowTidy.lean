import FlowTidy.Command.Arguments
import FlowTidy.Command.Run
import FlowTidy.Diagram.Basic
import FlowTidy.Diagram.Element
import FlowTidy.Diagram.Layout
import FlowTidy.Diagram.Tidy
import FlowTidy.Diff.Color
import FlowTidy.Diff.Script
import FlowTidy.Diff.Unified
import FlowTidy.Document.Basic
import FlowTidy.Document.Report
import FlowTidy.Files.Collect
import FlowTidy.Files.Path
import FlowTidy.Files.Tree
import FlowTidy.Init.Block
import FlowTidy.Init.Settings
import FlowTidy.Json.Literal
import FlowTidy.Json.Strict
import FlowTidy.Json.Value
import FlowTidy.Line.Form
import FlowTidy.Line.Render
import FlowTidy.Main
import FlowTidy.Number.Binary
import FlowTidy.Number.Shortest
import FlowTidy.Order
import FlowTidy.Proofs.Diagram.Enforcement
import FlowTidy.Proofs.Diagram.Indentation
import FlowTidy.Proofs.Diagram.Reading
import FlowTidy.Proofs.Diagram.Reparsing
import FlowTidy.Proofs.Diagram.WellFormed
import FlowTidy.Proofs.Diagram.Written
import FlowTidy.Proofs.Diff.Applying
import FlowTidy.Proofs.Diff.Common
import FlowTidy.Proofs.Diff.Hunks
import FlowTidy.Proofs.Diff.Painting
import FlowTidy.Proofs.Diff.Patch
import FlowTidy.Proofs.Diff.Runs
import FlowTidy.Proofs.Diff.Script
import FlowTidy.Proofs.Document.Blocks
import FlowTidy.Proofs.Document.Places
import FlowTidy.Proofs.Document.Splicing
import FlowTidy.Proofs.Files.Collect
import FlowTidy.Proofs.Files.Naming
import FlowTidy.Proofs.Files.Path
import FlowTidy.Proofs.Files.Tree
import FlowTidy.Proofs.Init.Settings
import FlowTidy.Proofs.Init.Span
import FlowTidy.Proofs.Json.Loose
import FlowTidy.Proofs.Json.Reading
import FlowTidy.Proofs.Line.Frame
import FlowTidy.Proofs.Line.Inline
import FlowTidy.Proofs.Line.Lead
import FlowTidy.Proofs.Line.Overlap
import FlowTidy.Proofs.Line.Readable
import FlowTidy.Proofs.Line.Rereading
import FlowTidy.Proofs.Line.Spelling
import FlowTidy.Proofs.Line.Strange
import FlowTidy.Proofs.Line.Symbols
import FlowTidy.Proofs.Order
import FlowTidy.Proofs.Run.Safety
import FlowTidy.Proofs.Scanner
import FlowTidy.Proofs.Style.Nodes
import FlowTidy.Proofs.Text.Basic
import FlowTidy.Proofs.Text.Occurrence
import FlowTidy.Proofs.Text.WholeLines
import FlowTidy.Proofs.Tidy.Fence
import FlowTidy.Proofs.Tidy.Guard
import FlowTidy.Proofs.Tidy.Idempotence
import FlowTidy.Proofs.Tidy.Preservation
import FlowTidy.Proofs.Tidy.Styling
import FlowTidy.Run.Process
import FlowTidy.Run.Summary
import FlowTidy.Scanner
import FlowTidy.Style.Basic
import FlowTidy.Style.Reader
import FlowTidy.Text.Basic
import FlowTidy.Text.Charset
import FlowTidy.Text.Key
import FlowTidy.Text.Quoted
