import CodeBlocks.Block.Builder
import CodeBlocks.Block.Inspect
import CodeBlocks.Block.Program
import CodeBlocks.Catalog
import CodeBlocks.CommandLine.Guide
import CodeBlocks.CommandLine.Option
import CodeBlocks.CommandLine.Request
import CodeBlocks.CommandLine.Session
import CodeBlocks.CommandLine.Usage
import CodeBlocks.Decimal.Layout
import CodeBlocks.Decimal.Literal
import CodeBlocks.Decimal.Shortest
import CodeBlocks.Decode.Fault
import CodeBlocks.Dialect
import CodeBlocks.FileTree
import CodeBlocks.FileTree.Disk
import CodeBlocks.FileTree.Fault
import CodeBlocks.FileTree.OutputFile
import CodeBlocks.FileTree.Path
import CodeBlocks.FileTree.Trie
import CodeBlocks.Generation
import CodeBlocks.Indent
import CodeBlocks.Machine
import CodeBlocks.Main
import CodeBlocks.Manifest
import CodeBlocks.Manifest.Admission
import CodeBlocks.Manifest.Build
import CodeBlocks.Manifest.Decode
import CodeBlocks.Manifest.Draft
import CodeBlocks.Manifest.Fault
import CodeBlocks.Manifest.Reading
import CodeBlocks.Node
import CodeBlocks.Node.Bounded
import CodeBlocks.Node.Leaf
import CodeBlocks.Node.Render
import CodeBlocks.Proofs.Building.Agreement
import CodeBlocks.Proofs.Building.Descriptions
import CodeBlocks.Proofs.Building.Stability
import CodeBlocks.Proofs.CommandLine.ClosedPipe
import CodeBlocks.Proofs.CommandLine.Destinations
import CodeBlocks.Proofs.Delivery.Journal
import CodeBlocks.Proofs.Delivery.Pipes
import CodeBlocks.Proofs.Delivery.Steadiness
import CodeBlocks.Proofs.FileTree.Growth
import CodeBlocks.Proofs.FileTree.NoClobber
import CodeBlocks.Proofs.FileTree.Parents
import CodeBlocks.Proofs.FileTree.Passages
import CodeBlocks.Proofs.FileTree.Runs
import CodeBlocks.Proofs.FileTree.Soundness
import CodeBlocks.Proofs.Generation.Selection
import CodeBlocks.Proofs.Manifest.Admission
import CodeBlocks.Proofs.Manifest.Decoding
import CodeBlocks.Proofs.Manifest.Labels
import CodeBlocks.Proofs.Manifest.Layout
import CodeBlocks.Proofs.Manifest.Marks
import CodeBlocks.Proofs.Manifest.Places
import CodeBlocks.Proofs.Manifest.Positions
import CodeBlocks.Proofs.Manifest.RoundTrip
import CodeBlocks.Proofs.Manifest.Rules
import CodeBlocks.Proofs.Outcome
import CodeBlocks.Proofs.Rendering.Capacity
import CodeBlocks.Proofs.Rendering.Chunks
import CodeBlocks.Proofs.Rendering.Descriptions
import CodeBlocks.Proofs.Rendering.Failures
import CodeBlocks.Proofs.Rendering.Levels
import CodeBlocks.Proofs.Rendering.LineEnds
import CodeBlocks.Proofs.Rendering.Styles
import CodeBlocks.Proofs.Summary.Counts
import CodeBlocks.Proofs.Summary.Warnings
import CodeBlocks.Proofs.Text.Coverage
import CodeBlocks.Proofs.Text.Occurrences
import CodeBlocks.Report.Line
import CodeBlocks.Summary
import CodeBlocks.Text.Quoted
import CodeBlocks.Text.Search
import CodeBlocks.Text.Span
import CodeBlocks.Text.Visible
import CodeBlocks.Toml.DateTime
import CodeBlocks.Toml.Document
import CodeBlocks.Toml.Fault
import CodeBlocks.Toml.Grammar
import CodeBlocks.Toml.Item
import CodeBlocks.Toml.Quotation
import CodeBlocks.Toml.Scalar
import CodeBlocks.Toml.Table
import CodeBlocks.Toml.Token
import CodeBlocks.Writer
import CodeBlocks.Writer.Script
