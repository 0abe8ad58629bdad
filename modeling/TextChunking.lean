import TextChunking.Chunk.Basic
import TextChunking.Chunk.Diagnostic
import TextChunking.Chunk.Document
import TextChunking.Cli.Arguments
import TextChunking.Cli.Option
import TextChunking.Cli.Perform
import TextChunking.Cli.Report
import TextChunking.Cli.SettingsReport
import TextChunking.Cli.Style
import TextChunking.Cli.Summary
import TextChunking.Fault
import TextChunking.Files.Path
import TextChunking.Files.Tree
import TextChunking.Glob.Pattern
import TextChunking.Ingest.Discovery
import TextChunking.Ingest.Pipeline
import TextChunking.Ingest.Service
import TextChunking.Ingest.Sink
import TextChunking.Ingest.Source
import TextChunking.Json.Reader
import TextChunking.Json.Record
import TextChunking.Json.Syntax
import TextChunking.Json.Value
import TextChunking.Json.Writer
import TextChunking.Layout.Candidate
import TextChunking.Layout.Element
import TextChunking.Layout.Identifiers
import TextChunking.Main
import TextChunking.Markdown.Section
import TextChunking.Number.Binary64
import TextChunking.Number.Integer
import TextChunking.Number.Shortest
import TextChunking.Proofs.Cli.Failure
import TextChunking.Proofs.Cli.Output
import TextChunking.Proofs.Files.Contents
import TextChunking.Proofs.Files.Dots
import TextChunking.Proofs.Files.Emptying
import TextChunking.Proofs.Files.Leads
import TextChunking.Proofs.Files.Paths
import TextChunking.Proofs.Files.Proper
import TextChunking.Proofs.Files.Reordering
import TextChunking.Proofs.Files.Shapes
import TextChunking.Proofs.Files.Whole
import TextChunking.Proofs.Ingest.Delivery
import TextChunking.Proofs.Ingest.Lines
import TextChunking.Proofs.Ingest.Metadata
import TextChunking.Proofs.Ingest.Schedules
import TextChunking.Proofs.Ingest.Selection
import TextChunking.Proofs.Ingest.SizeLimit
import TextChunking.Proofs.Json.ControlFree
import TextChunking.Proofs.Json.Lexemes
import TextChunking.Proofs.Json.Lookups
import TextChunking.Proofs.Json.RoundTrip
import TextChunking.Proofs.Layout.Claims
import TextChunking.Proofs.Layout.Identifiers
import TextChunking.Proofs.Layout.Serialization
import TextChunking.Proofs.Layout.Titles
import TextChunking.Proofs.Markdown.Headings
import TextChunking.Proofs.Markdown.Partition
import TextChunking.Proofs.Markdown.Spans
import TextChunking.Proofs.Settings.Resolution
import TextChunking.Proofs.Split.Agreement
import TextChunking.Proofs.Split.Bounds
import TextChunking.Proofs.Split.Coverage
import TextChunking.Proofs.Split.Elements
import TextChunking.Proofs.Split.Elementwise
import TextChunking.Proofs.Split.Fewest
import TextChunking.Proofs.Split.Filling
import TextChunking.Proofs.Split.Grouping
import TextChunking.Proofs.Split.Identifiers
import TextChunking.Proofs.Split.Overflow
import TextChunking.Proofs.Split.Segments
import TextChunking.Proofs.Split.Sizes
import TextChunking.Proofs.Split.Stability
import TextChunking.Proofs.Split.Strictness
import TextChunking.Proofs.Split.Survival
import TextChunking.Proofs.Split.Windows
import TextChunking.Proofs.Text.ByteRanges
import TextChunking.Proofs.Text.Clipping
import TextChunking.Proofs.Text.Cutting
import TextChunking.Proofs.Text.Joining
import TextChunking.Proofs.Text.Lines
import TextChunking.Proofs.Text.Matching
import TextChunking.Proofs.Text.MaximalRuns
import TextChunking.Proofs.Text.Runs
import TextChunking.Proofs.Text.Trimming
import TextChunking.Proofs.Text.Widths
import TextChunking.Settings.Basic
import TextChunking.Settings.InputMode
import TextChunking.Settings.Loading
import TextChunking.Settings.Toml
import TextChunking.Split.Packing
import TextChunking.Split.Splitter
import TextChunking.Split.Window
import TextChunking.Text.Basic
import TextChunking.Text.Classes
import TextChunking.Text.Pattern
import TextChunking.Text.Quoted
import TextChunking.Text.Visible
import TextChunking.Toml.DateTime
import TextChunking.Toml.Document
import TextChunking.Toml.Scan
import TextChunking.Toml.Table
import TextChunking.Toml.Text
import TextChunking.Toml.Value
