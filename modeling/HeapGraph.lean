import HeapGraph.Artifact
import HeapGraph.Color
import HeapGraph.CommandLine.Basic
import HeapGraph.CommandLine.Console
import HeapGraph.CommandLine.Request
import HeapGraph.Decimal.Shortest
import HeapGraph.Diagram.Attributes
import HeapGraph.Diagram.Escape
import HeapGraph.Diagram.Render
import HeapGraph.Digest
import HeapGraph.Dump.Basic
import HeapGraph.Dump.Load
import HeapGraph.Dump.Reader
import HeapGraph.Dump.Writer
import HeapGraph.Graph.Basic
import HeapGraph.Graph.Consistency
import HeapGraph.Graph.Link
import HeapGraph.Graph.Prune
import HeapGraph.Host.Basic
import HeapGraph.Host.FileTree
import HeapGraph.Host.OsError
import HeapGraph.Host.Program
import HeapGraph.Host.Route
import HeapGraph.Journal
import HeapGraph.Json.Cursor
import HeapGraph.Json.Fault
import HeapGraph.Json.Number
import HeapGraph.Json.Reader
import HeapGraph.Json.Record
import HeapGraph.Json.Skip
import HeapGraph.Json.Text
import HeapGraph.Json.Written
import HeapGraph.Main
import HeapGraph.Path
import HeapGraph.Proofs.Diagram.Closure
import HeapGraph.Proofs.Diagram.Document
import HeapGraph.Proofs.Diagram.Escape
import HeapGraph.Proofs.Diagram.Name
import HeapGraph.Proofs.Dump.Arrival
import HeapGraph.Proofs.Dump.Recognition
import HeapGraph.Proofs.Dump.RoundTrip
import HeapGraph.Proofs.Dump.Schema
import HeapGraph.Proofs.Dump.Support
import HeapGraph.Proofs.Graph.Accounting
import HeapGraph.Proofs.Graph.Checking
import HeapGraph.Proofs.Graph.Confluence
import HeapGraph.Proofs.Graph.Construction
import HeapGraph.Proofs.Graph.Deletion
import HeapGraph.Proofs.Graph.History
import HeapGraph.Proofs.Graph.Index
import HeapGraph.Proofs.Graph.Invariant
import HeapGraph.Proofs.Graph.Ledger
import HeapGraph.Proofs.Graph.Passes
import HeapGraph.Proofs.Graph.Pruning
import HeapGraph.Proofs.Graph.Refusal
import HeapGraph.Proofs.Graph.Removal
import HeapGraph.Proofs.Graph.Survival
import HeapGraph.Proofs.Graph.Tables
import HeapGraph.Proofs.Graph.Views
import HeapGraph.Proofs.Host.FileTree
import HeapGraph.Proofs.Journal
import HeapGraph.Proofs.Json.Grammar
import HeapGraph.Proofs.Json.Layout
import HeapGraph.Proofs.Json.Numerals
import HeapGraph.Proofs.Json.Quoted
import HeapGraph.Proofs.Json.Reading
import HeapGraph.Proofs.Json.Records
import HeapGraph.Proofs.Json.Scanning
import HeapGraph.Proofs.Json.Skipping
import HeapGraph.Proofs.Json.Slots
import HeapGraph.Proofs.Json.Steady
import HeapGraph.Proofs.Json.SteadyNumbers
import HeapGraph.Proofs.Json.SteadyRecords
import HeapGraph.Proofs.Json.SteadyValues
import HeapGraph.Proofs.Json.Writing
import HeapGraph.Proofs.Loops
import HeapGraph.Proofs.Path
import HeapGraph.Proofs.Showing.Drawing
import HeapGraph.Proofs.Showing.Effects
import HeapGraph.Proofs.Showing.Failures
import HeapGraph.Proofs.Showing.Placement
import HeapGraph.Settings
import HeapGraph.Showing
import HeapGraph.Text.Blank
import HeapGraph.Text.Casing
import HeapGraph.Text.CharSet
import HeapGraph.Text.Hex
import HeapGraph.Text.Lowercase
import HeapGraph.Text.Offset
import HeapGraph.Text.Quoted
import HeapGraph.Text.Similarity
import HeapGraph.Text.Terminal
import HeapGraph.Text.Unprintable
import HeapGraph.Text.Utf8
import HeapGraph.Viewing
