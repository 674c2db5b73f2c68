import Xref.Graph.Keys
import Xref.Main
import Xref.Report.Cursor
import Xref.Proofs.Cursor
import Xref.Proofs.FirstSeen
import Xref.Proofs.Graph.Reachability
import Xref.Proofs.Graph.Search
import Xref.Proofs.Graph.Additions
import Xref.Proofs.Graph.Listing
import Xref.Proofs.Report.Selection
import Xref.Proofs.Demangler.Cache
import Xref.Proofs.Demangler.LineFilters
import Xref.Proofs.Graph.Growth
import Xref.Proofs.Json.Document
import Xref.Proofs.CommandLine.Arguments
import Xref.Proofs.Config.RoundTrip
import Xref.Proofs.CommandLine.Output
import Xref.Proofs.Demangler.Pass
import Xref.Proofs.Graph.Views
import Xref.Proofs.Report.Partition
import Xref.Proofs.CommandLine.Processes
import Xref.Proofs.Demangler.Answers
import Xref.Proofs.Text.ControlSequence
import Xref.Proofs.Report.PrintedLine
import Xref.Proofs.CommandLine.Naming
import Xref.Proofs.Demangler.Executions
import Xref.Proofs.Demangler.Disabling
import Xref.Proofs.Demangler.WriteOnce
import Xref.Proofs.Report.Growth
import Xref.Proofs.Report.Rearrangement
import Xref.Proofs.Listing.Definition
import Xref.Proofs.Listing.Identity
import Xref.Proofs.Listing.Candidates
import Xref.Proofs.Listing.Offsets
import Xref.Proofs.Report.Decoding
import Xref.Proofs.CommandLine.Decoding
import Xref.Proofs.Demangler.History
import Xref.Proofs.CommandLine.ExitStatus
import Xref.Proofs.CommandLine.Sources
import Xref.Proofs.Demangler.Batches
import Xref.Proofs.Demangler.LineBoundaries
import Xref.Proofs.Demangler.BrokenOff
import Xref.Proofs.Process.Lifecycle
import Xref.Proofs.CommandLine.ClosedOutput
import Xref.Proofs.Report.Drawing
import Xref.Proofs.Report.RawDrawing
import Xref.Proofs.Listing.LineBytes
import Xref.Proofs.Listing.Streaming
import Xref.Proofs.Files.Lookup
import Xref.Proofs.Graph.Deduplication
import Xref.Proofs.Graph.Rebuilding
import Xref.Proofs.Config.Nearest
import Xref.Proofs.CommandLine.StandardInput
import Xref.Proofs.Listing.File
