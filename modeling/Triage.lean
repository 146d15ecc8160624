import Triage.Main
import Triage.Proofs.ByteStream
import Triage.Proofs.Digest.Fuzzy
import Triage.Proofs.Digest.Pieces
import Triage.Proofs.Engine.Building
import Triage.Proofs.Engine.Independence
import Triage.Proofs.Engine.Routing
import Triage.Proofs.Engine.Streams
import Triage.Proofs.Engine.Tally
import Triage.Proofs.Engine.Verdict
import Triage.Proofs.Pattern.Compile
import Triage.Proofs.Pattern.EmptyMatch
import Triage.Proofs.Pattern.Literal
import Triage.Proofs.Pattern.RawBytes
import Triage.Proofs.Pattern.Scans
import Triage.Proofs.Pool.Lending
import Triage.Proofs.Processor.Bounds
import Triage.Proofs.Processor.Content
import Triage.Proofs.Processor.Counts
import Triage.Proofs.Processor.Ledger
import Triage.Proofs.Processor.Metadata
import Triage.Proofs.Processor.Report
import Triage.Proofs.Processor.Rows
import Triage.Proofs.Processor.Run
import Triage.Proofs.RangeSet
import Triage.Proofs.Regex.Formed
import Triage.Proofs.Regex.Language
import Triage.Proofs.Regex.Length
import Triage.Proofs.Regex.NormalForm
import Triage.Proofs.Regex.Widening
import Triage.Proofs.Regex.Widths
import Triage.Proofs.Rule.Accepted
import Triage.Proofs.Rule.Calls
import Triage.Proofs.Rule.Composition
import Triage.Proofs.Rule.Descent
import Triage.Proofs.Rule.HexPatterns
import Triage.Proofs.Rule.Identity
import Triage.Proofs.Rule.Kinds
import Triage.Proofs.Rule.Layout
import Triage.Proofs.Rule.Likeness
import Triage.Proofs.Rule.Naming
import Triage.Proofs.Rule.Operands
import Triage.Proofs.Rule.Patterns
import Triage.Proofs.Rule.Printing
import Triage.Proofs.Rule.Recovery
import Triage.Proofs.Rule.RoundTrip
import Triage.Proofs.Rule.Shape
import Triage.Proofs.Rule.Views
import Triage.Proofs.Rule.Visits
import Triage.Proofs.Scheduler.Accounts
import Triage.Proofs.Scheduler.Interleaving
import Triage.Proofs.Scheduler.Progress
import Triage.Proofs.Scheduler.Steps
import Triage.Proofs.Search.Case
import Triage.Proofs.Search.Context
import Triage.Proofs.Search.Exact
import Triage.Proofs.Search.Extent
import Triage.Proofs.Search.Literals
import Triage.Proofs.Search.Order
import Triage.Proofs.Search.Pass
import Triage.Proofs.Search.Program
import Triage.Proofs.Search.Single
import Triage.Proofs.Search.Transfer
import Triage.Proofs.Search.Words
import Triage.Proofs.Sink.JsonLines
import Triage.Proofs.Sql.Meaning
import Triage.Proofs.Timestamp.Calendar
import Triage.Proofs.Timestamp.Order
import Triage.Proofs.Token.Tiling
import Triage.Proofs.Token.Written
import Triage.Proofs.Utf8
import Triage.Proofs.Walk
import Triage.Regex.Run.Lemmas
import Triage.Row.Reader
import Triage.Sink.Journal
import Triage.Sink.Memory
