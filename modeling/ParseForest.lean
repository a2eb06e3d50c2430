import ParseForest.Automaton.Basic
import ParseForest.Automaton.Json
import ParseForest.Automaton.Layout
import ParseForest.Batch
import ParseForest.Diagnostics
import ParseForest.Engine
import ParseForest.Fault
import ParseForest.Forest.Basic
import ParseForest.Forest.Json
import ParseForest.Forest.Node
import ParseForest.Grammar.Basic
import ParseForest.Grammar.Draft
import ParseForest.Grammar.Json
import ParseForest.Grammar.Subset
import ParseForest.Json.Decode
import ParseForest.Json.Reader
import ParseForest.Json.Token
import ParseForest.Json.Value
import ParseForest.Limits
import ParseForest.Outcome
import ParseForest.Pattern.Basic
import ParseForest.Pattern.Positions
import ParseForest.Proofs.Admission
import ParseForest.Proofs.Automaton
import ParseForest.Proofs.Automaton.Changes
import ParseForest.Proofs.Automaton.Constructed
import ParseForest.Proofs.Batch
import ParseForest.Proofs.Chart.Basic
import ParseForest.Proofs.Chart.Exact
import ParseForest.Proofs.Chart.Greedy
import ParseForest.Proofs.Chart.Grounded
import ParseForest.Proofs.Chart.Laws
import ParseForest.Proofs.Chart.Phase
import ParseForest.Proofs.Chart.Rank
import ParseForest.Proofs.Chart.Records
import ParseForest.Proofs.Chart.Starved
import ParseForest.Proofs.Chart.Waiting
import ParseForest.Proofs.Chart.Weight
import ParseForest.Proofs.Confluence
import ParseForest.Proofs.Deliveries
import ParseForest.Proofs.Derivations
import ParseForest.Proofs.Derives
import ParseForest.Proofs.Document
import ParseForest.Proofs.Draft.Commands
import ParseForest.Proofs.Draft.Resolution
import ParseForest.Proofs.Engine
import ParseForest.Proofs.Except
import ParseForest.Proofs.Fixpoint
import ParseForest.Proofs.Forcing
import ParseForest.Proofs.Forest
import ParseForest.Proofs.Forest.Stored
import ParseForest.Proofs.Forward
import ParseForest.Proofs.Freezing
import ParseForest.Proofs.Json.Read
import ParseForest.Proofs.Json.Scan
import ParseForest.Proofs.Layout
import ParseForest.Proofs.Layout.Canonical
import ParseForest.Proofs.Layout.Exact
import ParseForest.Proofs.Layout.Stored
import ParseForest.Proofs.LeftRecursion
import ParseForest.Proofs.Lists
import ParseForest.Proofs.Outcome
import ParseForest.Proofs.Pattern.Compile
import ParseForest.Proofs.Pattern.Words
import ParseForest.Proofs.Place
import ParseForest.Proofs.Recognition
import ParseForest.Proofs.Regex.Cache
import ParseForest.Proofs.Report
import ParseForest.Proofs.Report.Deepest
import ParseForest.Proofs.RoundTrip
import ParseForest.Proofs.Safety
import ParseForest.Proofs.Session.Announce
import ParseForest.Proofs.Session.Await
import ParseForest.Proofs.Session.Begin
import ParseForest.Proofs.Session.Coherent
import ParseForest.Proofs.Session.Drain
import ParseForest.Proofs.Session.Emit
import ParseForest.Proofs.Session.Force
import ParseForest.Proofs.Session.Growth
import ParseForest.Proofs.Session.Inquire
import ParseForest.Proofs.Session.Laws
import ParseForest.Proofs.Session.Perform
import ParseForest.Proofs.Session.Received
import ParseForest.Proofs.Session.Record
import ParseForest.Proofs.Session.Release
import ParseForest.Proofs.Session.Request
import ParseForest.Proofs.Session.Runs
import ParseForest.Proofs.Session.Termination
import ParseForest.Proofs.Session.View
import ParseForest.Proofs.Shift.Basic
import ParseForest.Proofs.Shift.Outcome
import ParseForest.Proofs.Shift.Session
import ParseForest.Proofs.Sorted
import ParseForest.Proofs.SortedSet
import ParseForest.Proofs.Soundness
import ParseForest.Proofs.Subset
import ParseForest.Proofs.Suspects
import ParseForest.Proofs.Terminal
import ParseForest.Proofs.WaitGraph
import ParseForest.Proofs.WaitGraph.Label
import ParseForest.Proofs.WaitGraph.Walk
import ParseForest.Ratio
import ParseForest.Regex.Cache
import ParseForest.Regex.Library
import ParseForest.Regex.Standard
import ParseForest.Regex.Standard.CaseVariants
import ParseForest.Regex.Standard.CharSet
import ParseForest.Regex.Standard.Expr
import ParseForest.Regex.Standard.Intervals
import ParseForest.Regex.Standard.Members
import ParseForest.Regex.Standard.Parser
import ParseForest.Regex.Standard.Plan
import ParseForest.Regex.Standard.Size
import ParseForest.Regex.Standard.Utf8
import ParseForest.Report
import ParseForest.Session.Run
import ParseForest.Session.State
import ParseForest.Session.Step
import ParseForest.Sorted
import ParseForest.Terminal
import ParseForest.Text.Document
import ParseForest.Text.Quoted
import ParseForest.Text.Span
import ParseForest.Unicode.Category
import ParseForest.Unicode.Property
import ParseForest.Unicode.Ranges
import ParseForest.WaitGraph
