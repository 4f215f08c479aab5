import Deliberation.Archive.Stamped
import Deliberation.Archive.Timestamp
import Deliberation.Command.Arguments
import Deliberation.Command.Invocation
import Deliberation.Command.Replay
import Deliberation.Command.Usage
import Deliberation.Debate.Argument
import Deliberation.Debate.Perspective
import Deliberation.Debate.Verdict
import Deliberation.Dialogue.Completion
import Deliberation.Dialogue.Message
import Deliberation.Dialogue.Registry
import Deliberation.Dialogue.Tool
import Deliberation.Dialogue.Validation
import Deliberation.Engine.Debating
import Deliberation.Engine.Iterative
import Deliberation.Engine.Orchestrator
import Deliberation.Engine.Reflexive
import Deliberation.Engine.Team
import Deliberation.Engine.TreeSearch
import Deliberation.Json.Bytes
import Deliberation.Json.Literal
import Deliberation.Json.Pretty
import Deliberation.Json.Record
import Deliberation.Json.Syntax
import Deliberation.Json.Token
import Deliberation.Json.Value
import Deliberation.Main
import Deliberation.Number.Dyadic
import Deliberation.Number.Fixed
import Deliberation.Number.Literal
import Deliberation.Number.Shortest
import Deliberation.Number.UnitInterval
import Deliberation.Number.Word
import Deliberation.Outcome.Failure
import Deliberation.Outcome.Result
import Deliberation.Outcome.Trace
import Deliberation.Pipe.Client
import Deliberation.Pipe.Failure
import Deliberation.Pipe.Network
import Deliberation.Pipe.Response
import Deliberation.Pipe.Wire
import Deliberation.Pipe.World
import Deliberation.Prompt
import Deliberation.Proofs.Archive.Records
import Deliberation.Proofs.Archive.Timestamp
import Deliberation.Proofs.Command.Arguments
import Deliberation.Proofs.Command.Configuration
import Deliberation.Proofs.Debate.Fallback
import Deliberation.Proofs.Debate.Perspective
import Deliberation.Proofs.Debate.Verdict
import Deliberation.Proofs.Dialogue.Registry
import Deliberation.Proofs.Engine.Acceptance
import Deliberation.Proofs.Engine.Anytime
import Deliberation.Proofs.Engine.Appraisal
import Deliberation.Proofs.Engine.Approval
import Deliberation.Proofs.Engine.Beam
import Deliberation.Proofs.Engine.Budget
import Deliberation.Proofs.Engine.Cancellation
import Deliberation.Proofs.Engine.Complete
import Deliberation.Proofs.Engine.Containment
import Deliberation.Proofs.Engine.Conversation
import Deliberation.Proofs.Engine.Debating
import Deliberation.Proofs.Engine.Depth
import Deliberation.Proofs.Engine.Expansion
import Deliberation.Proofs.Engine.Interruption
import Deliberation.Proofs.Engine.Isolation
import Deliberation.Proofs.Engine.Judgement
import Deliberation.Proofs.Engine.Leeway
import Deliberation.Proofs.Engine.Level
import Deliberation.Proofs.Engine.Pacing
import Deliberation.Proofs.Engine.Reappraisal
import Deliberation.Proofs.Engine.Recollection
import Deliberation.Proofs.Engine.Revision
import Deliberation.Proofs.Engine.Settlement
import Deliberation.Proofs.Engine.Silence
import Deliberation.Proofs.Engine.Sound
import Deliberation.Proofs.Engine.Survival
import Deliberation.Proofs.Engine.Transcript
import Deliberation.Proofs.Engine.TreeSearch
import Deliberation.Proofs.Engine.Wordless
import Deliberation.Proofs.Json.Depth
import Deliberation.Proofs.Json.Document
import Deliberation.Proofs.Json.Exact
import Deliberation.Proofs.Json.Firm
import Deliberation.Proofs.Json.Grammar
import Deliberation.Proofs.Json.Lexing
import Deliberation.Proofs.Json.Numeral
import Deliberation.Proofs.Json.Printing
import Deliberation.Proofs.Json.Reading
import Deliberation.Proofs.Json.Roundtrip
import Deliberation.Proofs.Number.Linear
import Deliberation.Proofs.Number.Order
import Deliberation.Proofs.Number.Status
import Deliberation.Proofs.Outcome.Sound
import Deliberation.Proofs.Pipe.Mapping
import Deliberation.Proofs.Pipe.Retry
import Deliberation.Proofs.Prompt
import Deliberation.Proofs.Reply.Braces
import Deliberation.Proofs.Reply.Grading
import Deliberation.Proofs.Reply.Lines
import Deliberation.Proofs.Reply.Listing
import Deliberation.Proofs.Reply.Location
import Deliberation.Proofs.Reply.Passage
import Deliberation.Proofs.Reply.Recovery
import Deliberation.Proofs.Run.Abandonment
import Deliberation.Proofs.Run.Call
import Deliberation.Proofs.Run.Calm
import Deliberation.Proofs.Run.Determinism
import Deliberation.Proofs.Run.Duration
import Deliberation.Proofs.Run.Ends
import Deliberation.Proofs.Run.Evaluation
import Deliberation.Proofs.Run.Exchange
import Deliberation.Proofs.Run.Expense
import Deliberation.Proofs.Run.Footprint
import Deliberation.Proofs.Run.Group
import Deliberation.Proofs.Run.Guard
import Deliberation.Proofs.Run.Instant
import Deliberation.Proofs.Run.Leeway
import Deliberation.Proofs.Run.Lockstep
import Deliberation.Proofs.Run.Order
import Deliberation.Proofs.Run.Panic
import Deliberation.Proofs.Run.Return
import Deliberation.Proofs.Run.Schedule
import Deliberation.Proofs.Run.Sequence
import Deliberation.Proofs.Run.Soundness
import Deliberation.Proofs.Run.Steady
import Deliberation.Proofs.Run.Synchrony
import Deliberation.Proofs.Search.Construction
import Deliberation.Proofs.Search.Growth
import Deliberation.Proofs.Search.Improvement
import Deliberation.Proofs.Search.Ranking
import Deliberation.Proofs.Search.Valuation
import Deliberation.Proofs.Settings.Clamping
import Deliberation.Proofs.Settings.Loading
import Deliberation.Proofs.Sort
import Deliberation.Proofs.Text.Bytes
import Deliberation.Reflection.Memory
import Deliberation.Reply.Candidates
import Deliberation.Reply.Grade
import Deliberation.Reply.Object
import Deliberation.Run.Process
import Deliberation.Run.Program
import Deliberation.Run.Query
import Deliberation.Run.Schedule
import Deliberation.Run.Session
import Deliberation.Script.Cast
import Deliberation.Script.Deck
import Deliberation.Script.Recording
import Deliberation.Script.Server
import Deliberation.Search.Heuristic
import Deliberation.Search.Score
import Deliberation.Search.Tree
import Deliberation.Settings.Basic
import Deliberation.Settings.Environment
import Deliberation.Task.Basic
import Deliberation.Task.Options
import Deliberation.Task.Selection
import Deliberation.Task.Strategy
import Deliberation.Text.Blank
import Deliberation.Text.Escape
import Deliberation.Text.Letter
import Deliberation.Text.Preview
import Deliberation.Text.Search
import Deliberation.Text.Table.Alphanumeric
import Deliberation.Text.Table.CaseIgnorable
import Deliberation.Text.Table.Cased
import Deliberation.Text.Table.Extending
import Deliberation.Text.Table.Lowercase
import Deliberation.Text.Table.Unprintable
import Deliberation.Text.Utf8
