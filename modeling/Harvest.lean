import Harvest.Command.Arguments
import Harvest.Command.Basic
import Harvest.Command.Work
import Harvest.Coordinator
import Harvest.Css.Match
import Harvest.Css.Reader
import Harvest.Css.Selector
import Harvest.Css.Token
import Harvest.Error
import Harvest.Executor
import Harvest.Extraction
import Harvest.Fetch
import Harvest.Html.Arena
import Harvest.Html.Builder.Basic
import Harvest.Html.Builder.Body
import Harvest.Html.Builder.Foreign
import Harvest.Html.Builder.Formatting
import Harvest.Html.Builder.Head
import Harvest.Html.Builder.Table
import Harvest.Html.Node
import Harvest.Html.Place
import Harvest.Html.Reader
import Harvest.Html.Reference
import Harvest.Html.Text
import Harvest.Html.Token
import Harvest.Html.Token.Reader
import Harvest.Http
import Harvest.Interpreter
import Harvest.Job
import Harvest.Job.Decode
import Harvest.Job.Encode
import Harvest.Json.Basic
import Harvest.Json.Decode
import Harvest.Json.Numeral
import Harvest.Json.Reader
import Harvest.Json.Writer
import Harvest.Loading
import Harvest.Locale
import Harvest.Main
import Harvest.Number.Binary64
import Harvest.Number.Shortest
import Harvest.Page
import Harvest.Page.Detection
import Harvest.Page.Scrape
import Harvest.Pass
import Harvest.Proofs.Sync.Accounts
import Harvest.Proofs.Sync.Act
import Harvest.Proofs.Sync.Calls
import Harvest.Proofs.Sync.Dispatch
import Harvest.Proofs.Sync.Frame
import Harvest.Proofs.Sync.Runs
import Harvest.Proofs.Sync.Tokens
import Harvest.Proofs.Sync.Plans
import Harvest.Proofs.Sync.Quiet
import Harvest.Proofs.Sync.Registry
import Harvest.Proofs.Sync.Resubmission
import Harvest.Proofs.Sync.Running
import Harvest.Proofs.Sync.Signs
import Harvest.Proofs.Sync.Steps
import Harvest.Proofs.Sync.Stopping
import Harvest.Proofs.Sync.Submission
import Harvest.Proofs.Sync.Tasks
import Harvest.Proofs.Sync.Timers
import Harvest.Proofs.Sync.Transfer
import Harvest.Proofs.Sync.Turns
import Harvest.Queue
import Harvest.Queue.Run
import Harvest.Regex.Basic
import Harvest.Regex.Class
import Harvest.Regex.Fault
import Harvest.Regex.Pattern
import Harvest.Regex.Program
import Harvest.Regex.Reader
import Harvest.Regex.Search
import Harvest.Rehearsal.Stage
import Harvest.Rehearsal.Transport
import Harvest.Resource.Basic
import Harvest.Resource.Decode
import Harvest.Resource.Encode
import Harvest.Route
import Harvest.Settings
import Harvest.Style
import Harvest.Sync.Basic
import Harvest.Sync.Client
import Harvest.Sync.Delivery
import Harvest.Sync.Notice
import Harvest.Sync.Polling
import Harvest.Sync.Refresh
import Harvest.Sync.Run
import Harvest.Text.Bidi
import Harvest.Text.Blank
import Harvest.Text.Category
import Harvest.Text.CharSet
import Harvest.Text.Fold
import Harvest.Text.Normal
import Harvest.Text.Property
import Harvest.Text.Script
import Harvest.Text.Utf8
import Harvest.Ticker
import Harvest.Timestamp
import Harvest.Transform
import Harvest.Url.Address
import Harvest.Url.Basic
import Harvest.Url.Form
import Harvest.Url.Host
import Harvest.Url.HostName
import Harvest.Url.NameMapping
import Harvest.Url.Percent
import Harvest.Url.Punycode
import Harvest.Url.Reader
import Harvest.Proofs.Sync.Courses
import Harvest.Proofs.Sync.Works
import Harvest.Proofs.Sync.Passing
import Harvest.Proofs.Sync.Conveyance
import Harvest.Proofs.Sync.Locks
import Harvest.Proofs.Sync.Fetching
import Harvest.Proofs.Sync.Overlaps
import Harvest.Proofs.Sync.Halting
import Harvest.Proofs.Sync.LatePolls
import Harvest.Proofs.Sync.Caches
import Harvest.Proofs.Sync.Confinement
import Harvest.Proofs.Sync.Returns
import Harvest.Proofs.Sync.Refreshes
import Harvest.Proofs.Sync.Polls
import Harvest.Proofs.Sync.Replacement
import Harvest.Proofs.Sync.Rounds
import Harvest.Proofs.Sync.Errors
import Harvest.Proofs.Sync.Resumption
import Harvest.Proofs.Sync.Backoff
import Harvest.Proofs.Sync.Definitions
import Harvest.Proofs.Queue.Thread
import Harvest.Proofs.Queue.Pace
import Harvest.Proofs.Extraction.Leaves
import Harvest.Proofs.Extraction.Shapes
import Harvest.Proofs.Queue.Scripts
import Harvest.Proofs.Extraction.Composition
import Harvest.Proofs.Extraction.Unrecognized
import Harvest.Proofs.Extraction.Locales
import Harvest.Proofs.Json.Scalars
import Harvest.Proofs.Json.Rearrangement
import Harvest.Proofs.Json.RoundTrip
import Harvest.Proofs.Page.Belonging
import Harvest.Proofs.Page.Execution
import Harvest.Proofs.Job.RoundTrip
import Harvest.Proofs.Interpreter.Waiting
import Harvest.Proofs.Interpreter.Reuse
import Harvest.Proofs.Interpreter.Settling
import Harvest.Proofs.Interpreter.Failures
import Harvest.Proofs.Resource.RoundTrip
import Harvest.Proofs.Resource.Changes
import Harvest.Proofs.Resource.Compatibility
import Harvest.Proofs.Page.Matching
import Harvest.Proofs.Job.Flag
import Harvest.Proofs.Fetch.Protection
import Harvest.Proofs.Route.Anchoring
import Harvest.Proofs.Extraction.Records
import Harvest.Proofs.Regex.Names
import Harvest.Proofs.Route.Variables
import Harvest.Proofs.Regex.Items
import Harvest.Proofs.Regex.Preference
import Harvest.Proofs.Route.Expressions
import Harvest.Proofs.Route.Scanning
import Harvest.Proofs.Route.Templates
import Harvest.Proofs.Route.Segments
import Harvest.Proofs.Url.Addresses
import Harvest.Proofs.Url.Hosts
import Harvest.Proofs.Fetch.Acceptance
import Harvest.Proofs.Number.Rounding
import Harvest.Proofs.Locale.Numbers
import Harvest.Proofs.Fetch.Retries
import Harvest.Proofs.Transform.Collapsing
import Harvest.Proofs.Queue.Schedule
import Harvest.Proofs.Html.Addresses
import Harvest.Proofs.Html.Arenas
import Harvest.Proofs.Html.Building
import Harvest.Proofs.Html.Phases
import Harvest.Proofs.Html.Flattening
import Harvest.Proofs.Page.Detection
import Harvest.Proofs.Extraction.Styles
import Harvest.Proofs.Sync.Behalf
import Harvest.Proofs.Sync.Newcomers
import Harvest.Proofs.Sync.Neighbours
import Harvest.Proofs.Extraction.Paths
import Harvest.Proofs.Sync.Pausing
import Harvest.Proofs.Sync.Sweeps
import Harvest.Proofs.Sync.Enrolment
import Harvest.Proofs.Coordinator.Truncation
