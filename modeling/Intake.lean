import Intake.Api.Answer
import Intake.Api.Refusal
import Intake.Api.Route
import Intake.Api.Transfer
import Intake.Api.Upload
import Intake.Artifact.Basic
import Intake.Artifact.Sidecar
import Intake.Build
import Intake.Bytes
import Intake.CommandLine
import Intake.Decimal.Binary64
import Intake.Decimal.Shortest
import Intake.Http.Client
import Intake.Http.MediaType
import Intake.Http.Message
import Intake.Http.Multipart
import Intake.Http.Status
import Intake.Http.Transfer
import Intake.Json.Fault
import Intake.Json.Record
import Intake.Json.Scan
import Intake.Json.Skip
import Intake.Json.Value
import Intake.Json.Writer
import Intake.Launch.EnvFile
import Intake.Launch.Run
import Intake.Log.Event
import Intake.Log.Filter
import Intake.Log.Setup
import Intake.Main
import Intake.Metrics.Counter
import Intake.Metrics.Exposition
import Intake.Net.Address
import Intake.Net.SocketAddress
import Intake.Poll.Attempt
import Intake.Poll.Crew
import Intake.Poll.Cycle
import Intake.Poll.DeadLetter
import Intake.Poll.Line
import Intake.Poll.Policy
import Intake.Poll.RateLimit
import Intake.Poll.Task
import Intake.Rehearsal.Attempt
import Intake.Rehearsal.Cast
import Intake.Rehearsal.Crew
import Intake.Rehearsal.Holding
import Intake.Rehearsal.Launch
import Intake.Rehearsal.Queue
import Intake.Rehearsal.Surroundings
import Intake.Rehearsal.Upstream
import Intake.Remote.Fault
import Intake.Remote.Gateway
import Intake.Remote.Message
import Intake.Remote.PollBody
import Intake.Script
import Intake.Service.Call
import Intake.Service.Dataset
import Intake.Settings
import Intake.Store.Directory
import Intake.Store.Fault
import Intake.Store.Memory
import Intake.Store.Volume
import Intake.Text.Base64
import Intake.Text.Blank
import Intake.Text.Charset
import Intake.Text.CodePages
import Intake.Text.Combining
import Intake.Text.Decimal
import Intake.Text.EastAsian
import Intake.Text.Fold
import Intake.Text.Index.Big5
import Intake.Text.Index.Chinese
import Intake.Text.Index.Jis
import Intake.Text.Index.Korean
import Intake.Text.Percent
import Intake.Text.Punycode
import Intake.Text.Quoted
import Intake.Text.Unprintable
import Intake.Text.Utf8
import Intake.Url.Basic
import Intake.Url.Host
import Intake.Url.Parse
import Intake.Proofs.Poll.Career
import Intake.Proofs.Poll.Line
import Intake.Proofs.Poll.Census
import Intake.Proofs.Poll.Tracking
import Intake.Proofs.Poll.Roster
import Intake.Proofs.Poll.Transition
import Intake.Proofs.Poll.Watch
import Intake.Proofs.Poll.Run
import Intake.Proofs.Poll.Conservation
import Intake.Proofs.Poll.Budget
import Intake.Proofs.Poll.Pace
import Intake.Proofs.Poll.Slots
import Intake.Proofs.Poll.Permits
import Intake.Proofs.Poll.Turnover
import Intake.Proofs.Poll.Load
import Intake.Proofs.Poll.Crowd
import Intake.Proofs.Poll.Progress
import Intake.Proofs.Text.Utf8
import Intake.Proofs.Json.Text
import Intake.Proofs.Artifact.Sidecar
import Intake.Proofs.Store.Volume
import Intake.Proofs.Store.Layout
import Intake.Proofs.Store.Orderly
import Intake.Proofs.Store.Directory
import Intake.Proofs.Script
import Intake.Proofs.Store.Cut
import Intake.Proofs.Store.Interruption
import Intake.Proofs.Store.Whole
import Intake.Proofs.Service.Play
import Intake.Proofs.Service.Settlement
import Intake.Proofs.Service.Convergence
import Intake.Proofs.Service.Traffic
import Intake.Proofs.Service.Advance
import Intake.Proofs.Service.Promotion
import Intake.Proofs.Service.Ordering
import Intake.Proofs.Service.Separation
import Intake.Proofs.Service.Race
import Intake.Proofs.Poll.Errand
import Intake.Proofs.Poll.Shift
import Intake.Proofs.Poll.Plant
import Intake.Proofs.Poll.Toll
import Intake.Proofs.Poll.Bookkeeping
import Intake.Proofs.Poll.Gauges
import Intake.Proofs.Poll.Accounts
import Intake.Proofs.Poll.Discard
import Intake.Proofs.Poll.Settled
import Intake.Proofs.Poll.Logbook
import Intake.Proofs.Poll.Grounds
import Intake.Proofs.Poll.Abandonment
import Intake.Proofs.Poll.Saturation
import Intake.Proofs.Poll.Shutdown
import Intake.Proofs.Api.Pieces
import Intake.Proofs.Api.Depot
import Intake.Proofs.Api.Headers
import Intake.Proofs.Api.Catalogue
import Intake.Proofs.Service.Completion
import Intake.Proofs.Service.Replacement
import Intake.Proofs.Store.Overwrite
import Intake.Proofs.Service.Admission
import Intake.Proofs.Store.Absence
import Intake.Proofs.Service.Approval
import Intake.Proofs.Store.Tree
import Intake.Proofs.Store.Confinement
import Intake.Proofs.Json.Grammar
import Intake.Proofs.Json.Skip
import Intake.Proofs.Json.Spelling
import Intake.Proofs.Json.Shape
import Intake.Proofs.Json.Record
import Intake.Proofs.Remote.PollBody
import Intake.Proofs.Except
import Intake.Proofs.Json.Sequel
import Intake.Proofs.Json.Extent
import Intake.Proofs.Remote.Fragment
import Intake.Proofs.Text.Decimal
import Intake.Proofs.Settings
import Intake.Proofs.Store.Retagging
