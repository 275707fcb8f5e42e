import FlowClient.Json.Parser
import FlowClient.Json.Printer
import FlowClient.Table
import FlowClient.Text.Blank
import FlowClient.Text.Replace
import FlowClient.Status
import FlowClient.Tree
import FlowClient.Path
import FlowClient.Mirror
import FlowClient.Failure
import FlowClient.Json.Reader
import FlowClient.Wire
import FlowClient.Wire.Encoding
import FlowClient.Wire.Decoding
import FlowClient.Task
import FlowClient.Queue
import FlowClient.Session.Completion
import FlowClient.Command
import FlowClient.ClientError
import FlowClient.ScriptedServer
import FlowClient.Text.Quoted
import FlowClient.Live
import FlowClient.Registry
import FlowClient.Trial
import FlowClient.Report
import FlowClient.Trial.Description
import FlowClient.Toml.Parser
import FlowClient.Config.Document
import FlowClient.Config.Report
import FlowClient.CommandLine.Report
import FlowClient.Program.Offline
import FlowClient.Main
import FlowClient.Proofs.Queue.Ledger
import FlowClient.Proofs.Queue.Moves
import FlowClient.Proofs.Session.Run
import FlowClient.Proofs.Queue.Sound
import FlowClient.Proofs.Conversation
import FlowClient.Proofs.Conversation.Changes
import FlowClient.Proofs.Mirror.Scan
import FlowClient.Proofs.Session.Dispatch
import FlowClient.Proofs.Session.Filled
import FlowClient.Proofs.Session.Mirrored
import FlowClient.Proofs.Queue.Held
import FlowClient.Proofs.Session.Held
import FlowClient.Proofs.Session.Resets
import FlowClient.Proofs.Session.Loading
import FlowClient.Proofs.Session.Filters
import FlowClient.Proofs.Session.Selection
import FlowClient.Proofs.Queue.Tellings
import FlowClient.Proofs.Session.Told
import FlowClient.Proofs.Session.Rearming
import FlowClient.Proofs.Session.Timers
import FlowClient.Proofs.Queue.Placed
import FlowClient.Proofs.Queue.Progress
import FlowClient.Proofs.Session.Lasting
import FlowClient.Proofs.Session.Released
import FlowClient.Proofs.Mirror.Narrative
import FlowClient.Proofs.Session.Chronicles
import FlowClient.Proofs.Session.Narratives
import FlowClient.Proofs.Live.Run
import FlowClient.Proofs.Live.Linked
import FlowClient.Proofs.Live.Answers
import FlowClient.Proofs.Queue.Outstanding
import FlowClient.Proofs.Session.Quiet
import FlowClient.Proofs.Session.Disconnected
import FlowClient.Proofs.Live.Sendings
import FlowClient.Proofs.Live.Credentials
import FlowClient.Proofs.Json.RoundTrip
import FlowClient.Proofs.Wire.Readers
import FlowClient.Proofs.Wire.RoundTrip
import FlowClient.Proofs.Session.Verdicts
import FlowClient.Proofs.Session.Pictures
import FlowClient.Proofs.Session.Stamps
import FlowClient.Proofs.Session.Endings
import FlowClient.Proofs.Session.Traceless
import FlowClient.Proofs.Session.Cancellations
import FlowClient.Proofs.Session.Syncs
import FlowClient.Proofs.Live.Shutdown
import FlowClient.Proofs.Registry.Commands
import FlowClient.Proofs.Queue.Alike
import FlowClient.Proofs.Mirror.Outline
import FlowClient.Proofs.Tables
import FlowClient.Proofs.SuiteFilter
import FlowClient.Proofs.Text.Words
import FlowClient.Proofs.Command.Templates
import FlowClient.Proofs.Tree.Repeated
import FlowClient.Proofs.Mirror.Repeated
import FlowClient.Proofs.Queue.Args
import FlowClient.Proofs.Queue.Window
import FlowClient.Proofs.Session.Registered
import FlowClient.Proofs.Session.Redelivered
import FlowClient.Proofs.Session.Failures
import FlowClient.Proofs.Session.Commands
import FlowClient.Proofs.Live.Tickets
import FlowClient.Proofs.Live.Attending
import FlowClient.Proofs.Command.Groups
import FlowClient.Proofs.Registry.Delivery
import FlowClient.Proofs.Session.Attempts
import FlowClient.Proofs.Live.Alone
import FlowClient.Proofs.Tree.Lookup
import FlowClient.Proofs.Updates
import FlowClient.Proofs.Paths
import FlowClient.Proofs.Tree.Places
import FlowClient.Proofs.Mirror.Lookups
import FlowClient.Proofs.Config
import FlowClient.Proofs.Connection
