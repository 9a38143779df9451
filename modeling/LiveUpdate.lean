import LiveUpdate.Audience
import LiveUpdate.AudiencePolicy
import LiveUpdate.BigEndian
import LiveUpdate.Config.Arguments
import LiveUpdate.Config.Basic
import LiveUpdate.Config.Option
import LiveUpdate.DomainEvent
import LiveUpdate.Dotenv
import LiveUpdate.Event
import LiveUpdate.Fault
import LiveUpdate.Frame.Json
import LiveUpdate.Frame.Sse
import LiveUpdate.Hub
import LiveUpdate.Identity
import LiveUpdate.Journal
import LiveUpdate.Logger
import LiveUpdate.Mailbox
import LiveUpdate.Main
import LiveUpdate.Program
import LiveUpdate.Proofs.FanOut
import LiveUpdate.Proofs.HubOrder
import LiveUpdate.Proofs.HubRuns
import LiveUpdate.Proofs.ReferenceQueue
import LiveUpdate.Proofs.RegistryIndex
import LiveUpdate.Proofs.TableFigures
import LiveUpdate.Publisher
import LiveUpdate.Pump.Pair
import LiveUpdate.Pump.Reader
import LiveUpdate.Pump.Sink
import LiveUpdate.Pump.Writer
import LiveUpdate.Registry
import LiveUpdate.Server
import LiveUpdate.Session.Basic
import LiveUpdate.Session.Operation
import LiveUpdate.Session.Schedule
import LiveUpdate.Session.Start
import LiveUpdate.Stream
import LiveUpdate.Table
import LiveUpdate.Text.Alphanumeric
import LiveUpdate.Text.Base64
import LiveUpdate.Text.Blank
import LiveUpdate.Text.CodeRanges
import LiveUpdate.Text.GraphemeExtend
import LiveUpdate.Text.Lowercase
import LiveUpdate.Text.Numeral
import LiveUpdate.Text.Quoted
import LiveUpdate.Text.Unprintable
import LiveUpdate.Text.Utf8
import LiveUpdate.Web.Cors
import LiveUpdate.Web.Form
import LiveUpdate.Web.Identification
import LiveUpdate.Web.Message
import LiveUpdate.Web.Refusal
import LiveUpdate.Web.Router
import LiveUpdate.Web.Target
import LiveUpdate.Web.Upgrade
import LiveUpdate.Web.Wire
import LiveUpdate.WebSocket.Client
import LiveUpdate.WebSocket.Digest
import LiveUpdate.WebSocket.Frame
import LiveUpdate.WebSocket.Link
import LiveUpdate.WebSocket.Wire
import LiveUpdate.Proofs.Turns
import LiveUpdate.Proofs.WebRuns
import LiveUpdate.Proofs.Ledger
import LiveUpdate.Proofs.PairRules
import LiveUpdate.Proofs.Custody
import LiveUpdate.Proofs.CustodySteps
import LiveUpdate.Proofs.Progress
import LiveUpdate.Proofs.Settling
import LiveUpdate.Proofs.Ownership
import LiveUpdate.Proofs.Glimpses
import LiveUpdate.Proofs.Offers
import LiveUpdate.Proofs.Seating
import LiveUpdate.Proofs.Transcripts
import LiveUpdate.Proofs.WebTranscripts
import LiveUpdate.Proofs.Visits
import LiveUpdate.Proofs.PlanAudiences
import LiveUpdate.Proofs.Pulse
import LiveUpdate.Proofs.Seclusion
import LiveUpdate.Proofs.UntrustedIdentity
import LiveUpdate.Proofs.Account
import LiveUpdate.Proofs.SubmissionOrder
import LiveUpdate.Proofs.Departures
import LiveUpdate.Proofs.Cancellation
import LiveUpdate.Proofs.Tending
import LiveUpdate.Proofs.WriterLedger
import LiveUpdate.Proofs.Teardown
import LiveUpdate.Proofs.Actions
import LiveUpdate.Proofs.Intake
import LiveUpdate.Proofs.AccessControl
import LiveUpdate.Proofs.Courses
import LiveUpdate.Proofs.Holders
import LiveUpdate.Proofs.Shutdown
import LiveUpdate.Proofs.Regimes
import LiveUpdate.Proofs.Bodies
import LiveUpdate.Proofs.EventStreams
import LiveUpdate.Proofs.Malformed
import LiveUpdate.Proofs.JsonParsing
import LiveUpdate.Proofs.EventSource
import LiveUpdate.Proofs.WriterRuns
import LiveUpdate.Proofs.ReaderRuns
import LiveUpdate.Proofs.AlikeHubs
import LiveUpdate.Proofs.Notices
import LiveUpdate.Proofs.IndexScan
import LiveUpdate.Proofs.Conservation
import LiveUpdate.Proofs.TextGrammar
import LiveUpdate.Proofs.IdentityGrammar
import LiveUpdate.Proofs.NotifyEndpoint
import LiveUpdate.Proofs.CourseCounts
import LiveUpdate.Proofs.AuditTrail
import LiveUpdate.Proofs.HubLoss
import LiveUpdate.Proofs.Greetings
import LiveUpdate.Proofs.Utf8Coding
import LiveUpdate.Proofs.OptionValues
import LiveUpdate.Proofs.CommandLines
import LiveUpdate.Proofs.ConfigSources
import LiveUpdate.Proofs.Quantities
import LiveUpdate.Proofs.Origins
import LiveUpdate.Proofs.Lineages
import LiveUpdate.Proofs.QuotedText
import LiveUpdate.Proofs.EventTexts
import LiveUpdate.Proofs.CaseVariants
