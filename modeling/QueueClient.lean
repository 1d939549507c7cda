import QueueClient.Activity.Basic
import QueueClient.Activity.World
import QueueClient.Binary64
import QueueClient.Body
import QueueClient.Calendar
import QueueClient.Context.Basic
import QueueClient.Context.Token
import QueueClient.Credential.Basic
import QueueClient.Credential.Signature
import QueueClient.Digest.Hmac
import QueueClient.Digest.Sha256
import QueueClient.Duration
import QueueClient.Encoding.Base64
import QueueClient.Encoding.Utf8
import QueueClient.Error
import QueueClient.ErrorBody
import QueueClient.Headers
import QueueClient.Json.Basic
import QueueClient.Json.Reader
import QueueClient.Json.Writer
import QueueClient.Log
import QueueClient.Markup.Event
import QueueClient.Message
import QueueClient.Pipeline.Basic
import QueueClient.Pipeline.Options
import QueueClient.Pipeline.Script
import QueueClient.Proofs.Activity.Entries
import QueueClient.Proofs.Activity.GivingWay
import QueueClient.Proofs.Activity.InStep
import QueueClient.Proofs.Activity.Runs
import QueueClient.Proofs.Activity.Safety
import QueueClient.Proofs.Activity.Seen
import QueueClient.Proofs.Activity.Straight
import QueueClient.Proofs.Activity.Taking
import QueueClient.Proofs.Activity.Together
import QueueClient.Proofs.Activity.Waiting
import QueueClient.Proofs.Binary64.Rounding
import QueueClient.Proofs.Binary64.Seconds
import QueueClient.Proofs.Body.Delivery
import QueueClient.Proofs.Context.Awaiting
import QueueClient.Proofs.Context.Tree
import QueueClient.Proofs.Credential.Presentation
import QueueClient.Proofs.Credential.ReadBack
import QueueClient.Proofs.Credential.Resigning
import QueueClient.Proofs.Credential.Signing
import QueueClient.Proofs.Encoding.RoundTrip
import QueueClient.Proofs.ErrorBody.Fields
import QueueClient.Proofs.ErrorBody.Siblings
import QueueClient.Proofs.ErrorBody.Trail
import QueueClient.Proofs.Json.ReadBack
import QueueClient.Proofs.Json.Scalars
import QueueClient.Proofs.Markup.Escape
import QueueClient.Proofs.Markup.Reading
import QueueClient.Proofs.Markup.Tree
import QueueClient.Proofs.Pipeline.LogEntries
import QueueClient.Proofs.Pipeline.LogFilter
import QueueClient.Proofs.Pipeline.MethodSlot
import QueueClient.Proofs.Pipeline.RequestIds
import QueueClient.Proofs.Pipeline.Secrecy
import QueueClient.Proofs.Pipeline.Slot
import QueueClient.Proofs.Pipeline.Wire
import QueueClient.Proofs.Retry.Backoff
import QueueClient.Proofs.Retry.Cancellation
import QueueClient.Proofs.Retry.ExactRun
import QueueClient.Proofs.Retry.NormalForm
import QueueClient.Proofs.Retry.Rounds
import QueueClient.Proofs.Retry.Streamed
import QueueClient.Proofs.Retry.Timing
import QueueClient.Proofs.Retry.Tries
import QueueClient.Proofs.Sender.Fleet
import QueueClient.Proofs.Sender.Refusal
import QueueClient.Proofs.Sender.Sparing
import QueueClient.Proofs.Settings.Excerpts
import QueueClient.Proofs.Settings.Record
import QueueClient.Proofs.Stage.Calls
import QueueClient.Proofs.Stage.Ids
import QueueClient.Proofs.Text.LetterCase
import QueueClient.Proofs.Text.Numeral
import QueueClient.Proofs.Url.Masking
import QueueClient.Proofs.Url.Pieces
import QueueClient.Proofs.Url.ServerTimeout
import QueueClient.Replay
import QueueClient.Retry.Options
import QueueClient.Retry.ServerTimeout
import QueueClient.Retry.Stage
import QueueClient.Sender.Basic
import QueueClient.Sender.Families
import QueueClient.Sender.Options
import QueueClient.Settings.Document
import QueueClient.Settings.Environment
import QueueClient.Stage.Basic
import QueueClient.Stage.RequestId
import QueueClient.Stage.RequestLog
import QueueClient.Stage.Telemetry
import QueueClient.Status
import QueueClient.Text.Blank
import QueueClient.Text.Canonical
import QueueClient.Text.CanonicalTable
import QueueClient.Text.CaseTable
import QueueClient.Text.CodePoint
import QueueClient.Text.Lowercase
import QueueClient.Text.Numeral
import QueueClient.Text.Quoted
import QueueClient.Text.Unprintable
import QueueClient.Url.Basic
import QueueClient.Url.Domain
import QueueClient.Url.Domain.Direction
import QueueClient.Url.Domain.DirectionTable
import QueueClient.Url.Domain.Joining
import QueueClient.Url.Domain.JoiningTable
import QueueClient.Url.Domain.MappingTable
import QueueClient.Url.Host
import QueueClient.Url.Parser
import QueueClient.Url.Percent
import QueueClient.Url.Punycode
import QueueClient.Url.Query
