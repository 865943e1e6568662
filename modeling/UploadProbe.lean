import UploadProbe.Text.Basic
import UploadProbe.Text.Utf8
import UploadProbe.Failure
import UploadProbe.Timeout.Numeral
import UploadProbe.Timeout.Binary64
import UploadProbe.Timeout.Duration
import UploadProbe.Json.Basic
import UploadProbe.Json.Parser
import UploadProbe.Receipt
import UploadProbe.Sample.Path
import UploadProbe.Settings
import UploadProbe.Text.Terminal
import UploadProbe.Text.Unprintable
import UploadProbe.Text.Quoted
import UploadProbe.Log.Event
import UploadProbe.Log.Filter
import UploadProbe.CommandLine.Flag
import UploadProbe.CommandLine.Similarity
import UploadProbe.CommandLine.Stop
import UploadProbe.CommandLine.Reading
import UploadProbe.Sample.FileTree
import UploadProbe.Sample.Walk
import UploadProbe.Sample.Edits
import UploadProbe.Url.HostMapping
import UploadProbe.Url.DomainMapping
import UploadProbe.Url.Punycode
import UploadProbe.Url.Percent
import UploadProbe.Url.Basic
import UploadProbe.Url.Address
import UploadProbe.Url.Domain
import UploadProbe.Url.Parser
import UploadProbe.MediaType
import UploadProbe.Text.Base64
import UploadProbe.Multipart
import UploadProbe.Http.Headers
import UploadProbe.Url.Sendable
import UploadProbe.Http.Request
import UploadProbe.Http.Scan
import UploadProbe.Http.ReplyHead
import UploadProbe.Http.Chunked
import UploadProbe.Http.Framing
import UploadProbe.Charset.Multibyte
import UploadProbe.Charset.Table
import UploadProbe.Charset.Label
import UploadProbe.Charset.Decoding
import UploadProbe.Libraries
import UploadProbe.Http.Server
import UploadProbe.Http.Connection
import UploadProbe.Upload.Outcome
import UploadProbe.Upload.Exchange
import UploadProbe.Upload.Sample
import UploadProbe.Sink
import UploadProbe.Probe
import UploadProbe.Program
import UploadProbe.System
import UploadProbe.Main
import UploadProbe.Multipart.Reading
import UploadProbe.Http.ReplyWriting
import UploadProbe.Upload.Series
import UploadProbe.Proofs.Utf8
import UploadProbe.Proofs.Sink
import UploadProbe.Proofs.UploadSteps
import UploadProbe.Proofs.ProbeSteps
import UploadProbe.Proofs.Outcomes
import UploadProbe.Proofs.FailingSinks
import UploadProbe.Proofs.ChunkReading
import UploadProbe.Proofs.FormReading
import UploadProbe.Proofs.FramingReading
import UploadProbe.Proofs.HeadReading
import UploadProbe.Proofs.MediaType
import UploadProbe.Proofs.PostedForms
import UploadProbe.Proofs.TruncatedReplies
import UploadProbe.Proofs.RequestHeaders
import UploadProbe.Proofs.Redirections
import UploadProbe.Proofs.RequestSeries
import UploadProbe.Proofs.ArrivingRequests
import UploadProbe.Proofs.Answers
import UploadProbe.Proofs.WrittenReplies
import UploadProbe.Proofs.AnsweredUploads
import UploadProbe.Proofs.AcceptedSettings
import UploadProbe.Proofs.ProgramRuns
import UploadProbe.Proofs.WholeSeconds
import UploadProbe.Proofs.NearestBinary64
import UploadProbe.Proofs.RoundedDecimals
import UploadProbe.Proofs.NumeralGrammar
import UploadProbe.Proofs.ExactTimeouts
import UploadProbe.Proofs.AssignedSettings
import UploadProbe.Proofs.WinningValues
import UploadProbe.Proofs.AcceptedArguments
import UploadProbe.Proofs.JsonGrammar
import UploadProbe.Proofs.JsonLexemes
import UploadProbe.Proofs.JsonReading
import UploadProbe.Proofs.ReceiptShapes
import UploadProbe.Proofs.Receipts
import UploadProbe.Proofs.UrlCharacters
import UploadProbe.Proofs.Descriptions
import UploadProbe.Proofs.FailureLines
import UploadProbe.Proofs.FirstFailures
import UploadProbe.Proofs.SharedClient
import UploadProbe.Proofs.RootedUrls
import UploadProbe.Proofs.UrlUserinfo
import UploadProbe.Proofs.RequestHeads
import UploadProbe.Proofs.TakenCredentials
import UploadProbe.Proofs.FaithfulTimeouts
import UploadProbe.Proofs.LogEntries
import UploadProbe.Proofs.DeclaredLengths
import UploadProbe.Proofs.PathResolution
import UploadProbe.Proofs.AnnouncedNames
import UploadProbe.Proofs.AnnouncedNames
