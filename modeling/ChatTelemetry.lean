import ChatTelemetry.Double.Layout
import ChatTelemetry.Text.Blank
import ChatTelemetry.Text.Segments
import ChatTelemetry.Text.Percent
import ChatTelemetry.Text.Quoted
import ChatTelemetry.Base64
import ChatTelemetry.Json.Printer
import ChatTelemetry.Json.Reader
import ChatTelemetry.Chat.Wire
import ChatTelemetry.Payload.Shape
import ChatTelemetry.Payload.Google
import ChatTelemetry.Payload.OpenAi
import ChatTelemetry.Suppression
import ChatTelemetry.Storage.ObjectName
import ChatTelemetry.Storage.Failure
import ChatTelemetry.Url.Parser
import ChatTelemetry.Url.FilePath
import ChatTelemetry.Url.Query
import ChatTelemetry.Storage.Filesystem
import ChatTelemetry.Storage.Cell
import ChatTelemetry.Telemetry.Record
import ChatTelemetry.Telemetry.Histogram
import ChatTelemetry.Emission.Emit
import ChatTelemetry.Config.Load
import ChatTelemetry.Config.Logging
import ChatTelemetry.Emission.Conversation
import ChatTelemetry.Url.Domain
import ChatTelemetry.Proofs.Trace
import ChatTelemetry.Proofs.Noninterference
import ChatTelemetry.Proofs.ObjectName
import ChatTelemetry.Proofs.Files
import ChatTelemetry.Proofs.Directories
import ChatTelemetry.Proofs.Filesystem
import ChatTelemetry.Proofs.Siblings
import ChatTelemetry.Proofs.Shelf
import ChatTelemetry.Proofs.Storing
import ChatTelemetry.Proofs.Reference
import ChatTelemetry.Proofs.Retention
import ChatTelemetry.Proofs.Confinement
import ChatTelemetry.Proofs.Reentrance
import ChatTelemetry.Proofs.Destination
import ChatTelemetry.Proofs.Expansion
import ChatTelemetry.Proofs.Quotation
import ChatTelemetry.Proofs.Variables
import ChatTelemetry.Proofs.Base64
import ChatTelemetry.Proofs.Agreement
import ChatTelemetry.Proofs.SharedBackend
import ChatTelemetry.Proofs.UploadOrder
import ChatTelemetry.Proofs.WholeCall
import ChatTelemetry.Proofs.ChoiceEvents
import ChatTelemetry.Proofs.Base64Content
import ChatTelemetry.Proofs.CallIds
import ChatTelemetry.Proofs.ImageUrl
import ChatTelemetry.Proofs.Precedence
import ChatTelemetry.Proofs.Degradation
import ChatTelemetry.Proofs.Candidates
import ChatTelemetry.Proofs.Bracketing
import ChatTelemetry.Proofs.Measuring
import ChatTelemetry.Proofs.Entries
import ChatTelemetry.Proofs.Reading
import ChatTelemetry.Proofs.Layout
import ChatTelemetry.Proofs.Decoding
import ChatTelemetry.Proofs.Tokens
import ChatTelemetry.Proofs.Writing
import ChatTelemetry.Proofs.ReadBack
import ChatTelemetry.Proofs.ToolData
import ChatTelemetry.Proofs.ContentForm
import ChatTelemetry.Proofs.FieldNames
import ChatTelemetry.Proofs.LogBody
import ChatTelemetry.Proofs.PlaceholderForm
import ChatTelemetry.Proofs.Replacement
import ChatTelemetry.Proofs.FormQuery
import ChatTelemetry.Proofs.AddedSegments
import ChatTelemetry.Proofs.ObjectRequest
import ChatTelemetry.Proofs.PathSegments
import ChatTelemetry.Proofs.RequestUrl
import ChatTelemetry.Proofs.DestinationUri
import ChatTelemetry.Proofs.BucketFolder
import ChatTelemetry.Proofs.FileUri
import ChatTelemetry.Proofs.Authorization
import ChatTelemetry.Proofs.CallObjects
import ChatTelemetry.Proofs.Secrecy
