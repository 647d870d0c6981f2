import Telematics.Position.Message
import Telematics.Device
import Telematics.Log.Output
import Telematics.Log.Record
import Telematics.Service
import Telematics.Sentence.Report
import Telematics.Text.Blank
import Telematics.Text.Quoted
import Telematics.Binary64.Numeral
import Telematics.Binary64.Shortest
import Telematics.Proofs.Sentence.Language
import Telematics.Proofs.Sentence.Preference
import Telematics.Proofs.Sentence.Draft
import Telematics.Proofs.Sentence.Wording
import Telematics.Proofs.Sentence.Layout
import Telematics.Proofs.Sentence.Choice
import Telematics.Proofs.Sentence.RoundTrip
import Telematics.Proofs.Sentence.Blocks
import Telematics.Proofs.Sentence.Extension
import Telematics.Proofs.Position.Marks
import Telematics.Proofs.Terminal.Registration
import Telematics.Proofs.Json
import Telematics.Proofs.Numeral
import Telematics.Proofs.Position.Size
import Telematics.Proofs.Position.Conversion
import Telematics.Proofs.Terminal.Exchange
import Telematics.Proofs.Terminal.Stream
import Telematics.Proofs.Terminal.Endurance
import Telematics.Proofs.Numeral.Token
import Telematics.Proofs.Binary64.Token
import Telematics.Proofs.Check
import Telematics.Proofs.Position.Token
import Telematics.Proofs.Position.Refusal
import Telematics.Proofs.Terminal.Refusal
import Telematics.Proofs.Terminal.Framing
import Telematics.Proofs.Terminal.Reader
import Telematics.Proofs.Terminal.Handover
import Telematics.Proofs.Binary64.Rounding
import Telematics.Proofs.Binary64.Shortest
import Telematics.Proofs.Json.Grammar
import Telematics.Proofs.Json.Number
import Telematics.Proofs.Json.Text
import Telematics.Proofs.Position.Finite
import Telematics.Proofs.Terminal.Message
import Telematics.Proofs.Feed
import Telematics.Proofs.Feed.Passage
import Telematics.Proofs.Feed.Operation
import Telematics.Proofs.Feed.History
import Telematics.Proofs.Feed.Journal
import Telematics.Proofs.Feed.Seat
import Telematics.Proofs.Service.Schedule
import Telematics.Proofs.Service.Burst
import Telematics.Proofs.Service.Subscription
import Telematics.Proofs.Service.Clock
import Telematics.Proofs.Binary64.Value
import Telematics.Proofs.Binary64.Interval
import Telematics.Proofs.Position.Shape
import Telematics.Proofs.Position.Device
import Telematics.Proofs.Device
import Telematics.Proofs.Device.History
import Telematics.Proofs.Terminal.Resolver
import Telematics.Proofs.Terminal.Conduct
import Telematics.Proofs.Alarm
import Telematics.Proofs.Terminal.Precedence
import Telematics.Proofs.Terminal.Handshake
import Telematics.Proofs.Terminal.Interleaving
import Telematics.Proofs.Terminal.Fate
import Telematics.Proofs.Service.Replies
import Telematics.Proofs.Service.Accounting
import Telematics.Proofs.Terminal.Cutoff
import Telematics.Proofs.Binary64.Text
import Telematics.Proofs.Timestamp
import Telematics.Proofs.Json.Value
import Telematics.Proofs.Json.Reader
import Telematics.Proofs.Json.Line
import Telematics.Proofs.Json.Member
import Telematics.Proofs.Json.Surrogate
import Telematics.Proofs.Position.Lossless
import Telematics.Proofs.Field.Binary
import Telematics.Proofs.Network
import Telematics.Proofs.Field.Answer
import Telematics.Proofs.Field.Time
import Telematics.Proofs.Position.Time
import Telematics.Proofs.Terminal.Calendar
import Telematics.Proofs.Field.Degrees
import Telematics.Proofs.Log.Clock
import Telematics.Proofs.Text
import Telematics.Proofs.Log.ErrorReport
import Telematics.Proofs.Log.Record
import Telematics.Proofs.Storage
import Telematics.Proofs.Log.Output
import Telematics.Proofs.Settings
import Telematics.Proofs.Sentence.Cursor
import Telematics.Proofs.Sentence.Cut
import Telematics.Proofs.Sentence.Walk
import Telematics.Proofs.Terminal.Release
