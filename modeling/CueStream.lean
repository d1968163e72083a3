import CueStream.Chat.Client
import CueStream.Classifier.Call
import CueStream.Classifier.Dominant
import CueStream.Classifier.Quick
import CueStream.Classifier.Reply
import CueStream.CommandLine
import CueStream.Config.Cue
import CueStream.Config.File
import CueStream.Config.Model
import CueStream.Domain.Basic
import CueStream.Domain.Form
import CueStream.Domain.Label
import CueStream.Domain.Punycode
import CueStream.Gate
import CueStream.Http.EventStream
import CueStream.Http.Response
import CueStream.Http.Retry
import CueStream.IntentJson
import CueStream.Json.Basic
import CueStream.Json.Decode
import CueStream.Json.Printer
import CueStream.Json.Reader
import CueStream.Json.Token
import CueStream.Lexicon.Basic
import CueStream.Lexicon.Standard
import CueStream.Main
import CueStream.Number.Reading
import CueStream.Number.Rounding
import CueStream.Number.Shortest
import CueStream.Number.Single
import CueStream.Segment.Buffer
import CueStream.Segment.Separator
import CueStream.Session.Basic
import CueStream.Session.Load
import CueStream.Session.Schedule
import CueStream.Session.World
import CueStream.Text.Basic
import CueStream.Text.Composed
import CueStream.Text.Lowercase
import CueStream.Text.Percent
import CueStream.Text.Quoted
import CueStream.Text.Utf8
import CueStream.Text.Word
import CueStream.Unicode.Alphanumeric
import CueStream.Unicode.Blank
import CueStream.Unicode.Casing
import CueStream.Unicode.Composition
import CueStream.Unicode.Direction
import CueStream.Unicode.Joining
import CueStream.Unicode.Mark
import CueStream.Unicode.Range
import CueStream.Unicode.Visible
import CueStream.Url.Basic
import CueStream.Url.Host
import CueStream.Url.Ipv4
import CueStream.Url.Ipv6
import CueStream.Url.Path
import CueStream.Url.Reader
import CueStream.Vocabulary
import CueStream.Proofs.Classifier.Dominant
import CueStream.Proofs.Segment.Passage
import CueStream.Proofs.Segment.Splitting
import CueStream.Proofs.Segment.Offsets
import CueStream.Proofs.Segment.Arrival
import CueStream.Proofs.Session.Task
import CueStream.Proofs.Session.Reset
import CueStream.Proofs.Session.Straddling
import CueStream.Proofs.Session.Outstanding
import CueStream.Proofs.Session.Noting
import CueStream.Proofs.Session.Passing
import CueStream.Proofs.Session.Progress
import CueStream.Proofs.Session.Telling
import CueStream.Proofs.Session.Stale
import CueStream.Proofs.Text.Caseless
import CueStream.Proofs.Text.Occurrence
import CueStream.Proofs.Lexicon.Keyword
import CueStream.Proofs.Lexicon.Best
import CueStream.Proofs.Lexicon.Overlap
import CueStream.Proofs.Lexicon.Sigma
import CueStream.Proofs.Session.Scanning
import CueStream.Proofs.Session.WordStart
import CueStream.Proofs.Session.Chunking
import CueStream.Proofs.Session.Rescanning
import CueStream.Proofs.Session.Cursor
import CueStream.Proofs.Session.Joining
import CueStream.Proofs.Session.Replies
import CueStream.Proofs.Session.Gating
import CueStream.Proofs.Session.Pacing
import CueStream.Proofs.Session.Overrun
import CueStream.Proofs.Session.Alike
import CueStream.Proofs.Session.Apart
import CueStream.Proofs.Session.Boundary
import CueStream.Proofs.Session.Play
import CueStream.Proofs.Session.Drawing
import CueStream.Proofs.Session.Slot
import CueStream.Proofs.Session.Acting
import CueStream.Proofs.Session.Overtaken
import CueStream.Proofs.Session.OneCall
import CueStream.Proofs.Session.Holding
import CueStream.Proofs.Session.Repeating
import CueStream.Proofs.Session.Recast
import CueStream.Proofs.Session.Ahead
import CueStream.Proofs.Session.Afresh
import CueStream.Proofs.Session.Spending
import CueStream.Proofs.Session.Recording
import CueStream.Proofs.Text.Encoding
import CueStream.Proofs.Json.Word
import CueStream.Proofs.Json.Decoding
import CueStream.Proofs.Number.Nearest
import CueStream.Proofs.Config.Backends
import CueStream.Proofs.Number.Naming
import CueStream.Proofs.Number.Spelling
import CueStream.Proofs.Number.Drift
import CueStream.Proofs.Number.Middle
import CueStream.Proofs.Number.Return
import CueStream.Proofs.Config.Cues
import CueStream.Proofs.Gate.Past
import CueStream.Proofs.Json.Object
import CueStream.Proofs.Json.Compact
import CueStream.Proofs.Json.Records
import CueStream.Proofs.Classifier.Noise
import CueStream.Proofs.Classifier.Remark
import CueStream.Proofs.Classifier.Asking
import CueStream.Proofs.Config.Settings
import CueStream.Proofs.Config.Partial
import CueStream.Proofs.Http.Attempts
import CueStream.Proofs.Http.Delays
import CueStream.Proofs.Segment.Grammar
import CueStream.Proofs.Chat.Chunk
import CueStream.Proofs.Chat.Streamed
