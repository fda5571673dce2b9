import HeapScope.Bytes
import HeapScope.Channel
import HeapScope.Command
import HeapScope.Descriptor
import HeapScope.Digits
import HeapScope.Duration
import HeapScope.Error
import HeapScope.Frame.Builder
import HeapScope.Frame.InPlace
import HeapScope.Frame.Source
import HeapScope.Frame.Splitter
import HeapScope.Hex
import HeapScope.Identifier
import HeapScope.Json.Commands
import HeapScope.Json.Descriptors
import HeapScope.Json.Errors
import HeapScope.Json.Parse
import HeapScope.Json.Sessions
import HeapScope.Json.Settings
import HeapScope.Json.Shape
import HeapScope.Json.Value
import HeapScope.LinearSpace
import HeapScope.LinearSpace.Transmit
import HeapScope.Proofs.Frame.Counting
import HeapScope.Proofs.Frame.History
import HeapScope.Proofs.Frame.InPlace
import HeapScope.Proofs.Frame.Reading
import HeapScope.Proofs.Frame.Replaying
import HeapScope.Proofs.Frame.Splitting
import HeapScope.Proofs.LinearSpace.Accounting
import HeapScope.Proofs.LinearSpace.Audience
import HeapScope.Proofs.LinearSpace.Conduct
import HeapScope.Proofs.LinearSpace.Contents
import HeapScope.Proofs.LinearSpace.Delivery
import HeapScope.Proofs.LinearSpace.Invariant
import HeapScope.Proofs.LinearSpace.Marking
import HeapScope.Proofs.LinearSpace.Operations
import HeapScope.Proofs.LinearSpace.Partition
import HeapScope.Proofs.LinearSpace.Ranges
import HeapScope.Proofs.LinearSpace.Rising
import HeapScope.Proofs.LinearSpace.Shares
import HeapScope.Proofs.LinearSpace.Tiles
import HeapScope.Proofs.LinearSpace.Transmission
import HeapScope.Proofs.LinearSpace.Walking
import HeapScope.Proofs.LinearSpace.Words
import HeapScope.Proofs.Report.Asking
import HeapScope.Proofs.Report.Conduct
import HeapScope.Proofs.Report.Frames
import HeapScope.Proofs.Report.Freshness
import HeapScope.Proofs.Report.Journal
import HeapScope.Proofs.Report.Naming
import HeapScope.Proofs.Report.Outcomes
import HeapScope.Proofs.Report.Reports
import HeapScope.Proofs.Report.Sending
import HeapScope.Proofs.Report.Sinks
import HeapScope.Proofs.Server.Announcing
import HeapScope.Proofs.Server.Custody
import HeapScope.Proofs.Server.Driving
import HeapScope.Proofs.Server.Farewell
import HeapScope.Proofs.Server.Granting
import HeapScope.Proofs.Server.Keeping
import HeapScope.Proofs.Server.Limits
import HeapScope.Proofs.Server.Misuse
import HeapScope.Proofs.Server.Numbering
import HeapScope.Proofs.Server.Presence
import HeapScope.Proofs.Server.Releasing
import HeapScope.Proofs.Server.Resilience
import HeapScope.Proofs.Server.Starting
import HeapScope.Proofs.Server.Streams
import HeapScope.Proofs.Server.Succession
import HeapScope.Proofs.Server.Turns
import HeapScope.Proofs.Server.World
import HeapScope.Proofs.Session.Agreement
import HeapScope.Proofs.Session.Following
import HeapScope.Proofs.Session.Ledger
import HeapScope.Proofs.Session.Reception
import HeapScope.Proofs.Session.Replay
import HeapScope.Proofs.Session.Snapshot
import HeapScope.Proofs.Session.Stopping
import HeapScope.Proofs.Settings.Addresses
import HeapScope.Proofs.Settings.Loading
import HeapScope.Proofs.Wire.Acceptance
import HeapScope.Proofs.Wire.Collecting
import HeapScope.Proofs.Wire.Commands
import HeapScope.Proofs.Wire.Delimiting
import HeapScope.Proofs.Wire.Descriptors
import HeapScope.Proofs.Wire.Distinction
import HeapScope.Proofs.Wire.Exactness
import HeapScope.Proofs.Wire.Fields
import HeapScope.Proofs.Wire.Fitting
import HeapScope.Proofs.Wire.Guarding
import HeapScope.Proofs.Wire.Numbers
import HeapScope.Proofs.Wire.Significance
import HeapScope.Proofs.Wire.Sizes
import HeapScope.Report.Recorder
import HeapScope.Report.Reporter
import HeapScope.Report.Sink
import HeapScope.RollingLog
import HeapScope.Server
import HeapScope.Server.Acceptance
import HeapScope.Server.Attachment
import HeapScope.Server.ClientReader
import HeapScope.Server.Closing
import HeapScope.Session
import HeapScope.Settings
import HeapScope.Settings.Environment
import HeapScope.Settings.File
import HeapScope.SocketAddress
import HeapScope.Table
import HeapScope.TileFlags
import HeapScope.TileStream
import HeapScope.TileStream.Words
import HeapScope.Tiling
import HeapScope.Utf8
import HeapScope.ValueKind
import HeapScope.Wire.Commands
import HeapScope.Wire.Cursor
import HeapScope.Wire.Descriptors
import HeapScope.Wire.Reader
import HeapScope.Wire.Writer
import HeapScope.Word
import HeapScope.Yaml.Block
import HeapScope.Yaml.Cursor
import HeapScope.Yaml.Document
import HeapScope.Yaml.Folding
import HeapScope.Yaml.Lexer
import HeapScope.Yaml.Plain
import HeapScope.Yaml.Quoted
import HeapScope.Yaml.Tag
import HeapScope.Yaml.Token
