import Telemetry.Command.FileTree
import Telemetry.Main
import Telemetry.Pipeline
import Telemetry.Transport.Broadcast
import Telemetry.Proofs.Action
import Telemetry.Proofs.Binary64.Order
import Telemetry.Proofs.Binary64.Rounding
import Telemetry.Proofs.Epoch
import Telemetry.Proofs.Table.Series
import Telemetry.Proofs.Interleaving
import Telemetry.Proofs.Series
import Telemetry.Proofs.Config
import Telemetry.Proofs.History.Gathered
import Telemetry.Proofs.Multiplexer.Drain
import Telemetry.Proofs.Multiplexer.Tick
import Telemetry.Proofs.Multiplexer.Safety
import Telemetry.Proofs.Recorder.Chronicle
import Telemetry.Proofs.Recorder.Window
import Telemetry.Proofs.Ledger
import Telemetry.Proofs.Station.Routing
import Telemetry.Proofs.ChannelMap
import Telemetry.Proofs.Station.Binding
import Telemetry.Proofs.Station.Refusal
import Telemetry.Proofs.Wiring
import Telemetry.Proofs.Producer.Step
import Telemetry.Proofs.Producer.Journal
import Telemetry.Proofs.Producer.ExactlyOnce
import Telemetry.Proofs.Producer.Refusal
import Telemetry.Proofs.Producer.Setup
import Telemetry.Proofs.Producer.Peers
import Telemetry.Proofs.Codec
import Telemetry.Proofs.History.Sound
import Telemetry.Proofs.History.Truncation
import Telemetry.Proofs.Consumer.Feeds
import Telemetry.Proofs.Consumer
import Telemetry.Proofs.Consumer.Run
import Telemetry.Proofs.Consumer.Survival
import Telemetry.Proofs.Consumer.Classes
import Telemetry.Proofs.Consumer.Accounting
import Telemetry.Proofs.Consumer.Reading
import Telemetry.Proofs.Consumer.SharedClock
import Telemetry.Proofs.Pipeline.Run
import Telemetry.Proofs.Pipeline.Series
import Telemetry.Proofs.Pipeline.Synchronization
import Telemetry.Proofs.Delta
import Telemetry.Proofs.Wire.Node
import Telemetry.Proofs.Wire.Local
import Telemetry.Proofs.Text.Utf8
import Telemetry.Proofs.Wire.Msgpack
import Telemetry.Proofs.Binary64.Halfway
import Telemetry.Proofs.Binary64.Scaling
import Telemetry.Proofs.Decimal.Shortest
import Telemetry.Proofs.Decimal.Nearest
import Telemetry.Proofs.Json.Text
import Telemetry.Proofs.Json.Numeral
import Telemetry.Proofs.Json.Document
import Telemetry.Proofs.Json.Spelling
import Telemetry.Proofs.Json.Literal
import Telemetry.Proofs.Wire.JsonText
import Telemetry.Proofs.Wire.JsonCodec
import Telemetry.Proofs.Codec.RoundTrip
import Telemetry.Proofs.Station.Publication
import Telemetry.Proofs.ChannelMap.Refusal
import Telemetry.Proofs.Buffer.Run
import Telemetry.Proofs.History.Query
import Telemetry.Proofs.History.Sifting
import Telemetry.Proofs.ChannelMap.Completeness
import Telemetry.Proofs.Station.Delivery
import Telemetry.Proofs.Schedule.Pace
import Telemetry.Proofs.Clock
import Telemetry.Proofs.Producer.Runtime
import Telemetry.Proofs.Consumer.Redraw
import Telemetry.Proofs.Command.Check
import Telemetry.Proofs.Synthetic.Rounds
import Telemetry.Proofs.Command.Pacing
