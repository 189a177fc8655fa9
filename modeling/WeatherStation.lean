import WeatherStation.Aggregation
import WeatherStation.Bench.Bed
import WeatherStation.Bench.Broker
import WeatherStation.Bench.Desk
import WeatherStation.Bench.Feed
import WeatherStation.Bench.LinkRig
import WeatherStation.Bench.SensorLine
import WeatherStation.Bench.World
import WeatherStation.Build.Directives
import WeatherStation.Build.DotEnv
import WeatherStation.Config.Key
import WeatherStation.Config.Settings
import WeatherStation.Config.Store
import WeatherStation.Decimal.Binary32
import WeatherStation.Decimal.Reading
import WeatherStation.Decimal.Shortest
import WeatherStation.Decimal.Tenths
import WeatherStation.Json
import WeatherStation.Main
import WeatherStation.Message.Registration
import WeatherStation.Message.Telemetry
import WeatherStation.Mqtt.Client
import WeatherStation.Mqtt.Connection
import WeatherStation.Mqtt.Decoding
import WeatherStation.Mqtt.Encoding
import WeatherStation.Mqtt.Error
import WeatherStation.Mqtt.Exchange
import WeatherStation.Mqtt.Inbound
import WeatherStation.Mqtt.Journal
import WeatherStation.Mqtt.Message
import WeatherStation.Mqtt.Packet
import WeatherStation.Mqtt.PacketReader
import WeatherStation.Mqtt.RemainingLength
import WeatherStation.Mqtt.Session
import WeatherStation.Net.Error
import WeatherStation.Net.Ipv4
import WeatherStation.Net.Sntp
import WeatherStation.Net.Tcp
import WeatherStation.Net.Timed
import WeatherStation.Net.Wifi
import WeatherStation.Sensor.Capture
import WeatherStation.Sensor.Cycle
import WeatherStation.Sensor.Frame
import WeatherStation.Sensor.Pin
import WeatherStation.Sensor.Reading
import WeatherStation.Station.Basic
import WeatherStation.Station.Boundary
import WeatherStation.Text.Alphanumeric
import WeatherStation.Text.Blank
import WeatherStation.Text.Hex
import WeatherStation.Time
import WeatherStation.WallClock
import WeatherStation.Watchdog
import WeatherStation.Proofs.Mqtt.PacketSplit
import WeatherStation.Proofs.Mqtt.ReaderTracking
import WeatherStation.Proofs.Mqtt.PacketStream
import WeatherStation.Proofs.Mqtt.Moves
import WeatherStation.Proofs.Mqtt.System
import WeatherStation.Proofs.Mqtt.Control
import WeatherStation.Proofs.Mqtt.Delivery
import WeatherStation.Proofs.Mqtt.Acknowledgement
import WeatherStation.Proofs.Mqtt.Link
import WeatherStation.Proofs.Mqtt.OpenFlag
import WeatherStation.Proofs.Mqtt.Transmission
import WeatherStation.Proofs.Mqtt.Opening
import WeatherStation.Proofs.Mqtt.Escalation
import WeatherStation.Proofs.Mqtt.Receipt
import WeatherStation.Proofs.Mqtt.Notice
import WeatherStation.Proofs.Mqtt.Truncation
import WeatherStation.Proofs.Mqtt.Malformed
import WeatherStation.Proofs.Mqtt.Clock
import WeatherStation.Proofs.Mqtt.SignOfLife
import WeatherStation.Proofs.Mqtt.Mailbox
import WeatherStation.Proofs.Mqtt.RoundTrip
import WeatherStation.Proofs.Mqtt.Outbound
import WeatherStation.Proofs.Mqtt.Upkeep
import WeatherStation.Proofs.Mqtt.Subscription
import WeatherStation.Proofs.Mqtt.KeepAlive
import WeatherStation.Proofs.Mqtt.AckDeadline
import WeatherStation.Proofs.Station.Cycle
import WeatherStation.Proofs.Aggregation.Statistics
import WeatherStation.Proofs.Aggregation.Exactness
import WeatherStation.Proofs.Station.Payload
import WeatherStation.Proofs.Station.PayloadSize
import WeatherStation.Proofs.Station.Conservation
import WeatherStation.Proofs.Station.Period
import WeatherStation.Proofs.Station.Corrections
import WeatherStation.Proofs.Sensor.Waveform
import WeatherStation.Proofs.Sensor.Handoff
import WeatherStation.Proofs.Sensor.Encoding
import WeatherStation.Proofs.Sensor.Glitch
import WeatherStation.Proofs.Net.LinkLoss
import WeatherStation.Proofs.Net.WholeWrite
import WeatherStation.Proofs.Build.Defaults
import WeatherStation.Proofs.Config.StoredSettings
import WeatherStation.Proofs.Json.Reader
import WeatherStation.Proofs.Json.ReadBack
import WeatherStation.Proofs.Message.TelemetryContent
import WeatherStation.Proofs.Mqtt.ReaderArray
import WeatherStation.Proofs.Mqtt.LengthField
import WeatherStation.Proofs.Station.BoundaryTimes
import WeatherStation.Proofs.Mqtt.MessageIds
import WeatherStation.Proofs.Config.BuiltDefaults
