import Stgs.Theory.BigEndian
import Stgs.Wire.ByteUtils
import Stgs.Theory.ShiftRegister
import Stgs.Wire.Crc32
import Stgs.Wire.FrameCodec
import Stgs.Wire.CodecBijection
import Stgs.Wire.BurstDetection
import Stgs.Theory.Scanner
import Stgs.Theory.Search
import Stgs.Stream.Extractor
import Stgs.Stream.Transport
import Stgs.Stream.Noise
import Stgs.Stream.Resync
import Stgs.Theory.BinaryFormat
import Stgs.Wire.Binary32
import Stgs.Wire.ApplicationPayload
import Stgs.Wire.Replay
import Stgs.Cli.CliParsing
import Stgs.Simulator.Options
import Stgs.Simulator.App
import Stgs.Simulator.LiveReplay
import Stgs.Station.Health
import Stgs.Station.Options
import Stgs.Station.SignalProcessing
import Stgs.Station.Processing
import Stgs.Concurrent.BlockingQueue
import Stgs.Station.Pipeline
import Stgs.Station.Shutdown
import Stgs.Station.Accounts
import Stgs.Station.Reorder
import Stgs.Station.Ordering
import Stgs.Station.Completeness
import Stgs.Station.Hysteresis
import Stgs.Cli.PortDiagnostics
import Stgs.Station.Validation
import Stgs.Wire.ApplicationBijection
import Stgs.Concurrent.Monitor
import Stgs.Theory.History
import Stgs.Concurrent.Linearizable
import Stgs.Concurrent.Wakeups
import Stgs.Station.Threads
import Stgs.Station.Liveness
import Stgs.Station.Termination
import Stgs.Stream.TcpIsolation
import Stgs.Station.ReplayInput
import Stgs.Simulator.CaptureReplay
import Stgs.Simulator.Generation
import Stgs.Theory.OutputSequence
import Stgs.Wire.BitErrors
import Stgs.Concurrent.LostWakeups
import Stgs.Theory.Records
import Stgs.Wire.ReplayExact
import Stgs.Theory.Csv
import Stgs.Theory.Json
import Stgs.Wire.FrameText
import Stgs.Station.TelemetryOutput
import Stgs.Station.Export
import Stgs.Stream.Framing
import Stgs.Theory.Traced
import Stgs.Wire.Observed
import Stgs.Stream.ObservedFeed
import Stgs.Station.Startup
import Stgs.Station.Observation
import Stgs.Stream.NetworkServer
import Stgs.Theory.CentredMean
import Stgs.Theory.SizeArithmetic
import Stgs.Station.MovingAverage
import Stgs.Station.Sparkline
import Stgs.Stream.Delivered
import Stgs.Station.NetworkInput
import Stgs.Station.StopBound
import Stgs.Simulator.Fleet
import Stgs.Station.SignalStop
import Stgs.Stream.SocketLifetime
import Stgs.Theory.Phasor
import Stgs.Simulator.MeasuredAmplitude
import Stgs.Station.DwellTime
import Stgs.Station.Logging
import Stgs.Station.RemoteText
import Stgs.Simulator.UdpFleet
import Stgs.Cli.PortCheck
import Stgs.Simulator.Startup
import Stgs.Simulator.TextFleet
