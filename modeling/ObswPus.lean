import ObswPus.Flight.ObcApp
import ObswPus.Safety.Heater
import ObswPus.Commanding.Rejection
import ObswPus.Commanding.Verification
import ObswPus.Commanding.Response
import ObswPus.Commanding.Segments
import ObswPus.Commanding.IdentifierLists
import ObswPus.OnBoardTime.SetTime
import ObswPus.OnBoardTime.Rate
import ObswPus.Telemetry.Conservation
import ObswPus.Telemetry.OverflowReport
import ObswPus.Telemetry.OverflowSamples
import ObswPus.Telemetry.Drained
import ObswPus.Telemetry.Statistics
import ObswPus.Telemetry.Schedule
import ObswPus.Isolation.Noninterference
import ObswPus.Isolation.Restart
import ObswPus.Autonomy.Laws
import ObswPus.Autonomy.Mirror
import ObswPus.Autonomy.Excursion
import ObswPus.Ground.Agreement
import ObswPus.Ground.Conformance
import ObswPus.Ground.RoundTrip
import ObswPus.Ground.Housekeeping
import ObswPus.Downlink.Fifo
import ObswPus.Codec.Division
import ObswPus.Uplink.Framing
import ObswPus.Uplink.Delivery
import ObswPus.Bounds.Telecommand
import ObswPus.Bounds.Builder
import ObswPus.Commanding.Buffer
import ObswPus.Runner.Transmission
import ObswPus.Runner.Connections
import ObswPus.Telemetry.EventFlags
import ObswPus.System.Attribution
import ObswPus.System.GroundMirror
import ObswPus.System.HousekeepingOnGround
import ObswPus.System.TimeOnGround
import ObswPus.Harness.Receiving
