import SmartBandwidth.Pipeline.Admission
import SmartBandwidth.Pipeline.Conservation
import SmartBandwidth.Pipeline.ValueBooks
import SmartBandwidth.Pipeline.ValueHonesty
import SmartBandwidth.Fleet.Authentication
import SmartBandwidth.Fleet.Heartbeats
import SmartBandwidth.Lib.Metering
import SmartBandwidth.Filter.RateLimit
import SmartBandwidth.Queue.TopK
import SmartBandwidth.Policy.Agreement
import SmartBandwidth.Lib.Replay
import SmartBandwidth.Lib.Streak
import SmartBandwidth.Safety.SafetyGuard
import SmartBandwidth.Safety.Concurrent
import SmartBandwidth.Safety.CircuitBreaker
import SmartBandwidth.Safety.FailOpen
import SmartBandwidth.Value.Presets
import SmartBandwidth.Value.Tuner
import SmartBandwidth.Value.Coherence
import SmartBandwidth.Value.Direction
import SmartBandwidth.Lib.HeapImage
import SmartBandwidth.Queue.Uniform
import SmartBandwidth.Filter.Unlimited
import SmartBandwidth.Pipeline.Shedding
import SmartBandwidth.Capture.NFQueue
import SmartBandwidth.Pipeline.RoundTrip
import SmartBandwidth.Flow.Invariants
import SmartBandwidth.Flow.Concurrent
import SmartBandwidth.Flow.Linearization
import SmartBandwidth.Pipeline.ConcurrentAdmission
import SmartBandwidth.Fleet.HeartbeatLoop
import SmartBandwidth.Pipeline.Benchmark
import SmartBandwidth.Lib.PyNumber
import SmartBandwidth.Lib.Raising
import SmartBandwidth.Lib.PyValue
import SmartBandwidth.Policy.Loader
import SmartBandwidth.Policy.LoadErrors
import SmartBandwidth.Lib.Base64
import SmartBandwidth.Lib.PyString
import SmartBandwidth.License.LicenseKey
import SmartBandwidth.License.RoundTrip
import SmartBandwidth.License.ParseErrors
import SmartBandwidth.Fleet.ValueSummary
import SmartBandwidth.Fleet.SummaryErrors
import SmartBandwidth.Cli.BuildOptimizer
import SmartBandwidth.Cli.Enforcement
import SmartBandwidth.Policy.WellFormed
import SmartBandwidth.Value.FloatCoefficients
import SmartBandwidth.Value.NonNegative
import SmartBandwidth.Value.FloatAgreement
import SmartBandwidth.Filter.Accounting
import SmartBandwidth.Filter.Isolation
import SmartBandwidth.Lib.Controller
import SmartBandwidth.Value.Dynamics
import SmartBandwidth.Value.InZone
import SmartBandwidth.Value.Monotone
import SmartBandwidth.Value.Convergence
import SmartBandwidth.Lib.EventLog
import SmartBandwidth.Value.Pruning
import SmartBandwidth.Sla.SLAMonitor
import SmartBandwidth.Pipeline.ServiceOrder
import SmartBandwidth.Sla.SojournDequeue
import SmartBandwidth.Sla.Violations
import SmartBandwidth.Sla.Concurrent
import SmartBandwidth.Sla.Backpressure
import SmartBandwidth.Sla.Throttle
import SmartBandwidth.Lib.ResetCounter
import SmartBandwidth.Sla.Rates
import SmartBandwidth.Flow.Scores
import SmartBandwidth.Flow.Eviction
import SmartBandwidth.Flow.Identity
import SmartBandwidth.Pipeline.MultiHop
import SmartBandwidth.Capture.Datagram
import SmartBandwidth.Lib.Mediant
import SmartBandwidth.Fleet.WeightedAverage
import SmartBandwidth.Lib.LazyExpiry
import SmartBandwidth.Fleet.Views
import SmartBandwidth.Benchmark.LatencyStats
import SmartBandwidth.Benchmark.Benchmarker
import SmartBandwidth.Benchmark.StageSamples
import SmartBandwidth.Lib.KeyedList
import SmartBandwidth.Lib.PyObject
import SmartBandwidth.Fleet.Serialise
import SmartBandwidth.Lib.SinceReset
import SmartBandwidth.Pipeline.Reconciliation
import SmartBandwidth.Safety.Books
import SmartBandwidth.Capture.Session
import SmartBandwidth.Queue.Concurrent
import SmartBandwidth.Capture.Kernel
import SmartBandwidth.Benchmark.Stress
import SmartBandwidth.Benchmark.StressBooks
import SmartBandwidth.Benchmark.Pacing
import SmartBandwidth.Api.Connections
import SmartBandwidth.Benchmark.Books
import SmartBandwidth.Sla.Books
import SmartBandwidth.Pipeline.Shaping
import SmartBandwidth.Pipeline.FeedbackLoop
import SmartBandwidth.Pipeline.TunedBooks
import SmartBandwidth.Pipeline.Inflation
import SmartBandwidth.Lib.Feedback
import SmartBandwidth.Pipeline.DeliveredRate
import SmartBandwidth.Pipeline.MonitoringLoop
import SmartBandwidth.Fleet.NodeStats
import SmartBandwidth.Fleet.ReportedValues
import SmartBandwidth.Fleet.ReportingFleet
import SmartBandwidth.Lib.Binary64
import SmartBandwidth.Lib.PySum
import SmartBandwidth.Value.FloatLossTracker
