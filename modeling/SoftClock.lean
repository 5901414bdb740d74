import SoftClock.Time.ClockId
import SoftClock.Time.Timespec
import SoftClock.Duration.Text
import SoftClock.Timebase.Converter
import SoftClock.Settings
import SoftClock.Machine.Basic
import SoftClock.Machine.Simulated
import SoftClock.Machine.Scripted
import SoftClock.Offset.Hysteresis
import SoftClock.Offset.Counters
import SoftClock.Offset.Estimator
import SoftClock.Continuous
import SoftClock.Clock
import SoftClock.Json.Reader
import SoftClock.Json.Records
import SoftClock.Toml.Document
import SoftClock.Settings.Document
import SoftClock.Report.Reading
import SoftClock.Report.Calibration
import SoftClock.Report.Watch
import SoftClock.EntryPoints
import SoftClock.CommandLine.Run
import SoftClock.Main
import SoftClock.Proofs.Word.Clamp
import SoftClock.Proofs.Time.Exact
import SoftClock.Proofs.Time.Totals
import SoftClock.Proofs.Timebase.Product
import SoftClock.Proofs.Timebase.Conversion
import SoftClock.Proofs.Timebase.Accuracy
import SoftClock.Proofs.Timebase.Resolution
import SoftClock.Proofs.Timebase.RoundTrip
import SoftClock.Proofs.Machine.Agreement
import SoftClock.Proofs.Machine.Recorded
import SoftClock.Proofs.Offset.Steps
import SoftClock.Proofs.Offset.Sampling
import SoftClock.Proofs.Offset.PairLog
import SoftClock.Proofs.Offset.Transcript
import SoftClock.Proofs.Offset.TranscriptScan
import SoftClock.Proofs.Offset.Refresh
import SoftClock.Proofs.Offset.Failure
import SoftClock.Proofs.Offset.Selection
import SoftClock.Proofs.Offset.Protocol
import SoftClock.Proofs.Offset.Journal
import SoftClock.Proofs.Offset.Staleness
import SoftClock.Proofs.Continuous.Reading
import SoftClock.Proofs.Continuous.Run
import SoftClock.Proofs.Continuous.Consistency
import SoftClock.Proofs.Continuous.Accounting
import SoftClock.Proofs.Continuous.Journal
import SoftClock.Proofs.Continuous.Baseline
import SoftClock.Proofs.Continuous.CommitRate
import SoftClock.Proofs.Continuous.Recalibration
import SoftClock.Proofs.Clock.Operations
import SoftClock.Proofs.Clock.Run
import SoftClock.Proofs.Clock.Settling
import SoftClock.Proofs.Clock.Calibration
import SoftClock.Proofs.Clock.Monotonic
import SoftClock.Proofs.Machine.SimulatedTime
import SoftClock.Proofs.Offset.SimulatedSample
import SoftClock.Proofs.Offset.SimulatedRaw
import SoftClock.Proofs.Continuous.SleepTracking
import SoftClock.Proofs.Clock.PhantomSleep
import SoftClock.Proofs.Clock.Sources
import SoftClock.Proofs.Clock.Shapes
import SoftClock.Proofs.Clock.Granularity
import SoftClock.Proofs.Clock.WallSteps
import SoftClock.Proofs.Text.Characters
import SoftClock.Proofs.Text.Numeral
import SoftClock.Proofs.Time.Grammar
import SoftClock.Proofs.Time.Denotation
import SoftClock.Proofs.Duration.RoundTrip
import SoftClock.Proofs.Toml.Scalar
import SoftClock.Proofs.Toml.Lines
import SoftClock.Proofs.Settings.RoundTrip
import SoftClock.Proofs.Report.Watch
import SoftClock.Proofs.Timebase.Headroom
import SoftClock.Proofs.Timebase.Proportion
import SoftClock.Proofs.Timebase.Signed
import SoftClock.Proofs.Offset.Hysteresis
import SoftClock.Proofs.Text.Blank
import SoftClock.Proofs.Time.ClockName
import SoftClock.Proofs.Json.Tokens
import SoftClock.Proofs.Json.RoundTrip
import SoftClock.Proofs.Json.Records
