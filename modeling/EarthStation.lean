import EarthStation.Arguments
import EarthStation.Binary64
import EarthStation.Capture
import EarthStation.Catalog
import EarthStation.CommandLine
import EarthStation.Config
import EarthStation.Config.Document
import EarthStation.Decimal.Fixed
import EarthStation.Decimal.Reader
import EarthStation.Decimal.Shortest
import EarthStation.Duration
import EarthStation.Ephemeris
import EarthStation.Ephemeris.Synthetic
import EarthStation.Exchange
import EarthStation.Frequency
import EarthStation.Geometry
import EarthStation.Instant
import EarthStation.IoError
import EarthStation.Lifetime
import EarthStation.LookAngle
import EarthStation.Main
import EarthStation.Operator
import EarthStation.Orbit.Elements
import EarthStation.Orbit.Propagator
import EarthStation.Orbit.Resonance
import EarthStation.Orbit.Secular
import EarthStation.Orbit.ThirdBody
import EarthStation.Pass
import EarthStation.PassSearch
import EarthStation.PassTable
import EarthStation.Pattern.Expression
import EarthStation.Pattern.Reader
import EarthStation.Program.Command
import EarthStation.Program.Failure
import EarthStation.Program.Files
import EarthStation.Program.Launch
import EarthStation.Program.Rehearsal
import EarthStation.Radio.Bcd
import EarthStation.Radio.Bench
import EarthStation.Radio.Fault
import EarthStation.Radio.Frame
import EarthStation.Radio.Link
import EarthStation.Rotator.Bench
import EarthStation.Rotator.Frame
import EarthStation.Rotator.Link
import EarthStation.Rotator.Position
import EarthStation.Scalar
import EarthStation.Site
import EarthStation.StatusTable
import EarthStation.Text.Blank
import EarthStation.Text.CaseFold
import EarthStation.Text.CharTable
import EarthStation.Text.Lines
import EarthStation.Text.Quoted
import EarthStation.Text.WordChar
import EarthStation.TextFile
import EarthStation.Tracking.Controller
import EarthStation.Tracking.Desk
import EarthStation.Tracking.Doppler
import EarthStation.Tracking.Equipment
import EarthStation.Tracking.Pointing
import EarthStation.Tracking.Session
import EarthStation.Visibility
import EarthStation.Wire.Line
import EarthStation.Wire.Reading
import EarthStation.Yaml.Document
import EarthStation.Yaml.Scalar
import EarthStation.Yaml.Token
import EarthStation.Yaml.Value
import EarthStation.Proofs.Visibility.Seen
import EarthStation.Proofs.Tracking.Step
import EarthStation.Proofs.Tracking.Atomicity
import EarthStation.Proofs.Tracking.Run
import EarthStation.Proofs.Exact
import EarthStation.Proofs.Visibility.Walk
import EarthStation.Proofs.Visibility.Crossing
import EarthStation.Proofs.Visibility.Refinement
import EarthStation.Proofs.Search.Statistics
import EarthStation.Proofs.Search.Sweep
import EarthStation.Proofs.Search.Timetable
import EarthStation.Proofs.Search.Rounds
import EarthStation.Proofs.Search.Completeness
import EarthStation.Proofs.Tracking.Isolation
import EarthStation.Proofs.Tracking.Lockout
import EarthStation.Proofs.Tracking.Reachable
import EarthStation.Proofs.Tracking.Coherence
import EarthStation.Proofs.Tracking.Phases
import EarthStation.Proofs.Tracking.Reference
import EarthStation.Proofs.Exchange
import EarthStation.Proofs.Radio.Rig
import EarthStation.Proofs.Radio.Selection
import EarthStation.Proofs.Radio.Operations
import EarthStation.Proofs.Binary64.Rounding
import EarthStation.Proofs.Binary64.Packing
import EarthStation.Proofs.Binary64.Order
import EarthStation.Proofs.Binary64.Arithmetic
import EarthStation.Proofs.Search.Asked
import EarthStation.Proofs.Search.Samples
import EarthStation.Proofs.Search.Soundness
import EarthStation.Proofs.Search.Accuracy
import EarthStation.Proofs.Search.Keys
import EarthStation.Proofs.Search.Progress
import EarthStation.Proofs.Search.Structure
import EarthStation.Proofs.Rotator.Range
import EarthStation.Proofs.Tracking.Orders
import EarthStation.Proofs.Tracking.Limits
import EarthStation.Proofs.Binary64.Whole
import EarthStation.Proofs.Radio.Digits
import EarthStation.Proofs.Radio.Codec
import EarthStation.Proofs.Text.Layout
import EarthStation.Proofs.Catalog.Records
import EarthStation.Proofs.Wire.Steady
import EarthStation.Proofs.Rotator.Reply
import EarthStation.Proofs.Rotator.Recovery
import EarthStation.Proofs.Radio.Grammar
import EarthStation.Proofs.Radio.Lateness
import EarthStation.Proofs.Radio.Attribution
import EarthStation.Proofs.Radio.Transport
import EarthStation.Proofs.Tracking.Deeds
import EarthStation.Proofs.Tracking.Silence
import EarthStation.Proofs.Tracking.Discipline
import EarthStation.Proofs.Tracking.Tuning
import EarthStation.Proofs.Tracking.Resolution
import EarthStation.Proofs.Tracking.SatelliteMode
import EarthStation.Proofs.Tracking.Loss
import EarthStation.Proofs.Config.Validation
import EarthStation.Proofs.Catalog.Selection
import EarthStation.Proofs.Radio.Books
import EarthStation.Proofs.Config.Frequencies
import EarthStation.Proofs.Radio.Memory
import EarthStation.Proofs.Rotator.Bookkeeping
import EarthStation.Proofs.Tracking.Mirror
import EarthStation.Proofs.Tracking.Agreement
import EarthStation.Proofs.Rotator.Tenths
import EarthStation.Proofs.Rotator.Report
import EarthStation.Proofs.Tracking.Unwrapping
import EarthStation.Proofs.Lifetime
import EarthStation.Proofs.Wire.Chunks
import EarthStation.Proofs.Wire.Likeness
import EarthStation.Proofs.Text.Words
import EarthStation.Proofs.Operator
import EarthStation.Proofs.StatusTable
import EarthStation.Proofs.Capture.Recording
import EarthStation.Proofs.Config.Position
import EarthStation.Proofs.Geometry
