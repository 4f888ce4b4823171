import HandleWatch.Boundary
import HandleWatch.LeakWindow
import HandleWatch.Main
import HandleWatch.Proofs.Basic
import HandleWatch.Proofs.Holdings
import HandleWatch.Proofs.TrackerRun
import HandleWatch.Proofs.History
import HandleWatch.Proofs.Releases
import HandleWatch.Proofs.Recency
import HandleWatch.Proofs.DetectionWindow
import HandleWatch.Proofs.Reporting
import HandleWatch.Proofs.SessionRun
import HandleWatch.Proofs.Noninterference
import HandleWatch.Proofs.IdConservation
import HandleWatch.Proofs.Generations
import HandleWatch.Proofs.Provenance
import HandleWatch.Proofs.Balance
import HandleWatch.Proofs.Bindings
import HandleWatch.Proofs.Representation
import HandleWatch.Proofs.JsonRoundTrip
import HandleWatch.Proofs.LogRoundTrip
import HandleWatch.Proofs.SessionReports
import HandleWatch.Proofs.ReplayRun
import HandleWatch.Proofs.LogIntegrity
import HandleWatch.Proofs.ReplayAccount
import HandleWatch.Proofs.BuilderProtocol
import HandleWatch.Proofs.LeakWindows
import HandleWatch.Proofs.BoundaryCodes
import HandleWatch.Proofs.ReplayStops
import HandleWatch.Proofs.DirectAccess
import HandleWatch.Proofs.QuarantineRun
import HandleWatch.Proofs.CivilDates
import HandleWatch.Proofs.Timestamps
import HandleWatch.Proofs.FailedCalls
import HandleWatch.Proofs.IdReuse
import HandleWatch.Proofs.Rearrangement
import HandleWatch.Proofs.CanonicalJson
import HandleWatch.Proofs.LineAcceptance
import HandleWatch.Proofs.CaptureStreams
import HandleWatch.Proofs.LogComposition
import HandleWatch.Proofs.EmitterAccount
import HandleWatch.Proofs.TypedReaders
import HandleWatch.Proofs.ScenarioKeys
import HandleWatch.Proofs.CapacitySetting
