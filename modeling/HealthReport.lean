import HealthReport.Log.TestPhase
import HealthReport.Main
import HealthReport.Proofs.Text.ByteOrder
import HealthReport.Proofs.Validation.Validity
import HealthReport.Wire.Outcome
import HealthReport.Proofs.Validation.Completeness
import HealthReport.Proofs.Report.Query
import HealthReport.Proofs.Detection.Signature
import HealthReport.Proofs.Json.Literal
import HealthReport.Proofs.Config.EffectiveFormat
import HealthReport.Proofs.Json.RoundTrip
import HealthReport.Proofs.Validation.Document
import HealthReport.Proofs.CommandLine.VerifyReport
import HealthReport.Proofs.Files.Growth
import HealthReport.Proofs.CommandLine.CheckDetection
import HealthReport.Proofs.CommandLine.LoadFault
import HealthReport.Proofs.CommandLine.Verbosity
import HealthReport.Proofs.CommandLine.LogFile
import HealthReport.Proofs.CommandLine.Execution
import HealthReport.Proofs.Report.Labels
import HealthReport.Proofs.Detection.Evidence
import HealthReport.Proofs.Validation.FailFast
import HealthReport.Proofs.Validation.Recovery
import HealthReport.Proofs.Text.Lines
import HealthReport.Proofs.Report.Forgery
import HealthReport.Proofs.Json.Rewriting
import HealthReport.Proofs.Validation.Footprint
import HealthReport.Proofs.Detection.Signals
import HealthReport.Proofs.Detection.ErrorOnly
import HealthReport.Proofs.Detection.ValidReports
import HealthReport.Proofs.Detection.Renderings
import HealthReport.Proofs.Report.Categories
import HealthReport.Proofs.Report.Recommendations
import HealthReport.Proofs.Report.FiniteNumbers
import HealthReport.Proofs.Report.Selection
import HealthReport.Proofs.Detection.Details
import HealthReport.Proofs.Detection.Nesting
import HealthReport.Proofs.Validation.Accounting
import HealthReport.Proofs.Detection.Retransmission
import HealthReport.Proofs.Validation.FailedCollectors
import HealthReport.Proofs.Config.Session
import HealthReport.Proofs.Config.Origins
import HealthReport.Proofs.Log.Installation
import HealthReport.Proofs.Validation.Transcript
import HealthReport.Proofs.CommandLine.VerboseFlag
import HealthReport.Proofs.CommandLine.VerboseRecords
import HealthReport.Proofs.CommandLine.MissingReport
import HealthReport.Proofs.Wire.Records
import HealthReport.Proofs.Files.Components
