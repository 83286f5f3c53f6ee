import ScanAdapter.Entries
import ScanAdapter.Text.Basic
import ScanAdapter.Text.Case
import ScanAdapter.Text.Quoted
import ScanAdapter.Text.Utf8
import ScanAdapter.Number.Binary64
import ScanAdapter.Number.Shortest
import ScanAdapter.Number.Reading
import ScanAdapter.Json.Value
import ScanAdapter.Json.Reader
import ScanAdapter.Json.Writer
import ScanAdapter.Time.Moment
import ScanAdapter.Time.Duration
import ScanAdapter.Validation.Basic
import ScanAdapter.Validation.Scalar
import ScanAdapter.Validation.Summary
import ScanAdapter.Severity
import ScanAdapter.Report.Basic
import ScanAdapter.Report.Wire
import ScanAdapter.Trivy.Vulnerability
import ScanAdapter.Trivy.Normalized
import ScanAdapter.Job
import ScanAdapter.Log
import ScanAdapter.Store.Error
import ScanAdapter.Store.Program
import ScanAdapter.Store.Server
import ScanAdapter.Store.Basic
import ScanAdapter.Service
import ScanAdapter.Settings.EnvFile
import ScanAdapter.Settings.Basic
import ScanAdapter.Connection.Url
import ScanAdapter.Connection.Basic
import ScanAdapter.SetUp
import ScanAdapter.Scenario.Step
import ScanAdapter.Scenario.World
import ScanAdapter.Scenario.Run
import ScanAdapter.Proofs.Number.Rounding
import ScanAdapter.Proofs.Json.Scalars
import ScanAdapter.Proofs.Json.Data
import ScanAdapter.Proofs.Json.RoundTrip
import ScanAdapter.Proofs.Json.Reading
import ScanAdapter.Proofs.Time.Moment
import ScanAdapter.Proofs.Wire.Models
import ScanAdapter.Proofs.Wire.RoundTrip
import ScanAdapter.Proofs.Text.Utf8
import ScanAdapter.Proofs.Text.Capitals
import ScanAdapter.Proofs.Wire.Decoded
import ScanAdapter.Proofs.Validation.Parts
import ScanAdapter.Proofs.Validation.Fields
import ScanAdapter.Proofs.Validation.Changes
import ScanAdapter.Proofs.Wire.Fields
import ScanAdapter.Proofs.Store.Committed
import ScanAdapter.Proofs.Store.Keys
import ScanAdapter.Proofs.Store.Races
import ScanAdapter.Proofs.Store.Session
import ScanAdapter.Proofs.Store.Calls
import ScanAdapter.Proofs.Store.Interleaving
import ScanAdapter.Proofs.Store.Namespaces
import ScanAdapter.Proofs.Store.Refinement
import ScanAdapter.Proofs.Store.Operation
import ScanAdapter.Proofs.Store.Crowd
import ScanAdapter.Proofs.Store.Expiry
import ScanAdapter.Proofs.Store.Isolation
import ScanAdapter.Proofs.Store.Bustle
import ScanAdapter.Proofs.Store.Trial
import ScanAdapter.Proofs.Store.Errors
import ScanAdapter.Proofs.Service.Records
import ScanAdapter.Proofs.Service.Run
import ScanAdapter.Proofs.Service.Standing
import ScanAdapter.Proofs.Service.Lifecycle
import ScanAdapter.Proofs.Service.ReadBack
import ScanAdapter.Proofs.Service.FailedScan
import ScanAdapter.Proofs.Settings.Accepted
import ScanAdapter.Proofs.Settings.Declared
import ScanAdapter.Proofs.Settings.Shadowing
import ScanAdapter.Proofs.Severity
import ScanAdapter.Proofs.Trivy.Report
import ScanAdapter.Proofs.Report.Statistics
import ScanAdapter.Proofs.Store.Readable
import ScanAdapter.Proofs.Service.Errands
import ScanAdapter.Proofs.Service.Names
import ScanAdapter.Proofs.Report.Labels
import ScanAdapter.Proofs.Text.Quoted
import ScanAdapter.Proofs.Trivy.Remarks
import ScanAdapter.Proofs.SetUp
