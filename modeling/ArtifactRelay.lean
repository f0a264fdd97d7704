import ArtifactRelay.Artifact.Content
import ArtifactRelay.Artifact.FileTree
import ArtifactRelay.Artifact.FileTree.Change
import ArtifactRelay.Artifact.Folder
import ArtifactRelay.Artifact.Resolution
import ArtifactRelay.Artifact.Sha256
import ArtifactRelay.Backlog.Call
import ArtifactRelay.Backlog.Cell
import ArtifactRelay.Backlog.Database
import ArtifactRelay.Backlog.FileAddress
import ArtifactRelay.Backlog.FilePlace
import ArtifactRelay.Backlog.Location
import ArtifactRelay.Backlog.Medium
import ArtifactRelay.Backlog.Overwrite
import ArtifactRelay.Backlog.Row
import ArtifactRelay.Backlog.Store
import ArtifactRelay.Backlog.StoredDatabase
import ArtifactRelay.Backlog.Tables
import ArtifactRelay.Binary64.Basic
import ArtifactRelay.Binary64.Reading
import ArtifactRelay.Binary64.Written
import ArtifactRelay.Command.Arguments
import ArtifactRelay.Command.Report
import ArtifactRelay.Command.Running
import ArtifactRelay.Dedup
import ArtifactRelay.Engine.Acknowledgment
import ArtifactRelay.Engine.Upload
import ArtifactRelay.Error
import ArtifactRelay.Json.Basic
import ArtifactRelay.Json.Document
import ArtifactRelay.Json.Reading
import ArtifactRelay.Json.Record
import ArtifactRelay.Json.Written
import ArtifactRelay.Main
import ArtifactRelay.Rehearsal.Play
import ArtifactRelay.Rehearsal.Script
import ArtifactRelay.Rehearsal.Stage
import ArtifactRelay.Retry
import ArtifactRelay.Settings
import ArtifactRelay.Settings.EnvFile
import ArtifactRelay.Settings.TelemetryAddress
import ArtifactRelay.Site
import ArtifactRelay.Text.Alphanumeric
import ArtifactRelay.Text.Blank
import ArtifactRelay.Text.Digits
import ArtifactRelay.Text.Lossy
import ArtifactRelay.Text.Number
import ArtifactRelay.Text.Order
import ArtifactRelay.Text.Quoted
import ArtifactRelay.Time.Calendar
import ArtifactRelay.Time.Delay
import ArtifactRelay.Time.Instant
import ArtifactRelay.Time.Reading
import ArtifactRelay.Time.Span
import ArtifactRelay.Time.Written
import ArtifactRelay.WorkItem.Basic
import ArtifactRelay.WorkItem.Outcome
import ArtifactRelay.WorkItem.Reading
import ArtifactRelay.WorkItem.Status
import ArtifactRelay.Worker.Cycle
import ArtifactRelay.Worker.Program
import ArtifactRelay.Proofs.Text.Blank
import ArtifactRelay.Proofs.Time.Calendar
import ArtifactRelay.Proofs.Time.Order
import ArtifactRelay.Proofs.Time.RoundTrip
import ArtifactRelay.Proofs.Backlog.Stamps
import ArtifactRelay.Proofs.Backlog.Rows
import ArtifactRelay.Proofs.Backlog.Steps
import ArtifactRelay.Proofs.Backlog.Runs
import ArtifactRelay.Proofs.Backlog.Reading
import ArtifactRelay.Proofs.Backlog.Exclusivity
import ArtifactRelay.Proofs.Fleet.Basic
import ArtifactRelay.Proofs.Fleet.Position
import ArtifactRelay.Proofs.Fleet.Holding
import ArtifactRelay.Proofs.Fleet.Attempts
import ArtifactRelay.Proofs.Fleet.Sparing
import ArtifactRelay.Proofs.Fleet.Orderly
import ArtifactRelay.Proofs.Fleet.Acceptance
import ArtifactRelay.Proofs.Backlog.Consistency
import ArtifactRelay.Proofs.Backlog.Sweep
import ArtifactRelay.Proofs.Backlog.Finality
import ArtifactRelay.Proofs.Backlog.Matching
import ArtifactRelay.Proofs.Backlog.Agreement
import ArtifactRelay.Proofs.Backlog.Atomicity
import ArtifactRelay.Proofs.Backlog.Preservation
import ArtifactRelay.Proofs.Backlog.Lifecycle
import ArtifactRelay.Proofs.Backlog.Arrival
import ArtifactRelay.Proofs.Backlog.Copies
import ArtifactRelay.Proofs.Backlog.Recording
import ArtifactRelay.Proofs.Backlog.Losing
import ArtifactRelay.Proofs.Worker.Decision
import ArtifactRelay.Proofs.Worker.Draining
import ArtifactRelay.Proofs.Worker.Chronicle
import ArtifactRelay.Proofs.Worker.Counting
import ArtifactRelay.Proofs.Settings.Bounds
import ArtifactRelay.Proofs.Engine.Answers
import ArtifactRelay.Proofs.Settings.Backoff
import ArtifactRelay.Proofs.Artifact.Recent
import ArtifactRelay.Proofs.Artifact.Hints
import ArtifactRelay.Proofs.Artifact.Choice
import ArtifactRelay.Proofs.Artifact.Containment
import ArtifactRelay.Proofs.Artifact.Identity
import ArtifactRelay.Proofs.Backlog.Standing
import ArtifactRelay.Proofs.Worker.Widening
import ArtifactRelay.Proofs.Backlog.Naming
import ArtifactRelay.Proofs.Backlog.Redaction
import ArtifactRelay.Proofs.WorkItem.Address
