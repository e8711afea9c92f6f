import DeviceTrial.Application
import DeviceTrial.Bindings
import DeviceTrial.Cloud.Adapter
import DeviceTrial.Cloud.Request
import DeviceTrial.Cloud.Script
import DeviceTrial.CommandLine.Flag
import DeviceTrial.CommandLine.Reader
import DeviceTrial.CommandLine.Selection
import DeviceTrial.CommandLine.Usage
import DeviceTrial.Decimal.Binary
import DeviceTrial.Decimal.Shortest
import DeviceTrial.Descriptor
import DeviceTrial.Drive
import DeviceTrial.Error.Abort
import DeviceTrial.Error.Discrepancy
import DeviceTrial.Error.Plane
import DeviceTrial.Error.Setting
import DeviceTrial.Error.Trial
import DeviceTrial.Event
import DeviceTrial.Expectation
import DeviceTrial.FileSystem
import DeviceTrial.Identity
import DeviceTrial.Json.Named
import DeviceTrial.Json.Printer
import DeviceTrial.Json.Syntax
import DeviceTrial.Json.Value
import DeviceTrial.Logging
import DeviceTrial.Logging.Directive
import DeviceTrial.Main
import DeviceTrial.Metric
import DeviceTrial.MetricsFile
import DeviceTrial.Path
import DeviceTrial.Plan
import DeviceTrial.Plane.Call
import DeviceTrial.Plane.Interruption
import DeviceTrial.Plane.Registry
import DeviceTrial.Preparation
import DeviceTrial.Process.Launch
import DeviceTrial.Process.Output
import DeviceTrial.Program
import DeviceTrial.RunTag
import DeviceTrial.Sandbox.Arithmetic
import DeviceTrial.Sandbox.Builtin
import DeviceTrial.Sandbox.Evaluation
import DeviceTrial.Sandbox.Format
import DeviceTrial.Sandbox.Launcher
import DeviceTrial.Sandbox.Reader
import DeviceTrial.Sandbox.Script
import DeviceTrial.Sandbox.Shell
import DeviceTrial.Scenario
import DeviceTrial.Scorecard
import DeviceTrial.Secret
import DeviceTrial.Settings.Basic
import DeviceTrial.Settings.Check
import DeviceTrial.Settings.Environment
import DeviceTrial.Settings.Field
import DeviceTrial.Settings.File
import DeviceTrial.Settings.Load
import DeviceTrial.Table
import DeviceTrial.Text.Alphanumeric
import DeviceTrial.Text.Blank
import DeviceTrial.Text.Place
import DeviceTrial.Text.Scan
import DeviceTrial.Toml.Characters
import DeviceTrial.Toml.Document
import DeviceTrial.Toml.Moment
import DeviceTrial.Toml.Number
import DeviceTrial.Toml.Statement
import DeviceTrial.Toml.Value
import DeviceTrial.Trial
import DeviceTrial.Verification
import DeviceTrial.World
import DeviceTrial.Proofs.Run.Errand
import DeviceTrial.Proofs.Identity.Making
import DeviceTrial.Proofs.Identity.Removing
import DeviceTrial.Proofs.Trial.Driving
import DeviceTrial.Proofs.Trial.Verifying
import DeviceTrial.Proofs.Trial.Conducting
import DeviceTrial.Proofs.Trial.Protocol
import DeviceTrial.Proofs.Plane.Steps
import DeviceTrial.Proofs.Plane.Serving
import DeviceTrial.Proofs.Plane.Soundness
import DeviceTrial.Proofs.Identity.Erasure
import DeviceTrial.Proofs.Identity.Residue
import DeviceTrial.Proofs.Trial.Compensation
import DeviceTrial.Proofs.Trial.Verdict
import DeviceTrial.Proofs.Trial.Record
import DeviceTrial.Proofs.Cloud.Exchange
import DeviceTrial.Proofs.Cloud.Removal
import DeviceTrial.Proofs.Cloud.Making
import DeviceTrial.Proofs.Identity.Retrying
import DeviceTrial.Proofs.Together.Places
import DeviceTrial.Proofs.Together.Files
import DeviceTrial.Proofs.Together.Territory
import DeviceTrial.Proofs.Together.Ownership
import DeviceTrial.Proofs.Together.Likeness
import DeviceTrial.Proofs.Together.Identities
import DeviceTrial.Proofs.Together.Trials
import DeviceTrial.Proofs.Together.Registries
import DeviceTrial.Proofs.Together.Worlds
import DeviceTrial.Proofs.Together.Isolation
import DeviceTrial.Proofs.Run.Confinement
import DeviceTrial.Proofs.Run.Journal
import DeviceTrial.Proofs.Trial.Confinement
import DeviceTrial.Proofs.Identity.Crashing
import DeviceTrial.Proofs.Trial.Credentials
import DeviceTrial.Proofs.Trial.Settling
import DeviceTrial.Proofs.Trial.Account
import DeviceTrial.Proofs.Trial.Balance
import DeviceTrial.Proofs.Secrecy.Pairing
import DeviceTrial.Proofs.Secrecy.Work
import DeviceTrial.Proofs.Secrecy.Driving
import DeviceTrial.Proofs.Secrecy.Phases
import DeviceTrial.Proofs.Secrecy.Disclosure
import DeviceTrial.Proofs.Plane.Transitions
import DeviceTrial.Proofs.Run.Ending
import DeviceTrial.Proofs.Run.Hearing
import DeviceTrial.Proofs.Settings.Tidiness
import DeviceTrial.Proofs.Settings.Sources
import DeviceTrial.Proofs.Settings.Precedence
import DeviceTrial.Proofs.Application.ExitCode
import DeviceTrial.Proofs.Application.Refusal
import DeviceTrial.Proofs.Identity.Clearing
import DeviceTrial.Proofs.Identity.Reporting
import DeviceTrial.Proofs.Identity.Writing
import DeviceTrial.Proofs.Plane.Inventory
import DeviceTrial.Proofs.Identity.Founding
import DeviceTrial.Proofs.Settings.Separation
import DeviceTrial.Proofs.Drive.Scanning
import DeviceTrial.Proofs.Drive.Rereading
import DeviceTrial.Proofs.Drive.Placeholders
import DeviceTrial.Proofs.Json.Quoting
import DeviceTrial.Proofs.Verification.Shadows
import DeviceTrial.Proofs.Cloud.Paging
import DeviceTrial.Proofs.Verification.Answers
import DeviceTrial.Proofs.Trial.Naming
import DeviceTrial.Proofs.Drive.Accepting
import DeviceTrial.Proofs.Drive.Resolving
import DeviceTrial.Proofs.Drive.Lines
import DeviceTrial.Proofs.Drive.Capturing
import DeviceTrial.Proofs.Trial.Trespass
