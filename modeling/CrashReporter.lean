import CrashReporter.Identity.Fingerprint
import CrashReporter.Json.Shape
import CrashReporter.Payload
import CrashReporter.Settings
import CrashReporter.Settings.Directories
import CrashReporter.Transport.Frame
import CrashReporter.Calendar
import CrashReporter.Identity
import CrashReporter.Identity.Registration
import CrashReporter.Remote.Api
import CrashReporter.Usage.Admission
import CrashReporter.Usage.Monitor
import CrashReporter.Usage.Policy
import CrashReporter.Store
import CrashReporter.Lifecycle
import CrashReporter.Main
import CrashReporter.Proofs.Disk
import CrashReporter.Proofs.Payload
import CrashReporter.Proofs.Transport.Line
import CrashReporter.Proofs.Identity.History
import CrashReporter.Proofs.Sink.Accounting
import CrashReporter.Proofs.Usage.Action
import CrashReporter.Proofs.Usage.Ledger
import CrashReporter.Proofs.Usage.Cycle
import CrashReporter.Proofs.Calendar
import CrashReporter.Proofs.Usage.Reset
import CrashReporter.Proofs.Usage.Reload
import CrashReporter.Proofs.Usage.Continuity
import CrashReporter.Proofs.Usage.Cadence
import CrashReporter.Proofs.Usage.Overflow
import CrashReporter.Proofs.Agent.Startup
import CrashReporter.Proofs.Agent.Accounts
import CrashReporter.Proofs.Agent.Crash
import CrashReporter.Proofs.Agent.Parting
import CrashReporter.Proofs.Lifecycle.Verdict
import CrashReporter.Proofs.Lifecycle.Invariant
import CrashReporter.Proofs.Lifecycle.Panics
import CrashReporter.Proofs.Lifecycle.Holders
import CrashReporter.Proofs.Lifecycle.Grace
import CrashReporter.Proofs.Lifecycle.Hooks
import CrashReporter.Proofs.Settings
import CrashReporter.Proofs.Store.Atomicity
import CrashReporter.Proofs.Json.Skipped
import CrashReporter.Proofs.Store.Shelf
import CrashReporter.Proofs.Settings.Alike
import CrashReporter.Proofs.Settings.Blank
import CrashReporter.Proofs.Settings.Usable
import CrashReporter.Proofs.Usage.PlanDate
import CrashReporter.Proofs.Identity.Topic
import CrashReporter.Proofs.Usage.Additions
import CrashReporter.Proofs.Remote.Port
import CrashReporter.Proofs.Symbol
import CrashReporter.Proofs.Store.Candidates
import CrashReporter.Proofs.Scheduler.Wakeup
import CrashReporter.Proofs.Scheduler.Sequential
