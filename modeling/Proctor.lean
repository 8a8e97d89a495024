import Proctor.Case.Check
import Proctor.Case.Failure
import Proctor.Case.Outcome
import Proctor.Case.Phase
import Proctor.Case.Run
import Proctor.Case.Watchdog
import Proctor.Catalog.Basic
import Proctor.Catalog.CommandLine
import Proctor.Catalog.Defect
import Proctor.Catalog.Draft
import Proctor.Catalog.Load
import Proctor.Catalog.Validation
import Proctor.Host.Fault
import Proctor.Host.Interface
import Proctor.Host.Journal
import Proctor.Machine.Basic
import Proctor.Machine.Host
import Proctor.Machine.Perform
import Proctor.Machine.Pipe
import Proctor.Machine.Request
import Proctor.Machine.SharedFile
import Proctor.Machine.Signals
import Proctor.Machine.Standard
import Proctor.Machine.Tools
import Proctor.Machine.Volume
import Proctor.Main
import Proctor.Number.Binary64
import Proctor.Number.Rounding
import Proctor.Number.Shortest
import Proctor.Pattern.Basic
import Proctor.Pattern.CharSet
import Proctor.Pattern.Expr
import Proctor.Pattern.Lowering
import Proctor.Pattern.Query
import Proctor.Pattern.Reader
import Proctor.Pattern.Term
import Proctor.Pattern.Unicode.Age
import Proctor.Pattern.Unicode.Category
import Proctor.Pattern.Unicode.Folding
import Proctor.Pattern.Unicode.Property
import Proctor.Pattern.Unicode.Ranges
import Proctor.Pattern.Unicode.Script
import Proctor.Pattern.Unicode.Segmentation
import Proctor.Pattern.Weight
import Proctor.Process.Exit
import Proctor.Process.Result
import Proctor.Process.Signal
import Proctor.Process.Stream
import Proctor.Process.Subject
import Proctor.Process.Supervision
import Proctor.Process.Termination
import Proctor.Program.Options
import Proctor.Program.Run
import Proctor.Proofs.Case.Containment
import Proctor.Proofs.Case.Course
import Proctor.Proofs.Case.Delivery
import Proctor.Proofs.Case.Escalation
import Proctor.Proofs.Case.Exits
import Proctor.Proofs.Case.Injections
import Proctor.Proofs.Case.Likeness
import Proctor.Proofs.Case.Mismatch
import Proctor.Proofs.Case.Overflow
import Proctor.Proofs.Case.Ownership
import Proctor.Proofs.Case.Patience
import Proctor.Proofs.Case.Reports
import Proctor.Proofs.Case.Rounds
import Proctor.Proofs.Case.Shape
import Proctor.Proofs.Case.Verdict
import Proctor.Proofs.Catalog.Acceptance
import Proctor.Proofs.Catalog.Commands
import Proctor.Proofs.Catalog.Deadline
import Proctor.Proofs.Catalog.FirstDefect
import Proctor.Proofs.Catalog.Timeouts
import Proctor.Proofs.Host.Alike
import Proctor.Proofs.Host.Ensures
import Proctor.Proofs.Host.Likeness
import Proctor.Proofs.Host.Path
import Proctor.Proofs.Machine.Capture
import Proctor.Proofs.Number.Exact
import Proctor.Proofs.Pattern.EndAnchors
import Proctor.Proofs.Pattern.FinalNewline
import Proctor.Proofs.Pattern.LetterCase
import Proctor.Proofs.Pattern.Search
import Proctor.Proofs.Process.Conduct
import Proctor.Proofs.Process.Glance
import Proctor.Proofs.Process.Likeness
import Proctor.Proofs.Process.Operations
import Proctor.Proofs.Process.Recorded
import Proctor.Proofs.Process.Standing
import Proctor.Proofs.Process.Supervision
import Proctor.Proofs.Process.Termination
import Proctor.Proofs.Program.ExitCode
import Proctor.Proofs.Program.Options
import Proctor.Proofs.Report.Attempts
import Proctor.Proofs.Report.Cut
import Proctor.Proofs.Report.Diagnostics
import Proctor.Proofs.Report.Panics
import Proctor.Proofs.Report.Selection
import Proctor.Proofs.Report.Statuses
import Proctor.Proofs.Report.Tolerance
import Proctor.Proofs.Report.Verbose
import Proctor.Proofs.Report.Wording
import Proctor.Proofs.Text.Bytes
import Proctor.Proofs.Text.Decoding
import Proctor.Proofs.Text.Encoding
import Proctor.Proofs.Text.Order
import Proctor.Proofs.Text.Words
import Proctor.Proofs.Time.Seconds
import Proctor.Proofs.Watchdog.Events
import Proctor.Proofs.Watchdog.History
import Proctor.Proofs.Watchdog.Waiting
import Proctor.Report.Basic
import Proctor.Report.Text
import Proctor.Report.Writer
import Proctor.Shell.Arithmetic
import Proctor.Shell.Builtin
import Proctor.Shell.Condition
import Proctor.Shell.Evaluation
import Proctor.Shell.Expansion
import Proctor.Shell.Format
import Proctor.Shell.Glob
import Proctor.Shell.Invocation
import Proctor.Shell.Job
import Proctor.Shell.Reader
import Proctor.Shell.Redirection
import Proctor.Shell.Session
import Proctor.Shell.SignalName
import Proctor.Shell.Syntax
import Proctor.Shell.Token
import Proctor.Text.Blank
import Proctor.Text.Octets
import Proctor.Text.Utf8
import Proctor.Time.Duration
import Proctor.Time.Instant
import Proctor.Toml.Document
import Proctor.Toml.Quoted
import Proctor.Toml.Scalar
import Proctor.Toml.Value
