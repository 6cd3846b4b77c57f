import Nameplate.Component.Analysis
import Nameplate.Document.Analysis
import Nameplate.Document.Basic
import Nameplate.Document.Command
import Nameplate.Document.Diagnostic
import Nameplate.Document.Lens
import Nameplate.Glob.Match
import Nameplate.Json.Decimal
import Nameplate.Json.Mismatch
import Nameplate.Json.Reader
import Nameplate.Json.Record
import Nameplate.Json.Writer
import Nameplate.Naming.Plan
import Nameplate.Server.Basic
import Nameplate.Server.Session
import Nameplate.Settings.Basic
import Nameplate.Text.Hidden
import Nameplate.Text.Quoted
import Nameplate.Uri.Basic
import Nameplate.Workspace.Disk
import Nameplate.Workspace.Plan
import Nameplate.Workspace.Walk
import Nameplate.Proofs.Text.Slice
import Nameplate.Proofs.Text.Splice
import Nameplate.Proofs.Tsx.Placed
import Nameplate.Proofs.Tsx.Moved
import Nameplate.Proofs.Tsx.FirstTerminal
import Nameplate.Proofs.Tsx.Unreadable
import Nameplate.Proofs.Component.Found
import Nameplate.Proofs.Component.Shifted
import Nameplate.Proofs.Naming.Batch
import Nameplate.Proofs.Naming.Harmless
import Nameplate.Proofs.Naming.Reparsed
import Nameplate.Proofs.Naming.Statements
import Nameplate.Proofs.Naming.Idempotent
import Nameplate.Proofs.Document.Current
import Nameplate.Proofs.Document.Lifecycle
import Nameplate.Proofs.Document.Identity
import Nameplate.Proofs.Document.Transparent
import Nameplate.Proofs.Document.History
import Nameplate.Proofs.Document.Reference
import Nameplate.Proofs.Json.Record
import Nameplate.Proofs.Document.Offered
import Nameplate.Proofs.Uri.Denotes
import Nameplate.Proofs.Workspace.Live
import Nameplate.Proofs.Text.Position
import Nameplate.Proofs.Naming.Client
import Nameplate.Proofs.Text.FirstEdit
import Nameplate.Proofs.Component.Behind
import Nameplate.Proofs.Naming.SingleEdit
import Nameplate.Proofs.Naming.Remaining
import Nameplate.Proofs.Naming.Confluence
import Nameplate.Proofs.Document.Follows
import Nameplate.Proofs.Server.Session
import Nameplate.Proofs.Server.Mirror
import Nameplate.Proofs.Server.Diagnostics
import Nameplate.Proofs.Workspace.Alike
import Nameplate.Proofs.Workspace.Collected
import Nameplate.Proofs.Server.Accounting
import Nameplate.Proofs.Server.Reply
import Nameplate.Proofs.Server.Commands
import Nameplate.Proofs.Component.Recognized
import Nameplate.Proofs.Component.Attributed
import Nameplate.Proofs.Component.Layout
import Nameplate.Proofs.Naming.Literal
import Nameplate.Proofs.Naming.Decided
import Nameplate.Proofs.Text.Bytes
import Nameplate.Proofs.Text.Exact
import Nameplate.Proofs.Component.Fault
import Nameplate.Proofs.Workspace.Reached
import Nameplate.Proofs.Glob.Match
import Nameplate.Proofs.Workspace.Joined
import Nameplate.Proofs.Settings.Excluded
import Nameplate.Proofs.Workspace.Fallback
