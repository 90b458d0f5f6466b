import InlineRemote.Daemon
import InlineRemote.Shell
import InlineRemote.Proofs.Daemon.Invisible
import InlineRemote.Proofs.Engine.Pending
import InlineRemote.Proofs.Engine.Segmentation
import InlineRemote.Proofs.Engine.Modes
import InlineRemote.Proofs.Table.Size
import InlineRemote.Proofs.Engine.Forgetting
import InlineRemote.Proofs.Engine.Notices
import InlineRemote.Proofs.Engine.Failures
import InlineRemote.Proofs.Daemon.Failures
import InlineRemote.Proofs.Daemon.Ticks
import InlineRemote.Proofs.Mapping.Grammar
import InlineRemote.Proofs.Engine.Toggles
import InlineRemote.Proofs.Daemon.Mirror
import InlineRemote.Proofs.Engine.FirstCompleted
import InlineRemote.Proofs.Engine.Unreachable
import InlineRemote.Proofs.Loading.Startup
import InlineRemote.Proofs.Status.Saved
import InlineRemote.Proofs.Table.Validation
import InlineRemote.Proofs.Mapping.Strokes
import InlineRemote.Proofs.Mapping.Scoping
import InlineRemote.Proofs.Mapping.Composition
import InlineRemote.Proofs.Mapping.Concatenation
import InlineRemote.Proofs.Engine.Deadline
import InlineRemote.Proofs.Daemon.Cues
import InlineRemote.Proofs.Key.Nesting
import InlineRemote.Proofs.Key.Names
import InlineRemote.Proofs.Mapping.Naming
import InlineRemote.Shell
