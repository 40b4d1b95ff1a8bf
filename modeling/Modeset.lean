import Modeset.Card
import Modeset.Cli.Failure
import Modeset.Cli.Invocation
import Modeset.Cli.Parser
import Modeset.Cli.Report
import Modeset.Cli.Run
import Modeset.Config
import Modeset.Config.Document
import Modeset.Config.Record
import Modeset.Config.Store
import Modeset.Datum
import Modeset.Datum.Json
import Modeset.Error
import Modeset.Fault
import Modeset.Fault.Errno
import Modeset.Framebuffer
import Modeset.Host
import Modeset.Kind
import Modeset.Kms
import Modeset.Log
import Modeset.Log.Directive
import Modeset.Log.Filter
import Modeset.Main
import Modeset.Manager
import Modeset.Manager.Command
import Modeset.Manager.Power
import Modeset.Mode
import Modeset.Mode.Choice
import Modeset.Mode.Request
import Modeset.NameField
import Modeset.Node
import Modeset.Node.Request
import Modeset.Output
import Modeset.Output.Commit
import Modeset.Output.Discovery
import Modeset.Output.Record
import Modeset.Path
import Modeset.Payload
import Modeset.PhysicalSize
import Modeset.Platform
import Modeset.Pool.Dumb
import Modeset.Power
import Modeset.Proc
import Modeset.Proofs.Agreement
import Modeset.Proofs.Candidate
import Modeset.Proofs.Card.Dumb
import Modeset.Proofs.Card.Encoder
import Modeset.Proofs.Card.Modes
import Modeset.Proofs.Change
import Modeset.Proofs.Checked
import Modeset.Proofs.Choice
import Modeset.Proofs.Cleanup
import Modeset.Proofs.Command
import Modeset.Proofs.Commit
import Modeset.Proofs.Config.Document
import Modeset.Proofs.Config.Overlay
import Modeset.Proofs.Config.Store
import Modeset.Proofs.Connected
import Modeset.Proofs.Context
import Modeset.Proofs.Detection
import Modeset.Proofs.Discovery
import Modeset.Proofs.Exchange
import Modeset.Proofs.Failure
import Modeset.Proofs.Isolation
import Modeset.Proofs.Kernel
import Modeset.Proofs.Layer
import Modeset.Proofs.Ledger
import Modeset.Proofs.Lifecycle
import Modeset.Proofs.Live
import Modeset.Proofs.Mode.Grammar
import Modeset.Proofs.Mode.Printed
import Modeset.Proofs.Mode.Questions
import Modeset.Proofs.Node.Request
import Modeset.Proofs.Operation
import Modeset.Proofs.Outcome
import Modeset.Proofs.Pending
import Modeset.Proofs.Planned
import Modeset.Proofs.Policy
import Modeset.Proofs.Power
import Modeset.Proofs.Prospect
import Modeset.Proofs.Redetection
import Modeset.Proofs.Refresh
import Modeset.Proofs.Request
import Modeset.Proofs.Run
import Modeset.Proofs.ScanOut
import Modeset.Proofs.Scripted
import Modeset.Proofs.Seamless
import Modeset.Proofs.SetMode
import Modeset.Proofs.Sharing
import Modeset.Proofs.Silence
import Modeset.Proofs.Sound
import Modeset.Proofs.Terminal
import Modeset.Proofs.Toml.Document
import Modeset.Proofs.Toml.Quoted
import Modeset.Proofs.Utf8
import Modeset.Proofs.View
import Modeset.Proofs.Walk
import Modeset.Proofs.Wiring
import Modeset.Proofs.Work
import Modeset.Simulation.Bench
import Modeset.Simulation.Device
import Modeset.Simulation.FileTree
import Modeset.Simulation.Kernel
import Modeset.Simulation.Machine
import Modeset.Simulation.Node
import Modeset.Slot
import Modeset.Text.Blank
import Modeset.Text.Decimal
import Modeset.Text.Layout
import Modeset.Text.Letter
import Modeset.Text.Pattern
import Modeset.Text.Pattern.Escape
import Modeset.Text.Pattern.Group
import Modeset.Text.Pattern.Row
import Modeset.Text.Pattern.Set
import Modeset.Text.Pattern.Style
import Modeset.Text.Quoted
import Modeset.Text.Ranges
import Modeset.Text.Unshown
import Modeset.Text.Utf8
import Modeset.Toml.Document
import Modeset.Toml.Quoted
import Modeset.Toml.Scalar
import Modeset.Toml.Table
import Modeset.Topology
