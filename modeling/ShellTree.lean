import ShellTree.Main
import ShellTree.Program.Probe
import ShellTree.Stream.Channel
import ShellTree.Tree.Build
import ShellTree.Proofs.Engine.Agreement
import ShellTree.Proofs.Engine.Restoration
import ShellTree.Proofs.Engine.Simulation
import ShellTree.Proofs.Environment.Flattening
import ShellTree.Proofs.Engine.Snapshot
import ShellTree.Proofs.Text.Utf8
import ShellTree.Proofs.Engine.Independence
import ShellTree.Proofs.Json.Numeral
import ShellTree.Proofs.Json.Parse
import ShellTree.Proofs.Json.Scan
import ShellTree.Proofs.Json.Text
import ShellTree.Proofs.Json.Fields
import ShellTree.Proofs.Tree.RoundTrip
import ShellTree.Proofs.Engine.Expansion
import ShellTree.Proofs.Engine.Normalization
import ShellTree.Proofs.Tree.Presentation
import ShellTree.Proofs.Json.Given
import ShellTree.Proofs.Arithmetic.Power
import ShellTree.Proofs.Engine.Overflow
import ShellTree.Proofs.Engine.Tracing
import ShellTree.Proofs.Engine.Diagnostics
import ShellTree.Proofs.Engine.FailStop
import ShellTree.Proofs.Parameter.Slice
import ShellTree.Proofs.Engine.Substitution
import ShellTree.Proofs.Text.Digit
import ShellTree.Proofs.Text.Escape
import ShellTree.Proofs.Environment.Log
import ShellTree.Proofs.Arithmetic.Numeral
import ShellTree.Proofs.Text.Replacement
import ShellTree.Proofs.Engine.Mention
import ShellTree.Proofs.Engine.Purity
import ShellTree.Proofs.Engine.Locality
import ShellTree.Proofs.Engine.Counting
import ShellTree.Proofs.CommandLine.ExitStatus
import ShellTree.Proofs.Engine.Rereading
import ShellTree.Proofs.Engine.ShortCircuit
import ShellTree.Proofs.Program.Echo
import ShellTree.Proofs.CommandLine.Settings
import ShellTree.Proofs.Stream.Capture
import ShellTree.Proofs.Text.Case
