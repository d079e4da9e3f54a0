import StageGate.DateTime.SpanUnit
import StageGate.Disk.Tree
import StageGate.Main
import StageGate.Proofs.Command.Eval
import StageGate.Proofs.Command.Print
import StageGate.Proofs.Command.Run
import StageGate.Proofs.DateTime.ReadsBack
import StageGate.Proofs.DateTime.Span
import StageGate.Proofs.Roster.Commit
import StageGate.Proofs.Rule.RoundTrip
import StageGate.Proofs.Run.Causes
import StageGate.Proofs.Run.Dangling
import StageGate.Proofs.Run.Depth
import StageGate.Proofs.Run.Discreet
import StageGate.Proofs.Run.Invariant
import StageGate.Proofs.Run.Loop
import StageGate.Proofs.Run.Message
import StageGate.Proofs.Run.Reach
import StageGate.Proofs.Run.Stop
import StageGate.Proofs.Run.Visits
import StageGate.Proofs.Settings.RuleFile
import StageGate.Proofs.StateOrder.Chain
import StageGate.Proofs.StateTree.Rows
import StageGate.Proofs.Store
import StageGate.Proofs.Store.Kinds
import StageGate.Proofs.Value.Document
import StageGate.Proofs.Value.Whole
import StageGate.Proofs.Variables
import StageGate.Rule.Encode
