import FencedDiff.Main
import FencedDiff.Proofs.Document.Answer
import FencedDiff.Proofs.Document.Concatenation
import FencedDiff.Proofs.Document.Report
import FencedDiff.Proofs.Command.Check
import FencedDiff.Proofs.Command.Target
import FencedDiff.Proofs.Document.Plain
import FencedDiff.Proofs.Document.CarriageReturn
import FencedDiff.Proofs.Document.Limits
import FencedDiff.Proofs.Fence.Budget
import FencedDiff.Proofs.Body.InTurn
import FencedDiff.Proofs.Document.Growth
import FencedDiff.Proofs.Fence.Online
import FencedDiff.Proofs.Fence.Misplaced
import FencedDiff.Proofs.Command.Limit
import FencedDiff.Proofs.Config.Saved
import FencedDiff.Proofs.Fence.Trail
import FencedDiff.Proofs.Text.Preview
import FencedDiff.Proofs.Document.Lines
