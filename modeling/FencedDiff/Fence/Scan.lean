import FencedDiff.Fence.Backtracking
import FencedDiff.Fence.LineScan
import FencedDiff.Options

/-!
# Scanning a document

Finds the blocks of a document with the scanner that the options name. Only the backtracking scanner
can give up.
-/

namespace FencedDiff

def scan (options : Options) (text : Bytes) : Except LimitExceeded (List Block) :=
  match options.scanner with
  | .lines => .ok (scanLines text)
  | .backtracking => scanBacktracking text (options.limits.scanBudget text.length)

end FencedDiff
