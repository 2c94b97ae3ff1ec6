import Abridge.Session
import Abridge.Proofs.Bisection
import Abridge.Proofs.Body.Exempt
import Abridge.Proofs.Body.Trimming
import Abridge.Proofs.Budget.Amount
import Abridge.Proofs.Budget.Decisions
import Abridge.Proofs.Budget.Descent
import Abridge.Proofs.Budget.Fit
import Abridge.Proofs.Budget.Growth
import Abridge.Proofs.Budget.Ladder
import Abridge.Proofs.Budget.Setting
import Abridge.Proofs.Budget.Smallest
import Abridge.Proofs.Budget.Trials
import Abridge.Proofs.Comment.Account
import Abridge.Proofs.Comment.Delimiter
import Abridge.Proofs.Comment.Elision
import Abridge.Proofs.Comment.Emptied
import Abridge.Proofs.Comment.Quoted
import Abridge.Proofs.Comment.Reach
import Abridge.Proofs.Comment.Rendered
import Abridge.Proofs.Comment.Short
import Abridge.Proofs.Comment.Spliced
import Abridge.Proofs.Comment.Stable
import Abridge.Proofs.Comment.Truncation
import Abridge.Proofs.Config.Accepted
import Abridge.Proofs.Config.Overrides
import Abridge.Proofs.Config.Record
import Abridge.Proofs.Config.Written
import Abridge.Proofs.Declaration.Emptied
import Abridge.Proofs.Declaration.Extent
import Abridge.Proofs.Declaration.Laminar
import Abridge.Proofs.Declaration.Outermost
import Abridge.Proofs.Declaration.Surface
import Abridge.Proofs.Document
import Abridge.Proofs.Edit.Order
import Abridge.Proofs.Edit.Queue
import Abridge.Proofs.Edit.Splice
import Abridge.Proofs.Entries
import Abridge.Proofs.Import.Marks
import Abridge.Proofs.Import.Origin
import Abridge.Proofs.Import.Pieces
import Abridge.Proofs.Import.Removed
import Abridge.Proofs.Import.Taken
import Abridge.Proofs.Import.Units
import Abridge.Proofs.Json.Merge
import Abridge.Proofs.Literal.Balance
import Abridge.Proofs.Literal.Closer
import Abridge.Proofs.Literal.Delimiters
import Abridge.Proofs.Literal.Fitting
import Abridge.Proofs.Literal.Format
import Abridge.Proofs.Literal.Hollow
import Abridge.Proofs.Literal.Kept
import Abridge.Proofs.Literal.Layout
import Abridge.Proofs.Literal.Marked
import Abridge.Proofs.Literal.Markers
import Abridge.Proofs.Literal.Notes
import Abridge.Proofs.Literal.Shape
import Abridge.Proofs.Literal.Treatment
import Abridge.Proofs.Literal.Trimming
import Abridge.Proofs.Literal.Units
import Abridge.Proofs.Pipeline
import Abridge.Proofs.Profile.Blocks
import Abridge.Proofs.Profile.Layout
import Abridge.Proofs.Profile.Nesting
import Abridge.Proofs.Profile.Places
import Abridge.Proofs.Reduction.Account
import Abridge.Proofs.Reduction.Captured
import Abridge.Proofs.Reduction.Counters
import Abridge.Proofs.Reduction.Draft
import Abridge.Proofs.Reduction.Emptied
import Abridge.Proofs.Reduction.Idle
import Abridge.Proofs.Reduction.LineEnds
import Abridge.Proofs.Reduction.Removals
import Abridge.Proofs.Reduction.Reported
import Abridge.Proofs.Reduction.Row
import Abridge.Proofs.Reduction.Run
import Abridge.Proofs.Reduction.Runs
import Abridge.Proofs.Reduction.Steps
import Abridge.Proofs.Reduction.Stubbed
import Abridge.Proofs.Reduction.Stubs
import Abridge.Proofs.Registry
import Abridge.Proofs.Session
import Abridge.Proofs.Tally
import Abridge.Proofs.Text.Balance
import Abridge.Proofs.Text.Chars
import Abridge.Proofs.Text.Cut
import Abridge.Proofs.Text.LineBounds
import Abridge.Proofs.Text.Lines
import Abridge.Proofs.Text.SingleLine
import Abridge.Proofs.Text.Trim
import Abridge.Proofs.Text.Words
import Abridge.Proofs.Tree.Ancestry
import Abridge.Proofs.Tree.Laminar
import Abridge.Proofs.Tree.Preorder
import Abridge.Proofs.Tree.Trimmed
import Abridge.Proofs.Tree.WellFormed
