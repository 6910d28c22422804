import CommitStyle.Command.Workspace
import CommitStyle.Main
import CommitStyle.Proofs.Command.Comments
import CommitStyle.Proofs.Linter.Report
import CommitStyle.Proofs.Rule.Safety
import CommitStyle.Proofs.Linter.OuterBlank
import CommitStyle.Proofs.Message.Code
import CommitStyle.Proofs.Linter.FencedContent
import CommitStyle.Proofs.Rule.CodeJoin
import CommitStyle.Proofs.Text.Phrase
import CommitStyle.Proofs.Message.Guideline
import CommitStyle.Proofs.Linter.Guideline
import CommitStyle.Proofs.Command.Load
import CommitStyle.Proofs.Linter.Isolation
import CommitStyle.Proofs.Linter.BlankLine
import CommitStyle.Proofs.Command.Outcome
import CommitStyle.Proofs.Message.CodeExtent
import CommitStyle.Proofs.Rule.LineLength
import CommitStyle.Proofs.Message.LastLine
import CommitStyle.Proofs.Rule.Paragraphwise
import CommitStyle.Proofs.Rule.FirstWord
import CommitStyle.Proofs.Message.Segments
import CommitStyle.Proofs.Text.MaximalRun
import CommitStyle.Proofs.Rule.Prose
import CommitStyle.Proofs.Rule.Suggestion
import CommitStyle.Proofs.Rule.SpaceRun
import CommitStyle.Proofs.Rule.Reference
import CommitStyle.Proofs.Rule.Footer
import CommitStyle.Proofs.Rule.CommitLink
import CommitStyle.Proofs.Rule.TypedHeader
import CommitStyle.Proofs.Command.Writing
import CommitStyle.Proofs.Config.RoundTrip
import CommitStyle.Proofs.Report.Display
import CommitStyle.Proofs.Rule.OutsideFences
import CommitStyle.Proofs.Text.Assembled
