import GridFilter.Main
import GridFilter.Proofs.Text.Values
import GridFilter.Proofs.Text.Pieces
import GridFilter.Proofs.Query.Grammar
import GridFilter.Proofs.Query.Written
import GridFilter.Proofs.Query.Joined
import GridFilter.Proofs.Query.Picked
import GridFilter.Proofs.Matcher.Flags
import GridFilter.Proofs.Matcher.FullStop
import GridFilter.Proofs.Matcher.Verbatim
import GridFilter.Proofs.Evaluation.RowWise
import GridFilter.Proofs.Evaluation.Visibility
import GridFilter.Proofs.Evaluation.FreshStart
import GridFilter.Proofs.Evaluation.IgnoredCells
import GridFilter.Proofs.Evaluation.TermAlgebra
import GridFilter.Proofs.Evaluation.WholeQuery
import GridFilter.Proofs.Evaluation.Justified
import GridFilter.Proofs.Evaluation.FromBlanks
import GridFilter.Proofs.Evaluation.FromNoTerms
import GridFilter.Proofs.Evaluation.Extension
import GridFilter.Proofs.Evaluation.SameAnswers
import GridFilter.Proofs.Evaluation.InertFront
import GridFilter.Proofs.Evaluation.RowsApart
import GridFilter.Proofs.Evaluation.Changes
import GridFilter.Proofs.Session.Runs
import GridFilter.Proofs.Session.PickedPhrase
import GridFilter.Proofs.Config.Settings
import GridFilter.Proofs.Config.RoundTrip
import GridFilter.Proofs.Config.LineByLine
import GridFilter.Proofs.Config.Meanings
import GridFilter.Proofs.Config.Continued
import GridFilter.Proofs.Table.Rendering
import GridFilter.Proofs.Table.Decisions
import GridFilter.Proofs.Table.Tagged
import GridFilter.Proofs.FileStore.Growth
import GridFilter.Proofs.CommandLine.Overrides
import GridFilter.Proofs.CommandLine.TooFewRows
import GridFilter.Proofs.CommandLine.Validation
import GridFilter.Proofs.CommandLine.WrittenFiles
