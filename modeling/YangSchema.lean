import YangSchema.Files.Tree
import YangSchema.Lexer.Progress
import YangSchema.Main
import YangSchema.Proofs.Lexer.Outcome
import YangSchema.Proofs.Statement.Grammar
import YangSchema.Module.Builder
import YangSchema.Settings.Load
import YangSchema.Statement.Data
import YangSchema.Statement.Parser
import YangSchema.Statement.Printer
import YangSchema.Proofs.Statement.Arena
import YangSchema.Proofs.Statement.Stack
import YangSchema.Proofs.Lexer.Layout
import YangSchema.Proofs.Lexer.Recognition
import YangSchema.Proofs.Statement.Canonical
import YangSchema.Proofs.Statement.RoundTrip
import YangSchema.Proofs.Binary64.Rounding
import YangSchema.Proofs.Binary64.Distance
import YangSchema.Proofs.Restriction.WrittenRange
import YangSchema.Proofs.Restriction.IntegerRange
import YangSchema.Proofs.Argument.LongNumeral
import YangSchema.Proofs.Typedef.Flaw
import YangSchema.Proofs.Types.Reads
import YangSchema.Proofs.Typedef.RestrictionFlaw
import YangSchema.Proofs.Typedef.TypeFlaw
import YangSchema.Proofs.Typedef.DefaultFlaw
import YangSchema.Proofs.Typedef.TypedefFlaw
import YangSchema.Proofs.Module.Flaw
import YangSchema.Proofs.Statement.Linked
import YangSchema.Proofs.Module.UsableDefault
import YangSchema.Proofs.Lexer.Continuation
import YangSchema.Proofs.Lexer.StringContinuation
import YangSchema.Proofs.Statement.HeaderContinuation
import YangSchema.Proofs.Statement.ViablePrefix
import YangSchema.Proofs.Lexer.LineEnd
import YangSchema.Proofs.Lexer.RespelledString
import YangSchema.Proofs.Statement.Respelled
import YangSchema.Proofs.Types.Chain
import YangSchema.Proofs.Typedef.Grouping
import YangSchema.Proofs.Typedef.Report
import YangSchema.Proofs.Typedef.Resolution
import YangSchema.Proofs.Typedef.Declared
import YangSchema.Proofs.Typedef.DefaultCheck
import YangSchema.Proofs.Typedef.Extends
import YangSchema.Proofs.Typedef.Runs
import YangSchema.Proofs.Module.Exported
import YangSchema.Proofs.Statement.KeywordPlace
import YangSchema.Proofs.Source.Report
import YangSchema.Proofs.Statement.Reachable
import YangSchema.Proofs.Types.Rebase
import YangSchema.Proofs.Lexer.Quotation
import YangSchema.Proofs.Lexer.Remainder
import YangSchema.Proofs.Statement.Remainder
import YangSchema.Proofs.Console.Shown
import YangSchema.Proofs.CommandLine.Session
import YangSchema.Proofs.CommandLine.Check
import YangSchema.Proofs.CommandLine.Parse
import YangSchema.Proofs.Settings.Search
import YangSchema.Proofs.Lexer.Reindent
import YangSchema.Proofs.Lexer.Spelling
import YangSchema.Proofs.Statement.Policy
import YangSchema.Proofs.Statement.DocumentOrder
import YangSchema.Proofs.Statement.Growth
import YangSchema.Proofs.Statement.Traversal
import YangSchema.Proofs.Statement.Undo
import YangSchema.Proofs.Types.Narrowing
import YangSchema.Proofs.Types.Override
import YangSchema.Proofs.Text.Trim
import YangSchema.Proofs.Text.Numeral
import YangSchema.Proofs.Types.IntegerLiteral
import YangSchema.Proofs.Types.DecimalLiteral
import YangSchema.Proofs.Types.DecimalRoundTrip
import YangSchema.Proofs.Base64
import YangSchema.Proofs.Types.RoundTrip
import YangSchema.Proofs.Argument.Parts
import YangSchema.Proofs.Argument.WrittenLength
import YangSchema.Proofs.Binary64.Order
import YangSchema.Proofs.Restriction.RangeCoverage
import YangSchema.Proofs.Typedef.WrittenPrefix
import YangSchema.Proofs.Typedef.FaultReport
import YangSchema.Proofs.Typedef.Explanation
import YangSchema.Proofs.Typedef.SameBelow
import YangSchema.Proofs.Module.Layout
import YangSchema.Proofs.Calendar
import YangSchema.Proofs.Argument.DateText
import YangSchema.Proofs.Argument.IntervalText
import YangSchema.Proofs.Binary64.WholeNumber
import YangSchema.Proofs.Restriction.RestrictionText
