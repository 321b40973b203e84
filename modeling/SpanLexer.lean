import SpanLexer.Text
import SpanLexer.Position
import SpanLexer.Unicode.RangeTree
import SpanLexer.Unicode.DecimalDigit
import SpanLexer.Unicode.Letter
import SpanLexer.Unicode.WhiteSpace
import SpanLexer.Unicode.Symbol
import SpanLexer.Unicode.Punctuation
import SpanLexer.Unicode.Unprintable
import SpanLexer.CharClass
import SpanLexer.Token
import SpanLexer.Quoted
import SpanLexer.ScanError
import SpanLexer.Cursor
import SpanLexer.Loop
import SpanLexer.Rule
import SpanLexer.Rule.Opening
import SpanLexer.Rule.Reading
import SpanLexer.Rule.Apply
import SpanLexer.Event
import SpanLexer.Scan
import SpanLexer.Session
import SpanLexer.LineLocation
import SpanLexer.Report
import SpanLexer.CommandLine.Arguments
import SpanLexer.CommandLine.Folder
import SpanLexer.CommandLine.Program
import SpanLexer.Proofs.Span
import SpanLexer.Proofs.Run
import SpanLexer.Proofs.Tiling
import SpanLexer.Proofs.Trace
import SpanLexer.Proofs.Placement
import SpanLexer.Proofs.Settling
import SpanLexer.Proofs.Reporting
import SpanLexer.Proofs.Relocation
import SpanLexer.Proofs.Lookahead
import SpanLexer.Proofs.Appending
import SpanLexer.Proofs.Rescanning
import SpanLexer.Proofs.CommentRules
import SpanLexer.Proofs.Openers
import SpanLexer.Proofs.RuleOrder
import SpanLexer.Proofs.Neighbours
import SpanLexer.Proofs.Halting
import SpanLexer.Proofs.LineLookup
import SpanLexer.Proofs.Caret
import SpanLexer.Main
import SpanLexer.Proofs.Logging
import SpanLexer.Proofs.Unclosed
import SpanLexer.Proofs.Stalling
import SpanLexer.Proofs.RunningOut
import SpanLexer.Proofs.FurtherRules
import SpanLexer.Proofs.Applying
import SpanLexer.Proofs.Delimiters
import SpanLexer.Proofs.PhoneNumbers
import SpanLexer.Proofs.CommentEnds
import SpanLexer.Proofs.Runs
import SpanLexer.Proofs.Locating
import SpanLexer.Proofs.Tags
import SpanLexer.Proofs.ReadingBack
import SpanLexer.Proofs.Stepping
