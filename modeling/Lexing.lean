import Lexing.Text.Offset
import Lexing.Text.CaseTable
import Lexing.Text.Case
import Lexing.Text.CharClass
import Lexing.Text.Quoted
import Lexing.Token
import Lexing.Json.Basic
import Lexing.Json.Text
import Lexing.Json.Number
import Lexing.Json.Skip
import Lexing.Json.Token
import Lexing.Literal
import Lexing.Condition
import Lexing.Nesting
import Lexing.Fault
import Lexing.Source
import Lexing.Cursor
import Lexing.Cursor.Lookup
import Lexing.Cursor.Line
import Lexing.Cursor.Op
import Lexing.Pattern
import Lexing.Recognizer
import Lexing.Recognizer.Custom
import Lexing.Rule
import Lexing.Event
import Lexing.Lexer
import Lexing.Stream
import Lexing.Session
import Lexing.Proofs.Text.Lines
import Lexing.Proofs.Cursor.Division
import Lexing.Proofs.Cursor.Invariant
import Lexing.Proofs.Cursor.Zipper
import Lexing.Proofs.Pattern.Extent
import Lexing.Proofs.Pattern.LineFeeds
import Lexing.Proofs.Recognizer.Choice
import Lexing.Proofs.Recognizer.LookBehind
import Lexing.Proofs.Lexer.Path
import Lexing.Proofs.Lexer.Accepted
import Lexing.Proofs.Lexer.ZeroWidth
import Lexing.Proofs.Stream.Partition
import Lexing.Proofs.Stream.Filtering
import Lexing.Proofs.Stream.Pulls
import Lexing.Proofs.Stream.Locality
import Lexing.Proofs.Stream.Lines
import Lexing.Proofs.Lexer.Rounds
import Lexing.Proofs.Recognizer.Behaved
import Lexing.Proofs.Stream.Progress
import Lexing.Proofs.Stream.Attribution
import Lexing.Proofs.Recognizer.Operates
import Lexing.Proofs.Stream.Cancellation
import Lexing.Proofs.Stream.Order
import Lexing.Proofs.Nesting.Isolation
import Lexing.Proofs.Cursor.Finality
import Lexing.Proofs.Stream.Reports
import Lexing.Proofs.Json.RoundTrip
import Lexing.Proofs.Lexer.Directory
import Lexing.Proofs.Lexer.Rejection
import Lexing.Proofs.Lexer.FailedSearch
import Lexing.Proofs.Pattern.Quoted
import Lexing.Proofs.Pattern.Munch
import Lexing.Proofs.Pattern.Layout
import Lexing.Proofs.Cursor.Lookup
import Lexing.Proofs.Cursor.FirstLiteral
import Lexing.Proofs.Pattern.Condition
import Lexing.Proofs.Recognizer.OrderedChoice
import Lexing.Proofs.Cursor.LineText
import Lexing.Proofs.Text.Bytes
import Lexing.Proofs.Cursor.LineText
import Lexing.Proofs.Pattern.Names
