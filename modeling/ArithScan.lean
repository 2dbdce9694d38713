import ArithScan.Census
import ArithScan.Command
import ArithScan.Diagnostic
import ArithScan.Fault
import ArithScan.LexError
import ArithScan.Lexeme
import ArithScan.Location
import ArithScan.Main
import ArithScan.Proofs.Acceptance
import ArithScan.Proofs.Alphabet
import ArithScan.Proofs.Arguments
import ArithScan.Proofs.Caret
import ArithScan.Proofs.CaretWidth
import ArithScan.Proofs.Concatenation
import ArithScan.Proofs.Driving
import ArithScan.Proofs.ErrorText
import ArithScan.Proofs.History
import ArithScan.Proofs.InputPaths
import ArithScan.Proofs.Insertion
import ArithScan.Proofs.Interference
import ArithScan.Proofs.Joining
import ArithScan.Proofs.Layout
import ArithScan.Proofs.LineBounds
import ArithScan.Proofs.LineByLine
import ArithScan.Proofs.LineOrder
import ArithScan.Proofs.Locating
import ArithScan.Proofs.Readback
import ArithScan.Proofs.Recoding
import ArithScan.Proofs.Reporting
import ArithScan.Proofs.RuleTable
import ArithScan.Proofs.ScanLoop
import ArithScan.Proofs.Scanning
import ArithScan.Proofs.SingleStep
import ArithScan.Proofs.Slice
import ArithScan.Proofs.Spelling
import ArithScan.Proofs.Stepping
import ArithScan.Proofs.Surroundings
import ArithScan.Proofs.TabExpansion
import ArithScan.Proofs.Tokenization
import ArithScan.Proofs.Tracing
import ArithScan.Report
import ArithScan.Rule
import ArithScan.Scan
import ArithScan.Session
import ArithScan.Text.CharClass
import ArithScan.Text.CodeRange
import ArithScan.Text.HexEscaped
import ArithScan.Text.Line
import ArithScan.Text.Numeral
import ArithScan.Text.Offset
import ArithScan.Text.Quoted
import ArithScan.Text.Tab
import ArithScan.Text.Utf8
import ArithScan.Token
import ArithScan.Trace
