import LoxLexer.FileTree
import LoxLexer.Main
import LoxLexer.Proofs.Piece.Tiling
import LoxLexer.Proofs.Scanner.Run
import LoxLexer.Proofs.Grammar
import LoxLexer.Proofs.Scanner.Items
import LoxLexer.Proofs.Scanner.Shift
import LoxLexer.Proofs.LongestMatch
import LoxLexer.Proofs.Covering.Basic
import LoxLexer.Proofs.Covering.Pieces
import LoxLexer.Proofs.Covering.Lines
import LoxLexer.Proofs.Covering.Recovery
import LoxLexer.Proofs.Scanner.Resume
import LoxLexer.Proofs.Piece.Joining
import LoxLexer.Proofs.Scanner.Joining
import LoxLexer.Proofs.Lexeme.Basic
import LoxLexer.Proofs.Lexeme.Rescan
import LoxLexer.Proofs.Session.Run
import LoxLexer.Proofs.Session.Decoding
import LoxLexer.Proofs.Session.Delivery
import LoxLexer.Proofs.Session.History
import LoxLexer.Proofs.Session.Prompt
import LoxLexer.Proofs.Stream.Input
import LoxLexer.Proofs.Session.Truncation
import LoxLexer.Proofs.Scanner.Lines
import LoxLexer.Proofs.Session.LineByLine
import LoxLexer.Proofs.CommandLine.ExitCode
import LoxLexer.Proofs.Lexeme.Fusion
import LoxLexer.Proofs.Binary64.Value
import LoxLexer.Proofs.Binary64.Rounding
import LoxLexer.Proofs.Decimal.Rounding
import LoxLexer.Proofs.Covering.Numbers
import LoxLexer.Proofs.Session.Faults
import LoxLexer.Proofs.Session.Transcript
import LoxLexer.Proofs.Covering.Layout
import LoxLexer.Proofs.Covering.Spacing
import LoxLexer.Proofs.Covering.Extension
import LoxLexer.Proofs.Reporter
import LoxLexer.Proofs.Scanner.Ending
import LoxLexer.Proofs.Scanner.Events
import LoxLexer.Proofs.Session.Journal
import LoxLexer.Proofs.CommandLine.Logging
import LoxLexer.Proofs.CommandLine.Verbosity
import LoxLexer.Proofs.Binary64.Neighbours
import LoxLexer.Proofs.Decimal.Shortest
import LoxLexer.Proofs.Decimal.Layout
import LoxLexer.Proofs.Lexeme.Printed
import LoxLexer.Proofs.Cursor.Lookahead
import LoxLexer.Proofs.Cursor.Machine
import LoxLexer.Proofs.Cursor.Invariant
import LoxLexer.Proofs.Cursor.Call
import LoxLexer.Proofs.Cursor.Walk
import LoxLexer.Proofs.Decimal.FewestDigits
import LoxLexer.CommandLine.Parameters
