import RonWorkbench.Highlight.Relative
import RonWorkbench.Json.Reader
import RonWorkbench.Listing
import RonWorkbench.Main
import RonWorkbench.Server.Encoding
import RonWorkbench.Proofs.Lexeme.Reading
import RonWorkbench.Proofs.Scan.Step
import RonWorkbench.Proofs.Scan.Run
import RonWorkbench.Proofs.Text.Cut
import RonWorkbench.Proofs.Token.Cover
import RonWorkbench.Proofs.Stack.Shape
import RonWorkbench.Proofs.Stack.Reachable
import RonWorkbench.Proofs.Text.Lines
import RonWorkbench.Proofs.Document.Lines
import RonWorkbench.Proofs.Document.Resume
import RonWorkbench.Proofs.Highlight.Relative
import RonWorkbench.Proofs.Token.Inside
import RonWorkbench.Proofs.Literal.Comment
import RonWorkbench.Proofs.Text.FirstCut
import RonWorkbench.Proofs.Literal.Raw
import RonWorkbench.Proofs.Literal.Basic
import RonWorkbench.Proofs.Literal.Escape
import RonWorkbench.Proofs.Literal.Quoted
import RonWorkbench.Proofs.Formatter.Editing
import RonWorkbench.Proofs.Text.Terminator
import RonWorkbench.Proofs.Document.Tokens
import RonWorkbench.Proofs.Lexeme.Bracket
import RonWorkbench.Proofs.Scan.Value
import RonWorkbench.Proofs.Highlight.Runs
import RonWorkbench.Proofs.Scan.Outer
import RonWorkbench.Proofs.Bracket.Matching
import RonWorkbench.Proofs.Token.Nest
import RonWorkbench.Proofs.Document.Innermost
import RonWorkbench.Proofs.Document.Closing
import RonWorkbench.Proofs.Server.Documents
import RonWorkbench.Proofs.Fallible
import RonWorkbench.Proofs.Settings.Payload
import RonWorkbench.Proofs.Settings.View
import RonWorkbench.Proofs.Settings.Order
import RonWorkbench.Proofs.Settings.Flags
import RonWorkbench.Proofs.Server.Settings
import RonWorkbench.Proofs.Server.Latest
import RonWorkbench.Proofs.Files.Tree
import RonWorkbench.Proofs.Formatter.Call
import RonWorkbench.Proofs.Formatter.Life
import RonWorkbench.Proofs.Text.Encoding
import RonWorkbench.Proofs.CommandLine.Formatting
import RonWorkbench.Proofs.Formatter.Function
import RonWorkbench.Proofs.CommandLine.Modes
import RonWorkbench.Proofs.CommandLine.Reading
import RonWorkbench.Proofs.Json.Reading
import RonWorkbench.Proofs.Json.Printing
import RonWorkbench.Proofs.Listing.Json
import RonWorkbench.Proofs.Listing.Simple
import RonWorkbench.Proofs.Text.Position
import RonWorkbench.Proofs.Token.Number
import RonWorkbench.Proofs.Formatter.Classification
import RonWorkbench.Proofs.Token.Word
import RonWorkbench.Proofs.Document.Positions
import RonWorkbench.Proofs.Stack.Depth
import RonWorkbench.Proofs.Token.Merge
import RonWorkbench.Proofs.Settings.Acceptance
import RonWorkbench.Proofs.Server.Formatting
import RonWorkbench.Proofs.Token.Suffix
import RonWorkbench.Proofs.Scan.Advance
