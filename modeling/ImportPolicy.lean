import ImportPolicy.Command.Arguments
import ImportPolicy.Command.Grammar
import ImportPolicy.Command.Request
import ImportPolicy.Command.Run
import ImportPolicy.Document.Json
import ImportPolicy.Document.Real
import ImportPolicy.Document.Toml
import ImportPolicy.Document.Value
import ImportPolicy.Environment.Assignments
import ImportPolicy.Environment.Basic
import ImportPolicy.Files.Path
import ImportPolicy.Files.Tree
import ImportPolicy.Files.Workspace
import ImportPolicy.Glob.Brace
import ImportPolicy.Glob.Class
import ImportPolicy.Glob.Path
import ImportPolicy.Glob.Segment
import ImportPolicy.Host.Diagnostic
import ImportPolicy.Host.Project
import ImportPolicy.Host.Service
import ImportPolicy.Host.Session
import ImportPolicy.Interruption
import ImportPolicy.Log
import ImportPolicy.Main
import ImportPolicy.Occurrence
import ImportPolicy.Policy.Basic
import ImportPolicy.Policy.Decode
import ImportPolicy.Policy.Evaluate
import ImportPolicy.Policy.Load
import ImportPolicy.Proofs.Answer
import ImportPolicy.Proofs.Document.Json
import ImportPolicy.Proofs.Document.JsonWriting
import ImportPolicy.Proofs.Document.Numbers
import ImportPolicy.Proofs.Document.Steps
import ImportPolicy.Proofs.Document.Toml
import ImportPolicy.Proofs.Files.Collected
import ImportPolicy.Proofs.Files.Identity
import ImportPolicy.Proofs.Files.Naming
import ImportPolicy.Proofs.Files.Route
import ImportPolicy.Proofs.Files.SameFile
import ImportPolicy.Proofs.Files.Settling
import ImportPolicy.Proofs.Glob.Alternatives
import ImportPolicy.Proofs.Glob.BraceExpansion
import ImportPolicy.Proofs.Glob.BraceScan
import ImportPolicy.Proofs.Glob.BraceTree
import ImportPolicy.Proofs.Glob.Cut
import ImportPolicy.Proofs.Glob.Depth
import ImportPolicy.Proofs.Glob.Dotted
import ImportPolicy.Proofs.Glob.Enclosed
import ImportPolicy.Proofs.Glob.EscapedClass
import ImportPolicy.Proofs.Glob.Escaping
import ImportPolicy.Proofs.Glob.Expanded
import ImportPolicy.Proofs.Glob.Letters
import ImportPolicy.Proofs.Glob.Match
import ImportPolicy.Proofs.Glob.NumberSequence
import ImportPolicy.Proofs.Glob.Piece
import ImportPolicy.Proofs.Glob.Recursion
import ImportPolicy.Proofs.Glob.Segments
import ImportPolicy.Proofs.Glob.Sequence
import ImportPolicy.Proofs.Glob.Shrinking
import ImportPolicy.Proofs.Glob.Subtree
import ImportPolicy.Proofs.Glob.Token
import ImportPolicy.Proofs.Host.Absorption
import ImportPolicy.Proofs.Host.Stack
import ImportPolicy.Proofs.Host.Views
import ImportPolicy.Proofs.Loggers
import ImportPolicy.Proofs.Policy.Acceptance
import ImportPolicy.Proofs.Policy.Containment
import ImportPolicy.Proofs.Policy.DeadPatterns
import ImportPolicy.Proofs.Policy.Discovery
import ImportPolicy.Proofs.Policy.Reading
import ImportPolicy.Proofs.Policy.Reorganised
import ImportPolicy.Proofs.Policy.Shape
import ImportPolicy.Proofs.Policy.Spelling
import ImportPolicy.Proofs.Policy.Uncountable
import ImportPolicy.Proofs.Policy.Verdicts
import ImportPolicy.Proofs.Policy.Violations
import ImportPolicy.Proofs.Report.Agreement
import ImportPolicy.Proofs.Report.Exactness
import ImportPolicy.Proofs.Report.Explanation
import ImportPolicy.Proofs.Report.Headings
import ImportPolicy.Proofs.Report.Independence
import ImportPolicy.Proofs.Report.LineNumbers
import ImportPolicy.Proofs.Report.Places
import ImportPolicy.Proofs.Report.ReadBack
import ImportPolicy.Proofs.Report.Unparseable
import ImportPolicy.Proofs.Rows
import ImportPolicy.Proofs.Source.ByteOrderMark
import ImportPolicy.Proofs.Source.ImportSites
import ImportPolicy.Proofs.Source.NamedCharacters
import ImportPolicy.Proofs.Source.Placement
import ImportPolicy.Proofs.Source.Slices
import ImportPolicy.Proofs.Source.Visit
import ImportPolicy.Proofs.Text.Columns
import ImportPolicy.Proofs.Text.Decoding
import ImportPolicy.Proofs.Text.LineStarts
import ImportPolicy.Proofs.Text.Lines
import ImportPolicy.Report.Basic
import ImportPolicy.Report.Check
import ImportPolicy.Report.Json
import ImportPolicy.Source.Cursor
import ImportPolicy.Source.Fault
import ImportPolicy.Source.Grammar.Expression
import ImportPolicy.Source.Grammar.Parameter
import ImportPolicy.Source.Grammar.Pattern
import ImportPolicy.Source.Grammar.Statement
import ImportPolicy.Source.Grammar.Strings
import ImportPolicy.Source.Grammar.Target
import ImportPolicy.Source.Imports
import ImportPolicy.Source.Module
import ImportPolicy.Source.Parser
import ImportPolicy.Source.Scan
import ImportPolicy.Source.StringLiteral
import ImportPolicy.Source.Token
import ImportPolicy.Source.Tree
import ImportPolicy.Text.Blank
import ImportPolicy.Text.CharacterNames
import ImportPolicy.Text.Digit
import ImportPolicy.Text.Identifier
import ImportPolicy.Text.Lines
import ImportPolicy.Text.Normal
import ImportPolicy.Text.Normal.Data
import ImportPolicy.Text.Printable
import ImportPolicy.Text.Quoted
import ImportPolicy.Text.Ranges
import ImportPolicy.Text.Utf8
