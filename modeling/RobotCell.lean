import RobotCell.Cell.Action
import RobotCell.Cell.ActionTable
import RobotCell.Cell.Catalog
import RobotCell.Cell.Document
import RobotCell.Cell.Inspection
import RobotCell.Cell.Project
import RobotCell.Command.Arguments
import RobotCell.Command.FileTree
import RobotCell.Command.Machine
import RobotCell.Command.Path
import RobotCell.Command.Rights
import RobotCell.Command.Run
import RobotCell.CompileError
import RobotCell.Json.Number
import RobotCell.Json.Reader
import RobotCell.Json.Record
import RobotCell.Json.Value
import RobotCell.Json.Writer
import RobotCell.Main
import RobotCell.Named
import RobotCell.Number.Double
import RobotCell.Number.Shortest
import RobotCell.Program.Chain
import RobotCell.Program.Emission
import RobotCell.Program.Naming
import RobotCell.Program.Recovery
import RobotCell.Program.Resources
import RobotCell.Program.Settings
import RobotCell.Program.SettingsFile
import RobotCell.Proofs.Cell.Documents
import RobotCell.Proofs.Cell.FlagTable
import RobotCell.Proofs.Cell.Inheritance
import RobotCell.Proofs.Cell.Inspected
import RobotCell.Proofs.Cell.Pairing
import RobotCell.Proofs.Cell.SavedProject
import RobotCell.Proofs.Command.Effects
import RobotCell.Proofs.Command.FileChanges
import RobotCell.Proofs.Json.Integers
import RobotCell.Proofs.Json.ReadBack
import RobotCell.Proofs.Outcome
import RobotCell.Proofs.Program.CamelCase
import RobotCell.Proofs.Program.Internal
import RobotCell.Proofs.Program.Links
import RobotCell.Proofs.Program.Matching
import RobotCell.Proofs.Program.Meaning
import RobotCell.Proofs.Program.Names
import RobotCell.Proofs.Program.Path
import RobotCell.Proofs.Program.Printable
import RobotCell.Proofs.Program.Refusal
import RobotCell.Proofs.Program.Reload
import RobotCell.Proofs.Program.Reordering
import RobotCell.Proofs.Program.ResourceClass
import RobotCell.Proofs.Program.RoundTrip
import RobotCell.Proofs.Program.Shape
import RobotCell.Proofs.Program.Variables
import RobotCell.Proofs.Program.WordBoundaries
import RobotCell.Proofs.Script.Bindings
import RobotCell.Proofs.Script.BlockPaths
import RobotCell.Proofs.Script.BracketExpr
import RobotCell.Proofs.Script.BracketStmt
import RobotCell.Proofs.Script.Brackets
import RobotCell.Proofs.Script.Checked
import RobotCell.Proofs.Script.Edits
import RobotCell.Proofs.Script.ExprTokens
import RobotCell.Proofs.Script.Faithful
import RobotCell.Proofs.Script.FaultPlaces
import RobotCell.Proofs.Script.Filled
import RobotCell.Proofs.Script.Formed
import RobotCell.Proofs.Script.FunctionBody
import RobotCell.Proofs.Script.FunctionPlace
import RobotCell.Proofs.Script.IdleLines
import RobotCell.Proofs.Script.Imports
import RobotCell.Proofs.Script.Layout
import RobotCell.Proofs.Script.LayoutTokens
import RobotCell.Proofs.Script.Legible
import RobotCell.Proofs.Script.LexerRuns
import RobotCell.Proofs.Script.LineEnds
import RobotCell.Proofs.Script.Literals
import RobotCell.Proofs.Script.Lookahead
import RobotCell.Proofs.Script.PlainExpr
import RobotCell.Proofs.Script.ProgressExpr
import RobotCell.Proofs.Script.ProgressStmt
import RobotCell.Proofs.Script.Quoting
import RobotCell.Proofs.Script.ReadDisplay
import RobotCell.Proofs.Script.ReadExpr
import RobotCell.Proofs.Script.ReadLevels
import RobotCell.Proofs.Script.ReadStmt
import RobotCell.Proofs.Script.Readings
import RobotCell.Proofs.Script.Scanning
import RobotCell.Proofs.Script.Skeleton
import RobotCell.Proofs.Script.SoundExpr
import RobotCell.Proofs.Script.SoundStmt
import RobotCell.Proofs.Script.SoundTokens
import RobotCell.Proofs.Script.Spans
import RobotCell.Proofs.Script.SpellExpr
import RobotCell.Proofs.Script.SpellStmt
import RobotCell.Proofs.Script.Spelling
import RobotCell.Proofs.Script.StmtTokens
import RobotCell.Proofs.Script.Stream
import RobotCell.Proofs.Script.WholeLiterals
import RobotCell.Proofs.Script.WholeWords
import RobotCell.Proofs.Text.Split
import RobotCell.Script.BlockPath
import RobotCell.Script.Edit
import RobotCell.Script.ExprCheck
import RobotCell.Script.ExprGrammar
import RobotCell.Script.ExprText
import RobotCell.Script.Fault
import RobotCell.Script.Identifier
import RobotCell.Script.Keyword
import RobotCell.Script.Level
import RobotCell.Script.Lexeme
import RobotCell.Script.Lexer
import RobotCell.Script.Literal
import RobotCell.Script.Lookup
import RobotCell.Script.Operator
import RobotCell.Script.Place
import RobotCell.Script.StmtCheck
import RobotCell.Script.StmtGrammar
import RobotCell.Script.StmtText
import RobotCell.Script.Token
import RobotCell.Script.TokenStream
import RobotCell.Script.Tree
import RobotCell.Text.Alphabetic
import RobotCell.Text.Blank
import RobotCell.Text.CaseMapping
import RobotCell.Text.Cased
import RobotCell.Text.CodeRange
import RobotCell.Text.Extending
import RobotCell.Text.HexDigit
import RobotCell.Text.Join
import RobotCell.Text.Lowercase
import RobotCell.Text.Numeric
import RobotCell.Text.Shown
import RobotCell.Text.Unprintable
import RobotCell.Toml.Document
import RobotCell.Toml.Reader
import RobotCell.Toml.Scalar
import RobotCell.Toml.Value
