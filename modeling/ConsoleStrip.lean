import ConsoleStrip.Command.Arguments
import ConsoleStrip.Command.Reading
import ConsoleStrip.Command.Report
import ConsoleStrip.Command.Run
import ConsoleStrip.Command.Similarity
import ConsoleStrip.Command.Spec
import ConsoleStrip.Comment.Attached
import ConsoleStrip.Comment.Basic
import ConsoleStrip.Comment.Collect
import ConsoleStrip.Comment.Extent
import ConsoleStrip.Comment.Index
import ConsoleStrip.Config
import ConsoleStrip.Config.Load
import ConsoleStrip.Decimal.Binary64
import ConsoleStrip.Decimal.Shortest
import ConsoleStrip.Event
import ConsoleStrip.Fault
import ConsoleStrip.FileKind
import ConsoleStrip.Files.Path
import ConsoleStrip.Files.Scan
import ConsoleStrip.Files.System
import ConsoleStrip.Glob
import ConsoleStrip.Json.Basic
import ConsoleStrip.Json.Decoder
import ConsoleStrip.Json.Fault
import ConsoleStrip.Json.Reader
import ConsoleStrip.Log.Filter
import ConsoleStrip.Main
import ConsoleStrip.Options
import ConsoleStrip.Parse.Class
import ConsoleStrip.Parse.Cover
import ConsoleStrip.Parse.Declaration
import ConsoleStrip.Parse.Expr
import ConsoleStrip.Parse.File
import ConsoleStrip.Parse.Function
import ConsoleStrip.Parse.Goal
import ConsoleStrip.Parse.Markup
import ConsoleStrip.Parse.Module
import ConsoleStrip.Parse.Monad
import ConsoleStrip.Parse.Name
import ConsoleStrip.Parse.Object
import ConsoleStrip.Parse.Pattern
import ConsoleStrip.Parse.Primary
import ConsoleStrip.Parse.Statement
import ConsoleStrip.Parse.Subscript
import ConsoleStrip.Parse.Type
import ConsoleStrip.PathFilter
import ConsoleStrip.Print.Expr
import ConsoleStrip.Print.Function
import ConsoleStrip.Print.Listing
import ConsoleStrip.Print.Markup
import ConsoleStrip.Print.Module
import ConsoleStrip.Print.Output
import ConsoleStrip.Print.Part
import ConsoleStrip.Print.Statement
import ConsoleStrip.Print.Tree
import ConsoleStrip.Print.Type
import ConsoleStrip.Proofs.Command.File
import ConsoleStrip.Proofs.Command.Print
import ConsoleStrip.Proofs.Command.Project
import ConsoleStrip.Proofs.Command.Report
import ConsoleStrip.Proofs.Command.Stopped
import ConsoleStrip.Proofs.Command.Strip
import ConsoleStrip.Proofs.Comment.Argument
import ConsoleStrip.Proofs.Comment.Filing
import ConsoleStrip.Proofs.Comment.Interior
import ConsoleStrip.Proofs.Comment.Line
import ConsoleStrip.Proofs.Comment.Order
import ConsoleStrip.Proofs.Comment.Run
import ConsoleStrip.Proofs.Comment.Trivia
import ConsoleStrip.Proofs.Config.Nearest
import ConsoleStrip.Proofs.Config.Shared
import ConsoleStrip.Proofs.Config.Written
import ConsoleStrip.Proofs.Files.Found
import ConsoleStrip.Proofs.Files.Listing
import ConsoleStrip.Proofs.Files.Path
import ConsoleStrip.Proofs.Files.Place
import ConsoleStrip.Proofs.Json.Passed
import ConsoleStrip.Proofs.Json.Reads
import ConsoleStrip.Proofs.Json.Steps
import ConsoleStrip.Proofs.Json.Written
import ConsoleStrip.Proofs.Print.Heed
import ConsoleStrip.Proofs.Print.Place
import ConsoleStrip.Proofs.Strip.Account
import ConsoleStrip.Proofs.Strip.Again
import ConsoleStrip.Proofs.Strip.Cover
import ConsoleStrip.Proofs.Strip.Decision
import ConsoleStrip.Proofs.Strip.Directive
import ConsoleStrip.Proofs.Strip.Edit
import ConsoleStrip.Proofs.Strip.Left
import ConsoleStrip.Proofs.Strip.Marked
import ConsoleStrip.Proofs.Strip.Prologue
import ConsoleStrip.Proofs.Strip.Spared
import ConsoleStrip.Proofs.Strip.Widen
import ConsoleStrip.Proofs.Transform.Gate
import ConsoleStrip.Proofs.Transform.Rounds
import ConsoleStrip.Proofs.Tree.Site
import ConsoleStrip.Regex.Basic
import ConsoleStrip.Regex.CharSet
import ConsoleStrip.Regex.Expr
import ConsoleStrip.Regex.Fault
import ConsoleStrip.Regex.Parser
import ConsoleStrip.Regex.Size
import ConsoleStrip.Regex.Syntax
import ConsoleStrip.SourceMap
import ConsoleStrip.Strip.Marker
import ConsoleStrip.Strip.Matcher
import ConsoleStrip.Strip.Rewrite
import ConsoleStrip.Text.Blank
import ConsoleStrip.Text.Category
import ConsoleStrip.Text.Fold
import ConsoleStrip.Text.Identifier
import ConsoleStrip.Text.Property
import ConsoleStrip.Text.Quoted
import ConsoleStrip.Text.Ranges
import ConsoleStrip.Text.Runs
import ConsoleStrip.Text.Script
import ConsoleStrip.Text.Source
import ConsoleStrip.Text.Width
import ConsoleStrip.Token.Advance
import ConsoleStrip.Token.Basic
import ConsoleStrip.Token.Punct
import ConsoleStrip.Token.Scan
import ConsoleStrip.Token.Trivia
import ConsoleStrip.Transform
import ConsoleStrip.Tree.Kind
import ConsoleStrip.Tree.Node
import ConsoleStrip.Tree.Shape
