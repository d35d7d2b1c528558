import TypedPath.Command.Answer
import TypedPath.Command.Arguments
import TypedPath.Command.Flag
import TypedPath.Command.Help
import TypedPath.Command.Run
import TypedPath.Command.Source
import TypedPath.Decimal.Basic
import TypedPath.Decimal.Floating
import TypedPath.Decimal.Scientific
import TypedPath.Digest.Sha1
import TypedPath.Digest.Uuid
import TypedPath.Error
import TypedPath.Files.Basic
import TypedPath.Files.Walk
import TypedPath.Literal
import TypedPath.Main
import TypedPath.Node.Accessor
import TypedPath.Node.Basic
import TypedPath.Node.Check
import TypedPath.Node.Compile
import TypedPath.Node.Condition
import TypedPath.Node.Listing
import TypedPath.Node.Violation
import TypedPath.Node.Writer
import TypedPath.Proofs.Command.Agreement
import TypedPath.Proofs.Command.Listing
import TypedPath.Proofs.Literal
import TypedPath.Proofs.Node.Accessor
import TypedPath.Proofs.Node.Answer
import TypedPath.Proofs.Node.Built
import TypedPath.Proofs.Node.Comparison
import TypedPath.Proofs.Node.Compile
import TypedPath.Proofs.Node.Completeness
import TypedPath.Proofs.Node.Composed
import TypedPath.Proofs.Node.Grouping
import TypedPath.Proofs.Node.Members
import TypedPath.Proofs.Node.Quotation
import TypedPath.Proofs.Node.Rendering
import TypedPath.Proofs.Node.Report
import TypedPath.Proofs.Node.Sound
import TypedPath.Proofs.Node.Tree
import TypedPath.Proofs.Numeral
import TypedPath.Proofs.Query.Document
import TypedPath.Proofs.Query.Evolution
import TypedPath.Proofs.Query.Form
import TypedPath.Proofs.Query.Grammar
import TypedPath.Proofs.Query.Listing
import TypedPath.Proofs.Query.Navigation
import TypedPath.Proofs.Query.Reading
import TypedPath.Proofs.Query.Refusal
import TypedPath.Proofs.Query.Scope
import TypedPath.Proofs.Query.Sound
import TypedPath.Proofs.Query.Text
import TypedPath.Proofs.Query.Typing
import TypedPath.Proofs.Query.Walk
import TypedPath.Proofs.Report.Shown
import TypedPath.Proofs.Shape.Kinds
import TypedPath.Proofs.Shape.OfSchema
import TypedPath.Proofs.Shape.Part
import TypedPath.Proofs.Shape.Unfolding
import TypedPath.Proofs.Text.Quoted
import TypedPath.Query.Basic
import TypedPath.Query.Compile
import TypedPath.Query.Decode
import TypedPath.Query.Form
import TypedPath.Query.Review
import TypedPath.Report.Columns
import TypedPath.Report.Data
import TypedPath.Report.Formatter
import TypedPath.Schema.Constraint
import TypedPath.Schema.Directory
import TypedPath.Schema.Evaluation
import TypedPath.Schema.Expr
import TypedPath.Schema.Kinds
import TypedPath.Schema.Lookup
import TypedPath.Schema.Package
import TypedPath.Schema.Path
import TypedPath.Schema.Reader
import TypedPath.Schema.Scope
import TypedPath.Schema.Token
import TypedPath.Schema.Value
import TypedPath.Schema.View
import TypedPath.Shape.Basic
import TypedPath.Shape.OfSchema
import TypedPath.Shape.Record
import TypedPath.Text.Escaped
import TypedPath.Text.Letter
import TypedPath.Text.Normal
import TypedPath.Text.Normal.Data
import TypedPath.Text.Pattern
import TypedPath.Text.Printable
import TypedPath.Text.Quoted
import TypedPath.Yaml.Cursor
import TypedPath.Yaml.Node
import TypedPath.Yaml.Scalar
import TypedPath.Yaml.ScalarText
import TypedPath.Yaml.Token
