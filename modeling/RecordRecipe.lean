import RecordRecipe.Action
import RecordRecipe.Assoc
import RecordRecipe.Calendar.Date
import RecordRecipe.Calendar.Moment
import RecordRecipe.Calendar.Reading
import RecordRecipe.Command.Arguments
import RecordRecipe.Command.Outcome
import RecordRecipe.Decimal.Layout
import RecordRecipe.Decimal.Nearest
import RecordRecipe.Decimal.Shortest
import RecordRecipe.Error
import RecordRecipe.Expr.Arguments
import RecordRecipe.Expr.Attribute
import RecordRecipe.Expr.Block
import RecordRecipe.Expr.Call
import RecordRecipe.Expr.Eval
import RecordRecipe.Expr.Fault
import RecordRecipe.Expr.Filter
import RecordRecipe.Expr.Filter.Sequence
import RecordRecipe.Expr.Filter.Text
import RecordRecipe.Expr.Grammar
import RecordRecipe.Expr.Names
import RecordRecipe.Expr.Number
import RecordRecipe.Expr.Operator
import RecordRecipe.Expr.Order
import RecordRecipe.Expr.Program
import RecordRecipe.Expr.Slice
import RecordRecipe.Expr.Store
import RecordRecipe.Expr.Test
import RecordRecipe.Expr.Token
import RecordRecipe.Expr.Tree
import RecordRecipe.Expr.Value
import RecordRecipe.Files
import RecordRecipe.Files.Path
import RecordRecipe.Files.Refusal
import RecordRecipe.Function.Eager
import RecordRecipe.Function.Fault
import RecordRecipe.Function.Inline
import RecordRecipe.Function.Reading
import RecordRecipe.Main
import RecordRecipe.Mapping.Order
import RecordRecipe.Mapping.Steps
import RecordRecipe.Numeral
import RecordRecipe.Options
import RecordRecipe.Random.Draw
import RecordRecipe.Random.Fake
import RecordRecipe.Random.Stream
import RecordRecipe.Recipe.Body
import RecordRecipe.Recipe.Declaration
import RecordRecipe.Recipe.Fault
import RecordRecipe.Recipe.Group
import RecordRecipe.Recipe.Inclusion
import RecordRecipe.Recipe.Source
import RecordRecipe.Recipe.Tables
import RecordRecipe.Recipe.Template
import RecordRecipe.Run.Call
import RecordRecipe.Run.Generate
import RecordRecipe.Run.Registry
import RecordRecipe.Run.Row
import RecordRecipe.Run.Scope
import RecordRecipe.Sink.Basic
import RecordRecipe.Sink.Csv
import RecordRecipe.Sink.Dot
import RecordRecipe.Sink.Journal
import RecordRecipe.Sink.Json
import RecordRecipe.Sink.Lines
import RecordRecipe.Sink.Memory
import RecordRecipe.Sink.Multiplex
import RecordRecipe.Text.Blank
import RecordRecipe.Text.Case
import RecordRecipe.Text.Cased
import RecordRecipe.Text.Json
import RecordRecipe.Text.Printable
import RecordRecipe.Text.Range
import RecordRecipe.Text.Word
import RecordRecipe.Value
import RecordRecipe.Value.Coerce
import RecordRecipe.Value.Encoding
import RecordRecipe.Yaml.Cursor
import RecordRecipe.Yaml.Emit
import RecordRecipe.Yaml.Event
import RecordRecipe.Yaml.Node
import RecordRecipe.Yaml.Pen
import RecordRecipe.Yaml.Quoting
import RecordRecipe.Yaml.Token
import RecordRecipe.Yaml.Token.Block
import RecordRecipe.Yaml.Token.Layout
import RecordRecipe.Yaml.Token.Plain
import RecordRecipe.Yaml.Token.Quoted
import RecordRecipe.Yaml.Token.Tag
import RecordRecipe.Proofs.Containment.Value
import RecordRecipe.Proofs.Containment.Filter
import RecordRecipe.Proofs.Containment.Call
import RecordRecipe.Proofs.Containment.Eval
import RecordRecipe.Proofs.Containment.Program
import RecordRecipe.Proofs.Containment.Scope
import RecordRecipe.Proofs.Run.Call
import RecordRecipe.Proofs.Run.Row
import RecordRecipe.Proofs.Run.Log
import RecordRecipe.Proofs.Run.Step
import RecordRecipe.Proofs.Run.Ledger
import RecordRecipe.Proofs.Recipe.Plain
import RecordRecipe.Proofs.Run.Reference
import RecordRecipe.Proofs.Recipe.Tables
import RecordRecipe.Proofs.Run.Fields
import RecordRecipe.Proofs.Run.Summary
import RecordRecipe.Proofs.Run.Written
import RecordRecipe.Proofs.Recipe.Node
import RecordRecipe.Proofs.Recipe.Reading
import RecordRecipe.Proofs.Recipe.Source
import RecordRecipe.Proofs.Mapping.Order
import RecordRecipe.Proofs.Mapping.Steps
import RecordRecipe.Proofs.Run.Consistency
import RecordRecipe.Proofs.Run.Protocol
import RecordRecipe.Proofs.Error
import RecordRecipe.Proofs.Run.Trail
import RecordRecipe.Proofs.Run.Failure
import RecordRecipe.Proofs.Recipe.Faults
import RecordRecipe.Proofs.Yaml.Construct
import RecordRecipe.Proofs.Yaml.Grammar
import RecordRecipe.Proofs.Yaml.Building
import RecordRecipe.Proofs.Yaml.Faithful
import RecordRecipe.Proofs.Recipe.Lines
import RecordRecipe.Proofs.Recipe.Documents
import RecordRecipe.Proofs.Recipe.Inclusion
import RecordRecipe.Proofs.Recipe.Asking
import RecordRecipe.Proofs.Recipe.Expansion
import RecordRecipe.Proofs.Recipe.Resolution
import RecordRecipe.Proofs.Run.Arising
import RecordRecipe.Proofs.Run.Hosts
import RecordRecipe.Proofs.Expr.Path
import RecordRecipe.Proofs.Expr.Lookup
import RecordRecipe.Proofs.Run.Naming
import RecordRecipe.Proofs.Text.Json
import RecordRecipe.Proofs.Decimal.Layout
import RecordRecipe.Proofs.Sink.Json
import RecordRecipe.Proofs.Recipe.Parts
import RecordRecipe.Proofs.Run.Account
import RecordRecipe.Proofs.Run.Storing
import RecordRecipe.Proofs.Run.Encoded
import RecordRecipe.Proofs.Text.Csv
import RecordRecipe.Proofs.Sink.Csv
import RecordRecipe.Proofs.Expr.Taking
import RecordRecipe.Proofs.Expr.Phrases
import RecordRecipe.Proofs.Expr.Tokens
import RecordRecipe.Proofs.Expr.Parentheses
import RecordRecipe.Proofs.Expr.SingleTag
import RecordRecipe.Proofs.Sink.Multiplex
import RecordRecipe.Proofs.Run.Count
import RecordRecipe.Proofs.Sink.Object
import RecordRecipe.Proofs.Text.Dot
import RecordRecipe.Proofs.Sink.Dot
import RecordRecipe.Proofs.Options
import RecordRecipe.Proofs.Calendar.DayNumber
import RecordRecipe.Proofs.Function.RelativeDate
import RecordRecipe.Proofs.Function.DateParts
import RecordRecipe.Proofs.Run.Choosing
import RecordRecipe.Proofs.Random.Draw
import RecordRecipe.Proofs.Calendar.Order
import RecordRecipe.Proofs.Function.Random
import RecordRecipe.Proofs.Numeral
import RecordRecipe.Proofs.Value.Coerce
import RecordRecipe.Proofs.Function.Integer
import RecordRecipe.Proofs.Sink.Writing
import RecordRecipe.Proofs.Sink.Quoting
import RecordRecipe.Proofs.Decimal.Exact
import RecordRecipe.Proofs.Decimal.Rounded
import RecordRecipe.Proofs.Expr.Whole
import RecordRecipe.Proofs.Run.Survival
import RecordRecipe.Proofs.Expr.Linking
import RecordRecipe.Proofs.Expr.Plain
import RecordRecipe.Proofs.Run.Hygiene
import RecordRecipe.Proofs.Run.Detail
import RecordRecipe.Proofs.Sink.Cadence
import RecordRecipe.Proofs.Run.Cadence
import RecordRecipe.Proofs.Error.Frame
import RecordRecipe.Proofs.Sink.NodeName
