import FieldSearch.Calendar
import FieldSearch.Clause
import FieldSearch.Compiler
import FieldSearch.Config
import FieldSearch.Config.Form
import FieldSearch.Config.Json
import FieldSearch.Config.Yaml
import FieldSearch.Criterion
import FieldSearch.Decimal.Basic
import FieldSearch.Decimal.Binary
import FieldSearch.Decimal.Reading
import FieldSearch.Declaration.Arguments
import FieldSearch.Declaration.ConstantName
import FieldSearch.Declaration.Derivation
import FieldSearch.Declaration.Expression
import FieldSearch.Declaration.Lexer
import FieldSearch.Declaration.Options
import FieldSearch.Declaration.Reading
import FieldSearch.Declaration.Token
import FieldSearch.Declaration.TypeReading
import FieldSearch.Declaration.TypeText
import FieldSearch.Double
import FieldSearch.Encoding
import FieldSearch.Error
import FieldSearch.Json.Basic
import FieldSearch.Json.Reading
import FieldSearch.Json.Real
import FieldSearch.Json.Writing
import FieldSearch.Key
import FieldSearch.Numeral
import FieldSearch.Operator
import FieldSearch.Path
import FieldSearch.Pattern
import FieldSearch.Pattern.AgeTable
import FieldSearch.Pattern.Bracket
import FieldSearch.Pattern.BreakTable
import FieldSearch.Pattern.CategoryTable
import FieldSearch.Pattern.CharClass
import FieldSearch.Pattern.Escape
import FieldSearch.Pattern.Flags
import FieldSearch.Pattern.FoldTable
import FieldSearch.Pattern.Folding
import FieldSearch.Pattern.Interval
import FieldSearch.Pattern.MatcherSize
import FieldSearch.Pattern.Matching
import FieldSearch.Pattern.Octets
import FieldSearch.Pattern.Property
import FieldSearch.Pattern.PropertyTable
import FieldSearch.Pattern.Reading
import FieldSearch.Pattern.ScriptTable
import FieldSearch.Pattern.Tree
import FieldSearch.Record.Developer
import FieldSearch.Record.Searchable
import FieldSearch.Schema
import FieldSearch.Session
import FieldSearch.Sql.Condition
import FieldSearch.Sql.Like
import FieldSearch.Sql.Lowering
import FieldSearch.Strategy.Basic
import FieldSearch.Strategy.Collection
import FieldSearch.Strategy.Scalar
import FieldSearch.Strategy.Table
import FieldSearch.Text.Blank
import FieldSearch.Text.Case
import FieldSearch.Text.CaseTable
import FieldSearch.Text.Identifier
import FieldSearch.Text.IdentifierTable
import FieldSearch.Text.Letter
import FieldSearch.Text.LetterTable
import FieldSearch.Text.Run
import FieldSearch.Timestamp.Basic
import FieldSearch.Timestamp.Reading
import FieldSearch.Value
import FieldSearch.Yaml.Node
import FieldSearch.Yaml.Scalar
import FieldSearch.Yaml.Tag
import FieldSearch.Yaml.Token
import FieldSearch.Yaml.Tokens
import FieldSearch.Proofs.Path.Names
import FieldSearch.Proofs.Key.Segments
import FieldSearch.Proofs.Key.Splittings
import FieldSearch.Proofs.Outcomes
import FieldSearch.Proofs.Path.Route
import FieldSearch.Proofs.Compiler.Stages
import FieldSearch.Proofs.Compiler.Resolution
import FieldSearch.Proofs.Clause.WellTyped
import FieldSearch.Proofs.Decimal.Value
import FieldSearch.Proofs.Sql.Like
import FieldSearch.Proofs.Sql.TextSearch
import FieldSearch.Proofs.Sql.Semantics
import FieldSearch.Proofs.Sql.Reading
import FieldSearch.Proofs.Sql.Agreement
import FieldSearch.Proofs.Sql.Lexer
import FieldSearch.Proofs.Sql.Quoting
import FieldSearch.Proofs.Sql.Noninterference
import FieldSearch.Proofs.Compiler.Nesting
import FieldSearch.Proofs.Declaration.Schema
import FieldSearch.Proofs.Declaration.Accessor
import FieldSearch.Proofs.Strategy.Refusals
import FieldSearch.Proofs.Compiler.Failures
import FieldSearch.Proofs.Strategy.Standard
import FieldSearch.Proofs.Clause.Comparison
import FieldSearch.Proofs.Compiler.Admission
import FieldSearch.Proofs.Compiler.Negation
import FieldSearch.Proofs.Compiler.Spellings
import FieldSearch.Proofs.Lookup
import FieldSearch.Proofs.Compiler.Absence
import FieldSearch.Proofs.Declaration.Shape
import FieldSearch.Proofs.Declaration.Constants
import FieldSearch.Proofs.Declaration.Expansion
import FieldSearch.Proofs.Declaration.ConstantNames
import FieldSearch.Proofs.Text.Identifier
import FieldSearch.Proofs.Declaration.ConstantIdentifiers
import FieldSearch.Proofs.Declaration.Exclusion
import FieldSearch.Proofs.Declaration.StringValue
import FieldSearch.Proofs.Declaration.ItemReading
import FieldSearch.Proofs.Declaration.WrittenOptions
import FieldSearch.Proofs.Declaration.OptionSlots
import FieldSearch.Proofs.Schema.Reordering
import FieldSearch.Proofs.Compiler.Reordering
import FieldSearch.Proofs.Schema.Extension
import FieldSearch.Proofs.Compiler.Extension
import FieldSearch.Proofs.Clause.Leaves
import FieldSearch.Proofs.Clause.Mismatch
import FieldSearch.Proofs.Text.Sigma
import FieldSearch.Proofs.Clause.LetterCase
import FieldSearch.Proofs.Config.Overrides
import FieldSearch.Proofs.Clause.ExactNumbers
import FieldSearch.Proofs.Calendar.Dates
import FieldSearch.Proofs.Numeral.Digits
import FieldSearch.Proofs.Timestamp.Notation
import FieldSearch.Proofs.Timestamp.RoundTrip
import FieldSearch.Proofs.Timestamp.Spellings
import FieldSearch.Proofs.Value.Equality
import FieldSearch.Proofs.Clause.Equality
import FieldSearch.Proofs.Clause.SetTests
import FieldSearch.Proofs.Compiler.LetterCase
import FieldSearch.Proofs.Compiler.Registration
import FieldSearch.Proofs.Strategy.Wrapping
import FieldSearch.Proofs.Decimal.Spellings
import FieldSearch.Proofs.Numeral.Integers
import FieldSearch.Proofs.Json.RoundTrip
import FieldSearch.Proofs.Value.Encoding
