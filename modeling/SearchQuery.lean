import SearchQuery.Position
import SearchQuery.Text.Alphanumeric
import SearchQuery.Text.Printable
import SearchQuery.Text.LetterCase
import SearchQuery.Text.Word
import SearchQuery.Text.Escape
import SearchQuery.Text.Shown
import SearchQuery.Operator
import SearchQuery.Token.Lexer
import SearchQuery.Token.Stream
import SearchQuery.Number.Integer
import SearchQuery.Number.FloatText
import SearchQuery.Number.Decimal
import SearchQuery.Identifier.Ulid
import SearchQuery.Identifier.Uuid
import SearchQuery.Calendar.Reader
import SearchQuery.Calendar.Partial
import SearchQuery.Calendar.Relative
import SearchQuery.Item.Basic
import SearchQuery.Query
import SearchQuery.Json.Reader
import SearchQuery.Json.Printer
import SearchQuery.QueryList.Json
import SearchQuery.Schema.Bounds
import SearchQuery.Schema.Reader
import SearchQuery.Document.Matcher
import SearchQuery.Command.Convert
import SearchQuery.Command.Check
import SearchQuery.Command.Run
import SearchQuery.Main
import SearchQuery.Proofs.Token.Tiling
import SearchQuery.Proofs.Query.RoundTrip
import SearchQuery.Proofs.Query.Composition
import SearchQuery.Proofs.Query.Limit
import SearchQuery.Proofs.Document.SpanSearch
import SearchQuery.Proofs.Document.ResolvedBounds
import SearchQuery.Proofs.QueryList.RoundTrip
import SearchQuery.Proofs.Schema.DeclaredType
import SearchQuery.Proofs.Token.Cut
import SearchQuery.Proofs.Query.Remainder
import SearchQuery.Proofs.Json.Text
import SearchQuery.Proofs.QueryList.Json
import SearchQuery.Proofs.QueryList.Text
import SearchQuery.Proofs.Command.Convert
import SearchQuery.Proofs.Query.Values
import SearchQuery.Proofs.QueryList.Printing
import SearchQuery.Proofs.Query.FieldNames
import SearchQuery.Proofs.Schema.CastText
import SearchQuery.Proofs.Document.IntegerSearch
import SearchQuery.Proofs.Document.FuzzySearch
import SearchQuery.Proofs.Document.Parenthesized
import SearchQuery.Proofs.Schema.Spans
import SearchQuery.Proofs.Calendar.Membership
import SearchQuery.Proofs.Document.LocalOrder
import SearchQuery.Proofs.Item.Combining
import SearchQuery.Proofs.Item.Faults
import SearchQuery.Proofs.Query.Faults
import SearchQuery.Proofs.Token.Faults
import SearchQuery.Proofs.Token.QuotedText
import SearchQuery.Proofs.Token.Stream
import SearchQuery.Proofs.Identifier.Canonical
import SearchQuery.Proofs.Query.BareWord
import SearchQuery.Proofs.Calendar.Relative
import SearchQuery.Proofs.Calendar.FixedShifts
import SearchQuery.Proofs.QueryList.Settling
import SearchQuery.Proofs.QueryList.Refusal
import SearchQuery.Proofs.Document.Ranges
import SearchQuery.Proofs.Document.Patterns
import SearchQuery.Proofs.Schema.WellTyped
import SearchQuery.Proofs.Text.EditDistance
