import ItemQuery.Bson.ExtendedJson
import ItemQuery.Command.Run
import ItemQuery.Compiler.Json
import ItemQuery.Configuration.Toml
import ItemQuery.Criteria.Json
import ItemQuery.Currency.Json
import ItemQuery.Logging
import ItemQuery.Main
import ItemQuery.Predicate.Json
import ItemQuery.Query.Builder
import ItemQuery.Store.Search
import ItemQuery.Store.Toml
import ItemQuery.WebForm.Json
import ItemQuery.Proofs.Logging
import ItemQuery.Proofs.Compiler.Layout
import ItemQuery.Proofs.Compiler.Strictness
import ItemQuery.Proofs.Query.Meaning
import ItemQuery.Proofs.Path.Names
import ItemQuery.Proofs.Query.Shape
import ItemQuery.Proofs.Query.Narrowing
import ItemQuery.Proofs.Compiler.Refusal
import ItemQuery.Proofs.WebForm.Conversion
import ItemQuery.Proofs.Criteria.Reading
import ItemQuery.Proofs.Compiler.Loosening
import ItemQuery.Proofs.Json.Literals
import ItemQuery.Proofs.Query.Faithful
import ItemQuery.Proofs.Decimal.Shortest
import ItemQuery.Proofs.Json.Written
import ItemQuery.Proofs.Decimal.Rounding
import ItemQuery.Proofs.Json.Doubles
import ItemQuery.Proofs.Json.Members
import ItemQuery.Proofs.Criteria.RoundTrip
import ItemQuery.Proofs.WebForm.Reading
import ItemQuery.Proofs.Decimal.Distinct
import ItemQuery.Proofs.Decimal.Spelled
import ItemQuery.Proofs.Predicate.Written
import ItemQuery.Proofs.Text.Quoted
import ItemQuery.Proofs.Predicate.Legible
import ItemQuery.Proofs.Predicate.Lines
import ItemQuery.Proofs.Currency.Runs
import ItemQuery.Proofs.Configuration.Agreement
import ItemQuery.Proofs.Configuration.Accepted
import ItemQuery.Proofs.Store.Search
import ItemQuery.Proofs.Query.Pattern
import ItemQuery.Proofs.Command.Arrival
import ItemQuery.Proofs.Text.Trimmed
import ItemQuery.Proofs.Category.Plural
import ItemQuery.Proofs.Path.Acceptance
import ItemQuery.Proofs.Query.LinkCount
import ItemQuery.Proofs.Query.Builder
import ItemQuery.Proofs.Predicate.Kinds
import ItemQuery.Proofs.Store.Settings
import ItemQuery.Proofs.Store.Ids
