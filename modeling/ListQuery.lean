import ListQuery.Accessor
import ListQuery.Declaration.Derived
import ListQuery.Declaration.Expansion
import ListQuery.Proofs.Number.Unsigned
import ListQuery.Proofs.Number.Word
import ListQuery.Proofs.Text.Coded
import ListQuery.Proofs.Parameter
import ListQuery.Proofs.TokenList
import ListQuery.Query.Describe
import ListQuery.Query.Reading
import ListQuery.Query.Step
import ListQuery.Query.Wire
import ListQuery.Text.PercentLaws
import ListQuery.Proofs.Query.Segment
import ListQuery.Proofs.Query.Reading
import ListQuery.Proofs.Query.RoundTrip
import ListQuery.Proofs.Query.NormalForm
import ListQuery.Proofs.Query.RecordPath
import ListQuery.Proofs.Clause
import ListQuery.Proofs.Query.Replacement
import ListQuery.Proofs.Decomposition
import ListQuery.Proofs.Value
import ListQuery.Proofs.Query.Fidelity
import ListQuery.Proofs.Query.Restatement
import ListQuery.Proofs.Query.Account
import ListQuery.Proofs.Query.Independence
import ListQuery.Proofs.Query.Interleaving
import ListQuery.Proofs.Query.Presence
import ListQuery.Proofs.Accessor
import ListQuery.Proofs.AccessorGrammar
import ListQuery.Proofs.Query.ByName
import ListQuery.Proofs.Declaration.Derived
import ListQuery.Proofs.Declaration.Resolution
import ListQuery.Proofs.Query.Ledger
import ListQuery.Proofs.Leftmost
import ListQuery.Proofs.Composition
import ListQuery.Proofs.Search
import ListQuery.Proofs.Query.LastWins
import ListQuery.Proofs.Query.NamedReplacement
import ListQuery.Proofs.Text.Order
import ListQuery.Proofs.Number.Padded
import ListQuery.Proofs.Time.Calendar
import ListQuery.Proofs.Time.Instant
import ListQuery.Proofs.Time.Zone
import ListQuery.Proofs.Query.PageNumber
import ListQuery.Proofs.Options
import ListQuery.Proofs.Declaration.Attribute
import ListQuery.Proofs.Declaration.Expansion
import ListQuery.Proofs.Declaration.Alignment
import ListQuery.Proofs.Declaration.Report
import ListQuery.Proofs.Text.Casing
import ListQuery.Proofs.Query.KeySpelling
import ListQuery.Proofs.QueryString
import ListQuery.Proofs.Text.Words
import ListQuery.Proofs.Declaration.Spelling
