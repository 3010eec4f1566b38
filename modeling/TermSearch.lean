import TermSearch.Catalog.Basic
import TermSearch.Catalog.Column
import TermSearch.Catalog.Relation
import TermSearch.Catalog.Table
import TermSearch.Decimal.Binary64
import TermSearch.Decimal.Layout
import TermSearch.Decimal.Shortest
import TermSearch.Failure
import TermSearch.Journal
import TermSearch.NameMap
import TermSearch.Proofs.Catalog.Changes
import TermSearch.Proofs.Catalog.Declarations
import TermSearch.Proofs.Grammar.Clause
import TermSearch.Proofs.Grammar.Conditions
import TermSearch.Proofs.Grammar.Filters
import TermSearch.Proofs.Grammar.Lexer
import TermSearch.Proofs.Grammar.Lexing
import TermSearch.Proofs.Grammar.Names
import TermSearch.Proofs.Grammar.Parser
import TermSearch.Proofs.Grammar.Placeholders
import TermSearch.Proofs.Grammar.Renumbering
import TermSearch.Proofs.Grammar.Skeleton
import TermSearch.Proofs.Grammar.Statements
import TermSearch.Proofs.Ignored
import TermSearch.Proofs.Meaning.Database
import TermSearch.Proofs.Meaning.Evaluation
import TermSearch.Proofs.Meaning.Truth
import TermSearch.Proofs.Search.Agreement
import TermSearch.Proofs.Search.ColumnSet
import TermSearch.Proofs.Search.Correlation
import TermSearch.Proofs.Search.Declared
import TermSearch.Proofs.Search.Entries
import TermSearch.Proofs.Search.Everything
import TermSearch.Proofs.Search.Failing
import TermSearch.Proofs.Search.Filter
import TermSearch.Proofs.Search.Leniency
import TermSearch.Proofs.Search.LetterCase
import TermSearch.Proofs.Search.Match
import TermSearch.Proofs.Search.Noninterference
import TermSearch.Proofs.Search.Outcome
import TermSearch.Proofs.Search.Patterns
import TermSearch.Proofs.Search.Range
import TermSearch.Proofs.Search.Ranking
import TermSearch.Proofs.Search.Recorded
import TermSearch.Proofs.Search.References
import TermSearch.Proofs.Search.Resolution
import TermSearch.Proofs.Search.Selection
import TermSearch.Proofs.Search.Spacing
import TermSearch.Proofs.Search.Tolerance
import TermSearch.Proofs.Search.Widening
import TermSearch.Proofs.Session.Accounting
import TermSearch.Proofs.Session.Defaults
import TermSearch.Proofs.Session.Entrances
import TermSearch.Proofs.Session.Operations
import TermSearch.Proofs.Settings.Formats
import TermSearch.Proofs.Settings.Interchange
import TermSearch.Proofs.Settings.Structures
import TermSearch.Proofs.Settings.Values
import TermSearch.Proofs.Statement.Alike
import TermSearch.Proofs.Statement.Chaining
import TermSearch.Proofs.Statement.Joining
import TermSearch.Proofs.Statement.Programs
import TermSearch.Proofs.Term
import TermSearch.Proofs.Text.ByteOrder
import TermSearch.Proofs.Text.Fitting
import TermSearch.Proofs.Text.LetterCase
import TermSearch.Proofs.Text.Matching
import TermSearch.Proofs.Text.Occurrence
import TermSearch.Proofs.Text.Placement
import TermSearch.Proofs.Text.Quotation
import TermSearch.Proofs.Text.Stripped
import TermSearch.Proofs.Text.Words
import TermSearch.Proofs.Tokens
import TermSearch.Proofs.Traversal
import TermSearch.Search.Engine
import TermSearch.Search.Entry
import TermSearch.Search.Searcher
import TermSearch.Search.Session
import TermSearch.Search.Target
import TermSearch.Settings.Config
import TermSearch.Settings.Options
import TermSearch.Settings.Reader
import TermSearch.Settings.Refusal
import TermSearch.Settings.Rules
import TermSearch.Settings.Value
import TermSearch.Statement.Condition
import TermSearch.Statement.Dialect
import TermSearch.Statement.Piece
import TermSearch.Statement.Rendering
import TermSearch.Statement.RenderingValues
import TermSearch.Statement.Score
import TermSearch.Statement.Select
import TermSearch.Statement.Value
import TermSearch.Store
import TermSearch.Term
import TermSearch.Text.Alphanumeric
import TermSearch.Text.Blank
import TermSearch.Text.Case
import TermSearch.Text.CaseTable
import TermSearch.Text.HiddenTable
import TermSearch.Text.Numeral
import TermSearch.Text.Pattern
import TermSearch.Text.Quoted
import TermSearch.Text.Ranges
import TermSearch.Text.Shown
