import TermSearch.Journal
import TermSearch.Search.Target
import TermSearch.Statement.Select

/-! Attaching a search to a query: one more filter, and an order by relevance. -/

namespace TermSearch

inductive Passthrough where
  | blankTerm
  | noColumns
  | unsupported (dialect : Dialect)
deriving DecidableEq

namespace Passthrough

/-- The term is given without the blanks at its ends. -/
def of? (q : Select) (term : String) (columns : List String) : Option Passthrough :=
  if term.isEmpty then some .blankTerm
  else if columns.isEmpty then some .noColumns
  else if q.dialect ≠ .postgres then some (.unsupported q.dialect)
  else none

def reason : Passthrough → String
  | .blankTerm => "blank_term"
  | .noColumns => "no_columns"
  | .unsupported _ => "unsupported_backend"

def event (table : String) : Passthrough → Event
  | .unsupported dialect => .skippedForDialect table dialect
  | p => .skipped table p.reason

def journal (table : String) (p : Passthrough) : Journal where
  metrics := [.searchPassedThrough p.reason]
  events := [p.event table]

end Passthrough

structure Searcher where
  config : Config := {}
  engine : Engine := .ilike

namespace Searcher

def ofConfig (config : Config) : Searcher :=
  ⟨config, config.engine.engine⟩

def withEngine (s : Searcher) (engine : Engine) : Searcher :=
  { s with engine }

def attached (s : Searcher) (q : Select) (targets : List Target) (t : Term) (r : Rules) : Select :=
  let filtered := q.filter (.anyOf (targets.map (Target.condition s.engine t r)))
  match bestMatchOrder? s.engine targets t r with
  | some clause => filtered.orderBy clause
  | none => filtered

def attachedJournal (s : Searcher) (q : Select) (targets : List Target) (t : Term) (r : Rules) :
    Journal :=
  let own := (targets.filterMap Target.ownColumn?).length
  let related := targets.length - own
  let tokens := (t.matchTokens r).length
  let ordered := (bestMatchOrder? s.engine targets t r).isSome
  { metrics := [.localColumns own, .relatedColumns related, .searchTokens tokens, .searchApplied]
    events := [.attached q.table targets.length related tokens ordered] }

/-- A query that cannot be searched is returned as it is, whatever its columns are; a search that
fails leaves nothing in the journal. -/
def search (s : Searcher) (names : Resolver) (q : Select) (term : Option String)
    (columns : List String) (options : Options) : Report Select :=
  let text := Text.trim (term.getD "")
  match Passthrough.of? q text columns with
  | some p => ⟨.ok q, p.journal q.table⟩
  | none =>
    let r := s.config.rules options
    let t := Term.ofText text r
    match resolveAll names q.table columns with
    | .error failure => ⟨.error failure, {}⟩
    | .ok targets => ⟨.ok (s.attached q targets t r), s.attachedJournal q targets t r⟩

end Searcher

end TermSearch
