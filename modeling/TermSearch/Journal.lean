import TermSearch.Decimal.Binary64
import TermSearch.Failure
import TermSearch.Statement.Dialect

/-! What operations leave behind for their operators: measurements, and log entries. -/

namespace TermSearch

inductive MetricKind where
  | counter
  | histogram
deriving DecidableEq

def MetricKind.word : MetricKind → String
  | .counter => "counter"
  | .histogram => "histogram"

inductive Metric where
  | searchApplied
  | searchPassedThrough (reason : String)
  | localColumns (count : Nat)
  | relatedColumns (count : Nat)
  | searchTokens (count : Nat)
  | queryRun (dialect status : String)
  | querySeconds (dialect : String) (seconds : Nat)
  | queryRows (count : Nat)
deriving DecidableEq

namespace Metric

def kind : Metric → MetricKind
  | .searchApplied | .searchPassedThrough _ | .queryRun .. => .counter
  | _ => .histogram

def name : Metric → String
  | .searchApplied | .searchPassedThrough _ => "pg_search_applied_total"
  | .localColumns _ | .relatedColumns _ => "pg_search_columns"
  | .searchTokens _ => "pg_search_tokens"
  | .queryRun .. => "pg_search_query_total"
  | .querySeconds .. => "pg_search_query_seconds"
  | .queryRows _ => "pg_search_query_rows"

def labels : Metric → List (String × String)
  | .searchApplied => [("outcome", "applied")]
  | .searchPassedThrough reason => [("outcome", "passthrough"), ("reason", reason)]
  | .localColumns _ => [("kind", "local")]
  | .relatedColumns _ => [("kind", "related")]
  | .searchTokens _ | .queryRows _ => []
  | .queryRun dialect status => [("dialect", dialect), ("status", status)]
  | .querySeconds dialect _ => [("dialect", dialect)]

def amount : Metric → Nat
  | .searchApplied | .searchPassedThrough _ | .queryRun .. => 1
  | .localColumns n | .relatedColumns n | .searchTokens n | .querySeconds _ n | .queryRows n =>
    Decimal.nearestWhole n

end Metric

inductive Level where
  | debug
  | info
  | warn
deriving DecidableEq

def Level.word : Level → String
  | .debug => "DEBUG"
  | .info => "INFO"
  | .warn => "WARN"

inductive LogField where
  | text (s : String)
  | count (n : Nat)
  | flag (b : Bool)
deriving DecidableEq

inductive Event where
  | attached (table : String) (columns related tokens : Nat) (ordered : Bool)
  | skipped (table reason : String)
  | skippedForDialect (table : String) (dialect : Dialect)
  | defaultsAlreadyFixed
  | connected (dialect : Dialect)
deriving DecidableEq

namespace Event

def level : Event → Level
  | .attached .. | .skipped .. | .skippedForDialect .. => .debug
  | .connected _ => .info
  | .defaultsAlreadyFixed => .warn

def message : Event → String
  | .attached .. => "Search attached"
  | .skipped .. => "Search skipped"
  | .skippedForDialect .. => "Search skipped, backend not supported"
  | .defaultsAlreadyFixed => "Search defaults already installed, ignoring new config"
  | .connected _ => "Connected to database"

def fields : Event → List (String × LogField)
  | .attached table columns related tokens ordered =>
    [("table", .text table), ("columns", .count columns), ("related", .count related),
      ("tokens", .count tokens), ("ordered", .flag ordered)]
  | .skipped table reason => [("table", .text table), ("reason", .text reason)]
  | .skippedForDialect table dialect => [("table", .text table), ("dialect", .text dialect.name)]
  | .defaultsAlreadyFixed => []
  | .connected dialect => [("dialect", .text dialect.name)]

end Event

structure Journal where
  metrics : List Metric := []
  events : List Event := []
deriving DecidableEq

structure Report (α : Type) where
  outcome : Except Failure α
  journal : Journal

end TermSearch
