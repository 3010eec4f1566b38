import TermSearch.Statement.Dialect
import TermSearch.Statement.Score

/-! Queries for the rows of one table. -/

namespace TermSearch

inductive Projection where
  | all
  | text (column : Column)
deriving DecidableEq

structure Select where
  table : String
  dialect : Dialect
  projection : Projection
  filters : List Condition
  order : List OrderClause
  limit : Option UInt64

namespace Select

def ofTable (table : String) (dialect : Dialect) : Select :=
  ⟨table, dialect, .all, [], [], none⟩

def column (q : Select) (name : String) : Column :=
  ⟨q.table, name⟩

def filter (q : Select) (c : Condition) : Select :=
  { q with filters := q.filters ++ [c] }

def whereEqual (q : Select) (column : String) (value : Value) : Select :=
  q.filter (.equal (q.column column) value)

def orderBy (q : Select) (clause : OrderClause) : Select :=
  { q with order := q.order ++ [clause] }

def orderByColumn (q : Select) (column : String) (direction : Direction) : Select :=
  q.orderBy ⟨.column (q.column column), direction⟩

def limitTo (q : Select) (n : UInt64) : Select :=
  { q with limit := some n }

def selectText (q : Select) (column : String) : Select :=
  { q with projection := .text (q.column column) }

def same (q r : Select) : Bool :=
  q.table == r.table && q.dialect == r.dialect && q.projection == r.projection &&
    Condition.sameAll q.filters r.filters && q.order == r.order && q.limit == r.limit

def values (q : Select) : List Value :=
  Condition.valuesOfAll q.filters ++ q.order.flatMap OrderClause.values

end Select

end TermSearch
