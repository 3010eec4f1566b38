import TermSearch.Catalog.Basic
import TermSearch.Search.Engine
import TermSearch.Search.Entry

/-! The columns of a search after their names are resolved, and what is asked of them. -/

namespace TermSearch

def Relation.link (r : Relation) : Link where
  table := r.relatedTable
  innerName := r.innerName
  innerKey := r.relatedKey.through r.innerName
  outerKey := r.parentKey

inductive Target where
  | own (column : Column)
  | related (relation : Relation) (column : Column)
deriving DecidableEq

namespace Target

def resolve (names : Resolver) (table : String) : Entry → Except Failure Target
  | .own column => do return .own (← names.column table column)
  | .related relation column => do
    let r ← names.relation table relation
    return .related r (← names.column r.relatedTable column)

def ownColumn? : Target → Option Column
  | .own c => some c
  | .related .. => none

def condition (e : Engine) (t : Term) (r : Rules) : Target → Condition
  | .own c => e.condition c t r
  | .related relation c => .linked relation.link (e.condition (c.through relation.innerName) t r)

end Target

/-- Every entry is read before the first one is resolved. -/
def resolveAll (names : Resolver) (table : String) (columns : List String) :
    Except Failure (List Target) := do
  (← Entry.ofTexts columns).mapM (Target.resolve names table)

/-- The best matches first, where they are asked for and a column of the table itself is searched;
related columns select rows but do not rank them. -/
def bestMatchOrder? (e : Engine) (targets : List Target) (t : Term) (r : Rules) :
    Option OrderClause :=
  let scores := (targets.filterMap Target.ownColumn?).map fun c => e.score c t r
  if r.orderByBestMatch && !scores.isEmpty then some ⟨.greatest scores, .descending⟩ else none

end TermSearch
