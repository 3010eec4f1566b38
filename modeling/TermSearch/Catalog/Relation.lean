import TermSearch.Catalog.Column

/-! Relationships of one step between two tables. -/

namespace TermSearch

/-- The side that holds the foreign key: the table itself, or the related one. -/
inductive RelationKind where
  | belongsTo
  | hasMany
deriving DecidableEq

structure Relation where
  name : String
  kind : RelationKind
  relatedTable : String
  relatedKey : Column
  parentKey : Column
deriving DecidableEq

/-- The name of the related table inside a subquery, so that a relation may lead back to the
queried table. -/
def Relation.innerName (r : Relation) : String :=
  r.name ++ "_rel"

end TermSearch
