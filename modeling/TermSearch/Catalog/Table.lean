import TermSearch.Catalog.Relation
import TermSearch.NameMap

/-! Tables as their owner declares them: columns, and relationships to other tables. -/

namespace TermSearch

/-- The `foreignKey` is a column of the side that the kind names, and `ownKey` the column of the
other side that it repeats. -/
structure RelationDef where
  kind : RelationKind
  relatedTable : String
  foreignKey : String
  ownKey : String
deriving DecidableEq

def RelationDef.relation (d : RelationDef) (table name : String) : Relation :=
  match d.kind with
  | .belongsTo =>
    ⟨name, .belongsTo, d.relatedTable, ⟨d.relatedTable, d.ownKey⟩, ⟨table, d.foreignKey⟩⟩
  | .hasMany =>
    ⟨name, .hasMany, d.relatedTable, ⟨d.relatedTable, d.foreignKey⟩, ⟨table, d.ownKey⟩⟩

@[simp] theorem RelationDef.name_relation (d : RelationDef) (table name : String) :
    (d.relation table name).name = name := by
  rw [relation]; split <;> rfl

@[simp] theorem RelationDef.relatedTable_relation (d : RelationDef) (table name : String) :
    (d.relation table name).relatedTable = d.relatedTable := by
  rw [relation]; split <;> rfl

@[simp] theorem RelationDef.table_parentKey_relation (d : RelationDef) (table name : String) :
    (d.relation table name).parentKey.table = table := by
  rw [relation]; split <;> rfl

structure TableDef where
  name : String
  columnNames : List String
  relations : NameMap RelationDef

namespace TableDef

def named (name : String) : TableDef :=
  ⟨name, [], .empty⟩

def hasColumn (t : TableDef) (column : String) : Bool :=
  t.columnNames.contains column

def column (t : TableDef) (column : String) : TableDef :=
  if t.hasColumn column then t else { t with columnNames := t.columnNames ++ [column] }

def columns (t : TableDef) (columns : List String) : TableDef :=
  columns.foldl TableDef.column t

def relation (t : TableDef) (name : String) (d : RelationDef) : TableDef :=
  { t with relations := t.relations.insert name d }

def belongsTo (t : TableDef) (name relatedTable foreignKey ownerKey : String) : TableDef :=
  t.relation name ⟨.belongsTo, relatedTable, foreignKey, ownerKey⟩

def hasMany (t : TableDef) (name relatedTable foreignKey localKey : String) : TableDef :=
  t.relation name ⟨.hasMany, relatedTable, foreignKey, localKey⟩

theorem hasColumn_column (t : TableDef) (c d : String) :
    (t.column c).hasColumn d = (d == c || t.hasColumn d) := by
  rw [column]
  split
  next h => by_cases hd : d = c <;> simp_all
  next h => rw [Bool.eq_iff_iff]; simp [hasColumn, or_comm]

end TableDef

end TermSearch
