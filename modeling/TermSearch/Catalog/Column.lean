/-! Columns, named together with the table they are read from. -/

namespace TermSearch

structure Column where
  table : String
  name : String
deriving DecidableEq

def Column.through (c : Column) (table : String) : Column :=
  { c with table }

@[simp] theorem Column.table_through (c : Column) (table : String) : (c.through table).table = table :=
  rfl

@[simp] theorem Column.name_through (c : Column) (table : String) : (c.through table).name = c.name :=
  rfl

end TermSearch
