import TermSearch.Catalog.Table
import TermSearch.Failure

/-! The tables known to a search, and how names are looked up among them. Nothing is guessed: a
name that is not declared does not resolve. -/

namespace TermSearch

structure Resolver where
  column : (table column : String) → Except Failure Column
  relation : (table relation : String) → Except Failure Relation

structure Catalog where
  defs : NameMap TableDef

namespace Catalog

def empty : Catalog :=
  ⟨.empty⟩

def register (c : Catalog) (t : TableDef) : Catalog :=
  ⟨c.defs.insert t.name t⟩

def isRegistered (c : Catalog) (table : String) : Bool :=
  c.defs.contains table

/-- Answers whether the table was there. -/
def unregister (c : Catalog) (table : String) : Bool × Catalog :=
  (c.isRegistered table, ⟨c.defs.erase table⟩)

def tables (c : Catalog) : List String :=
  c.defs.names

def size (c : Catalog) : Nat :=
  c.defs.size

def isEmpty (c : Catalog) : Bool :=
  c.size == 0

def resolveTable (c : Catalog) (table : String) : Except Failure TableDef :=
  match c.defs.find? table with
  | some t => .ok t
  | none => .error (.unresolved .table table table)

def resolveColumn (c : Catalog) (table column : String) : Except Failure Column := do
  let t ← c.resolveTable table
  if t.hasColumn column then .ok ⟨table, column⟩ else .error (.unresolved .column table column)

def resolveRelation (c : Catalog) (table relation : String) : Except Failure Relation := do
  let t ← c.resolveTable table
  match t.relations.find? relation with
  | some d => .ok (d.relation table relation)
  | none => .error (.unresolved .relationship table relation)

def resolver (c : Catalog) : Resolver :=
  ⟨c.resolveColumn, c.resolveRelation⟩

end Catalog

end TermSearch
