import TermSearch.Proofs.Meaning.Evaluation

/-! Databases, and what a condition means in one. Names of tables are looked up from the innermost
subquery outwards, so that the name of a subquery hides the same name outside of it. -/

namespace TermSearch

/-- The tables of a database, and what its system makes of their cells. A cell that is null is
absent from its row. -/
structure Database where
  Cell : Type
  text : Cell → String
  same : Cell → Cell → Bool
  ofValue : Value → Cell
  rows : String → List (String → Option Cell)

namespace Database

variable (db : Database)

abbrev Row := String → Option db.Cell

abbrev Scope := List (String × db.Row)

def cell (s : db.Scope) (c : Column) : Option db.Cell :=
  (s.lookup c.table).bind fun row => row c.name

def textOf (s : db.Scope) (c : Column) : Option String :=
  (db.cell s c).map db.text

def compare (x y : Option db.Cell) : Truth :=
  .ofAnswer (do return db.same (← x) (← y))

def reading : Reading db.Scope where
  like s := TextView.likeIn (db.textOf s)
  equal s c v := db.compare (db.cell s c) (some (db.ofValue v))
  linked s link := (db.rows link.table).map fun row => (link.innerName, row) :: s
  tied s link := db.compare (db.cell s link.innerKey) (db.cell s link.outerKey)

theorem cell_cons (name : String) (row : db.Row) (s : db.Scope) (c : Column) :
    db.cell ((name, row) :: s) c = if c.table = name then row c.name else db.cell s c := by
  by_cases h : c.table = name
  · rw [if_pos h, cell, List.lookup_cons, beq_iff_eq.2 h]
    rfl
  · rw [if_neg h, cell, List.lookup_cons, beq_eq_false_iff_ne.2 h]
    rfl

end Database

namespace Condition

mutual

def Scoped (names : List String) : Condition → Prop
  | .like view _ => view.column.table ∈ names
  | .equal column _ => column.table ∈ names
  | .all parts => ScopedAll names parts
  | .any parts => ScopedAll names parts
  | .negation part => Scoped names part
  | .linked link filter =>
    link.innerKey.table ∈ link.innerName :: names ∧ link.outerKey.table ∈ link.innerName :: names ∧
      Scoped (link.innerName :: names) filter

def ScopedAll (names : List String) : List Condition → Prop
  | [] => True
  | c :: rest => Scoped names c ∧ ScopedAll names rest

end

theorem scopedAll_iff (names : List String) (cs : List Condition) :
    ScopedAll names cs ↔ ∀ c ∈ cs, c.Scoped names := by
  induction cs with
  | nil => simp [ScopedAll]
  | cons c cs ih => rw [ScopedAll, ih, List.forall_mem_cons]

end Condition

end TermSearch
