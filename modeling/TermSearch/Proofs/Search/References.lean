import Mathlib.Logic.Function.Basic
import TermSearch.Proofs.Search.Match

/-! What conditions and orders refer to: the columns that they compare, and the keys that tie a
subquery to the row outside it. -/

namespace TermSearch

inductive Reference where
  | column (c : Column)
  | keys (link : Link)
deriving DecidableEq

namespace Condition

mutual

/-- Each column is named with the table that it is read from: `tables` says which one a name stands
for, and in a subquery the inner name stands for the subquery's table. -/
def references (tables : String → String) : Condition → List Reference
  | .like view _ => [.column (view.column.through (tables view.column.table))]
  | .equal column _ => [.column (column.through (tables column.table))]
  | .all parts => referencesOfAll tables parts
  | .any parts => referencesOfAll tables parts
  | .negation part => part.references tables
  | .linked link filter =>
    .keys link :: filter.references (Function.update tables link.innerName link.table)

def referencesOfAll (tables : String → String) : List Condition → List Reference
  | [] => []
  | c :: rest => c.references tables ++ referencesOfAll tables rest

end

variable {tables : String → String} {reference : Reference}

theorem mem_referencesOfAll_iff {cs : List Condition} :
    reference ∈ referencesOfAll tables cs ↔ ∃ c ∈ cs, reference ∈ c.references tables := by
  induction cs with
  | nil => exact iff_of_false List.not_mem_nil fun ⟨_, h, _⟩ => absurd h List.not_mem_nil
  | cons c cs ih => rw [referencesOfAll, List.mem_append, ih, List.exists_mem_cons_iff]

theorem mem_references_anyOf_iff {cs : List Condition} :
    reference ∈ (anyOf cs).references tables ↔ ∃ c ∈ cs, reference ∈ c.references tables := by
  match cs with
  | [c] => simp only [anyOf, List.mem_singleton, exists_eq_left]
  | [] | _ :: _ :: _ => exact mem_referencesOfAll_iff

end Condition

def Score.references (s : Score) : List Reference :=
  .column s.column :: s.branches.map fun b => .column b.view.column

def OrderClause.references (o : OrderClause) : List Reference :=
  match o.key with
  | .column c => [.column c]
  | .greatest scores => scores.flatMap Score.references

/-- An engine that refers to no column but the one it is given, whatever the name of its table stands
for. -/
structure Engine.KeepsToColumn (e : Engine) : Prop where
  condition (c : Column) (t : Term) (r : Rules) (tables : String → String) :
    ∀ reference ∈ (e.condition c t r).references tables,
      reference = .column (c.through (tables c.table))
  score (c : Column) (t : Term) (r : Rules) :
    ∀ reference ∈ (e.score c t r).references, reference = .column c

namespace Engine

variable (c : Column) (t : Term) (r : Rules)

theorem column_of_mem_branches {branch : Branch} (h : branch ∈ branches c t r) :
    branch.view.column = c := by
  simp only [branches, List.cons_append, List.mem_cons, List.mem_append, List.mem_map] at h
  rcases h with rfl | h | ⟨token, -, rfl⟩
  · rfl
  · split at h
    · obtain rfl := List.mem_singleton.1 h
      rfl
    · exact absurd h List.not_mem_nil
  · rfl

theorem keepsToColumn_ilike : ilike.KeepsToColumn where
  condition c t r tables := by
    refine ilike_induction (P := fun a => ∀ reference ∈ a.references tables,
      reference = .column (c.through (tables c.table))) t r ?_ ?_
    · rintro view rfl s reference h
      rw [TextView.contains, Condition.references] at h
      exact List.mem_singleton.1 h
    · intro parts _ hparts reference h
      rw [Condition.references, Condition.mem_referencesOfAll_iff] at h
      obtain ⟨part, hp, h⟩ := h
      exact hparts part hp reference h
  score c t r := by
    intro reference h
    rcases List.mem_cons.1 h with rfl | h
    · rfl
    · obtain ⟨branch, hb, rfl⟩ := List.mem_map.1 h
      rw [column_of_mem_branches c t r hb]

end Engine

end TermSearch
