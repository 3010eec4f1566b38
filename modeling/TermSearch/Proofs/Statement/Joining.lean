import TermSearch.Proofs.Meaning.Evaluation
import TermSearch.Statement.RenderingValues

/-! Joining conditions. A join adds its right operand to the parts of a group that is there already,
so that what it means and what values it holds follow from its operands alone. -/

namespace TermSearch

inductive Connective where
  | or
  | and
deriving DecidableEq

namespace Connective

def group : Connective → List Condition → Condition
  | .or => .any
  | .and => .all

def join : Connective → Condition → Condition → Condition
  | .or => .or
  | .and => .and

def parts : Connective → Condition → List Condition
  | .or, .any parts => parts
  | .and, .all parts => parts
  | _, c => [c]

def truth : Connective → Truth → Truth → Truth
  | .or => .or
  | .and => .and

def truthOfAll : Connective → List Truth → Truth
  | .or => .any
  | .and => .all

variable (k : Connective)

/-- Only the left operand is opened. -/
theorem join_eq_group (a b : Condition) : k.join a b = k.group (k.parts a ++ [b]) := by
  cases k <;> cases a <;> rfl

theorem parts_group (cs : List Condition) : k.parts (k.group cs) = cs := by
  cases k <;> rfl

def IsGroup (c : Condition) : Prop :=
  ∃ cs, c = k.group cs

variable {k} in
theorem parts_of_not_isGroup {c : Condition} (h : ¬ k.IsGroup c) : k.parts c = [c] := by
  cases k with
  | or =>
    cases c with
    | any cs => exact absurd ⟨cs, rfl⟩ h
    | _ => rfl
  | and =>
    cases c with
    | all cs => exact absurd ⟨cs, rfl⟩ h
    | _ => rfl

theorem truthOfAll_append (ts us : List Truth) :
    k.truthOfAll (ts ++ us) = k.truth (k.truthOfAll ts) (k.truthOfAll us) := by
  cases k with
  | or => exact Truth.any_append ts us
  | and => exact Truth.all_append ts us

theorem truthOfAll_singleton (t : Truth) : k.truthOfAll [t] = t := by
  cases k <;> cases t <;> rfl

section Meaning

variable {ρ : Type} (I : Reading ρ) (p : ρ)

theorem truth_group (cs : List Condition) :
    (k.group cs).truth I p = k.truthOfAll (cs.map fun c => c.truth I p) := by
  rw [← Condition.truths_eq_map]
  cases k <;> rfl

theorem truthOfAll_parts (c : Condition) :
    k.truthOfAll ((k.parts c).map fun c => c.truth I p) = c.truth I p := by
  by_cases h : k.IsGroup c
  · obtain ⟨cs, rfl⟩ := h
    rw [parts_group, truth_group]
  · rw [parts_of_not_isGroup h, List.map_singleton, truthOfAll_singleton]

theorem truth_join (a b : Condition) :
    (k.join a b).truth I p = k.truth (a.truth I p) (b.truth I p) := by
  rw [join_eq_group, truth_group, List.map_append, List.map_singleton, truthOfAll_append,
    truthOfAll_parts, truthOfAll_singleton]

end Meaning

theorem values_group (cs : List Condition) : (k.group cs).values = cs.flatMap Condition.values := by
  rw [← Condition.valuesOfAll_eq_flatMap]
  cases k <;> rfl

theorem flatMap_values_parts (c : Condition) : (k.parts c).flatMap Condition.values = c.values := by
  by_cases h : k.IsGroup c
  · obtain ⟨cs, rfl⟩ := h
    rw [parts_group, values_group]
  · rw [parts_of_not_isGroup h, List.flatMap_singleton]

theorem values_join (a b : Condition) : (k.join a b).values = a.values ++ b.values := by
  rw [join_eq_group, values_group, List.flatMap_append, flatMap_values_parts,
    List.flatMap_singleton]

theorem valueCount_join (a b : Condition) :
    (k.join a b).valueCount = a.valueCount + b.valueCount := by
  rw [← Condition.length_values, values_join, List.length_append, Condition.length_values,
    Condition.length_values]

end Connective

theorem Condition.values_statement (d : Dialect) (c : Condition) :
    (c.statement d).values = c.values :=
  values_pieces d c

end TermSearch
