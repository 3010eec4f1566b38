import Mathlib.Data.List.Basic
import Mathlib.Data.List.Induction
import TermSearch.Catalog.Table

/-! Tables built by one declaration after another. Every declared column stays, and of several
relationships of one name the last declaration counts. -/

namespace TermSearch

section Last

variable {α β σ : Type} {P : α → Prop}

def Last (P : α → Prop) (xs : List α) (x : α) : Prop :=
  ∃ before after, xs = before ++ x :: after ∧ P x ∧ ∀ y ∈ after, ¬ P y

theorem Last.holds {xs : List α} {x : α} (h : Last P xs x) : P x := by
  obtain ⟨-, -, -, hx, -⟩ := h
  exact hx

theorem not_last_nil (x : α) : ¬ Last P [] x := by
  rintro ⟨before, after, h, -, -⟩
  exact List.append_ne_nil_of_right_ne_nil before (List.cons_ne_nil x after) h.symm

theorem last_append_singleton_iff {xs : List α} {x y : α} :
    Last P (xs ++ [y]) x ↔ P y ∧ y = x ∨ ¬ P y ∧ Last P xs x := by
  constructor
  · rintro ⟨before, after, h, hx, hafter⟩
    rcases List.eq_nil_or_concat after with rfl | ⟨front, z, rfl⟩
    · obtain ⟨rfl, hy⟩ := List.append_inj' h rfl
      obtain rfl : y = x := List.singleton_inj.1 hy
      exact .inl ⟨hx, rfl⟩
    · rw [List.concat_eq_append, ← List.cons_append, ← List.append_assoc] at h
      obtain ⟨rfl, hy⟩ := List.append_inj' h rfl
      obtain rfl : y = z := List.singleton_inj.1 hy
      rw [List.concat_eq_append] at hafter
      exact .inr ⟨hafter y (by simp), before, front, rfl, hx, fun w hw => hafter w (by simp [hw])⟩
  · rintro (⟨hy, rfl⟩ | ⟨hy, before, after, rfl, hx, hafter⟩)
    · exact ⟨xs, [], rfl, hy, by simp⟩
    · refine ⟨before, after ++ [y], by simp, hx, fun z hz => ?_⟩
      rcases List.mem_append.1 hz with hz | hz
      · exact hafter z hz
      · exact List.mem_singleton.1 hz ▸ hy

theorem exists_last_iff {xs : List α} : (∃ x, Last P xs x) ↔ ∃ x ∈ xs, P x := by
  induction xs using List.reverseRecOn with
  | nil => exact iff_of_false (fun ⟨x, h⟩ => not_last_nil x h) (by simp)
  | append_singleton xs y ih =>
    simp only [last_append_singleton_iff, List.mem_append, List.mem_singleton]
    by_cases hy : P y
    · exact iff_of_true ⟨y, .inl ⟨hy, rfl⟩⟩ ⟨y, .inr rfl, hy⟩
    · simp only [hy, false_and, not_false_eq_true, true_and, false_or, ih]
      constructor
      · rintro ⟨x, hx, hp⟩
        exact ⟨x, .inl hx, hp⟩
      · rintro ⟨x, hx | rfl, hp⟩
        · exact ⟨x, hx, hp⟩
        · exact absurd hp hy

/-- What elements with the property overwrite is in the end what the last of them gives. -/
theorem observe_foldl_eq_some_iff [DecidablePred P] {step : σ → α → σ} {gives : α → Option β}
    (observe : σ → Option β)
    (hstep : ∀ s x, observe (step s x) = if P x then gives x else observe s) {s : σ}
    (hs : observe s = none) (xs : List α) (b : β) :
    observe (xs.foldl step s) = some b ↔ ∃ x, Last P xs x ∧ gives x = some b := by
  induction xs using List.reverseRecOn with
  | nil => simp [hs, not_last_nil]
  | append_singleton xs y ih =>
    rw [List.foldl_append, List.foldl_cons, List.foldl_nil, hstep]
    simp only [last_append_singleton_iff]
    by_cases hy : P y
    · simp [hy]
    · simp [hy, ih]

end Last

inductive Declaration where
  | column (name : String)
  | columns (names : List String)
  | belongsTo (relation relatedTable foreignKey ownerKey : String)
  | hasMany (relation relatedTable foreignKey localKey : String)

namespace Declaration

def DeclaresColumn (column : String) : Declaration → Prop
  | .column name => name = column
  | .columns names => column ∈ names
  | .belongsTo .. | .hasMany .. => False

def relationName? : Declaration → Option String
  | .belongsTo relation .. | .hasMany relation .. => some relation
  | .column _ | .columns _ => none

def relation? (table : String) : Declaration → Option Relation
  | .belongsTo relation relatedTable foreignKey ownerKey =>
    some ⟨relation, .belongsTo, relatedTable, ⟨relatedTable, ownerKey⟩, ⟨table, foreignKey⟩⟩
  | .hasMany relation relatedTable foreignKey localKey =>
    some ⟨relation, .hasMany, relatedTable, ⟨relatedTable, foreignKey⟩, ⟨table, localKey⟩⟩
  | .column _ | .columns _ => none

theorem exists_relation? (table : String) {d : Declaration} {name : String}
    (h : d.relationName? = some name) : ∃ r, d.relation? table = some r := by
  cases d with
  | column | columns => exact nomatch h
  | belongsTo | hasMany => exact ⟨_, rfl⟩

end Declaration

namespace TableDef

def declare (t : TableDef) : Declaration → TableDef
  | .column name => t.column name
  | .columns names => t.columns names
  | .belongsTo relation relatedTable foreignKey ownerKey =>
    t.belongsTo relation relatedTable foreignKey ownerKey
  | .hasMany relation relatedTable foreignKey localKey =>
    t.hasMany relation relatedTable foreignKey localKey

def built (name : String) (declarations : List Declaration) : TableDef :=
  declarations.foldl declare (named name)

variable (t : TableDef)

theorem hasColumn_columns (names : List String) (column : String) :
    (t.columns names).hasColumn column = true ↔ column ∈ names ∨ t.hasColumn column = true := by
  rw [columns]
  induction names generalizing t with
  | nil => simp
  | cons name names ih =>
    rw [List.foldl_cons, ih, hasColumn_column, Bool.or_eq_true, beq_iff_eq, List.mem_cons,
      or_assoc, or_left_comm]

theorem hasColumn_declare (d : Declaration) (column : String) :
    (t.declare d).hasColumn column = true ↔
      d.DeclaresColumn column ∨ t.hasColumn column = true := by
  cases d with
  | column name =>
    rw [declare, hasColumn_column, Bool.or_eq_true, beq_iff_eq, eq_comm]
    rfl
  | columns names => exact t.hasColumn_columns names column
  | belongsTo | hasMany => exact (or_iff_right id).symm

theorem hasColumn_foldl_declare (declarations : List Declaration) (column : String) :
    (declarations.foldl declare t).hasColumn column = true ↔
      (∃ d ∈ declarations, d.DeclaresColumn column) ∨ t.hasColumn column = true := by
  induction declarations generalizing t with
  | nil => simp
  | cons d declarations ih =>
    rw [List.foldl_cons, ih, hasColumn_declare, List.exists_mem_cons_iff, or_assoc, or_left_comm]

theorem hasColumn_built (name : String) (declarations : List Declaration) (column : String) :
    (built name declarations).hasColumn column = true ↔
      ∃ d ∈ declarations, d.DeclaresColumn column := by
  rw [built, hasColumn_foldl_declare]
  exact or_iff_left Bool.false_ne_true

@[simp] theorem name_column (column : String) : (t.column column).name = t.name := by
  rw [TableDef.column]
  split <;> rfl

@[simp] theorem relations_column (column : String) :
    (t.column column).relations = t.relations := by
  rw [TableDef.column]
  split <;> rfl

@[simp] theorem name_columns (names : List String) : (t.columns names).name = t.name := by
  rw [columns]
  induction names generalizing t with
  | nil => rfl
  | cons name names ih => rw [List.foldl_cons, ih, name_column]

@[simp] theorem relations_columns (names : List String) :
    (t.columns names).relations = t.relations := by
  rw [columns]
  induction names generalizing t with
  | nil => rfl
  | cons name names ih => rw [List.foldl_cons, ih, relations_column]

theorem name_declare (d : Declaration) : (t.declare d).name = t.name := by
  cases d with
  | column name => exact t.name_column name
  | columns names => exact t.name_columns names
  | belongsTo | hasMany => rfl

theorem name_built (name : String) (declarations : List Declaration) :
    (built name declarations).name = name := by
  rw [built]
  induction declarations using List.reverseRecOn with
  | nil => rfl
  | append_singleton declarations d ih =>
    rw [List.foldl_append, List.foldl_cons, List.foldl_nil, name_declare, ih]

def relation? (table name : String) : Option Relation :=
  (t.relations.find? name).map (·.relation table name)

theorem relation?_relation (table name relation : String) (d : RelationDef) :
    (t.relation relation d).relation? table name =
      if relation = name then some (d.relation table relation) else t.relation? table name := by
  rw [relation?, TableDef.relation, NameMap.find?_insert]
  by_cases hn : relation = name
  · rw [if_pos hn, if_pos hn.symm, Option.map_some, hn]
  · rw [if_neg hn, if_neg (Ne.symm hn), relation?]

theorem relation?_declare (table name : String) (d : Declaration) :
    (t.declare d).relation? table name =
      if d.relationName? = some name then d.relation? table else t.relation? table name := by
  cases d with
  | column column => simp [declare, relation?, Declaration.relationName?]
  | columns columns => simp [declare, relation?, Declaration.relationName?]
  | belongsTo relation =>
    rw [declare, belongsTo, relation?_relation, Declaration.relationName?]
    simp only [Option.some_inj]
    rfl
  | hasMany relation =>
    rw [declare, hasMany, relation?_relation, Declaration.relationName?]
    simp only [Option.some_inj]
    rfl

theorem relation?_built_eq_some_iff (table name : String) (declarations : List Declaration)
    (r : Relation) :
    (built table declarations).relation? table name = some r ↔
      ∃ d, Last (·.relationName? = some name) declarations d ∧ d.relation? table = some r :=
  observe_foldl_eq_some_iff (fun t => relation? t table name)
    (fun t d => relation?_declare t table name d) rfl declarations r

theorem find?_relations_built_eq_none (table : String) {declarations : List Declaration}
    {name : String} (h : ∀ d ∈ declarations, d.relationName? ≠ some name) :
    (built table declarations).relations.find? name = none := by
  have hnone : (built table declarations).relation? table name = none := by
    refine Option.eq_none_iff_forall_ne_some.2 fun r hr => ?_
    obtain ⟨d, hlast, -⟩ := (relation?_built_eq_some_iff ..).1 hr
    obtain ⟨e, he, hn⟩ := exists_last_iff.1 ⟨d, hlast⟩
    exact h e he hn
  exact Option.map_eq_none_iff.1 hnone

end TableDef

end TermSearch
