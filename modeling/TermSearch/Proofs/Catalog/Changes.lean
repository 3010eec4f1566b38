import TermSearch.Proofs.Catalog.Declarations
import TermSearch.Proofs.Search.Failing
import TermSearch.Proofs.Text.ByteOrder

/-! Catalogs that tables enter and leave. Whatever was there before, a catalog answers by the last
definition of each table. -/

namespace TermSearch

namespace Catalog

inductive Change where
  | register (table : String) (declarations : List Declaration)
  | unregister (table : String)

namespace Change

def table : Change → String
  | .register table _ | .unregister table => table

def definition? : Change → Option TableDef
  | .register table declarations => some (.built table declarations)
  | .unregister _ => none

end Change

def perform (c : Catalog) : Change → Option Bool × Catalog
  | .register table declarations => (none, c.register (.built table declarations))
  | .unregister table =>
    let (answer, c) := c.unregister table
    (some answer, c)

def after (c : Catalog) (changes : List Change) : Catalog :=
  changes.foldl (fun c change => (c.perform change).2) c

def answers (c : Catalog) : List Change → List (Option Bool)
  | [] => []
  | change :: changes => (c.perform change).1 :: (c.perform change).2.answers changes

def LastDefined (changes : List Change) (table : String) (declarations : List Declaration) : Prop :=
  Last (·.table = table) changes (.register table declarations)

variable (c : Catalog)

theorem find?_perform (change : Change) (table : String) :
    (c.perform change).2.defs.find? table =
      if change.table = table then change.definition? else c.defs.find? table := by
  cases change with
  | register name declarations =>
    rw [perform, register, TableDef.name_built, NameMap.find?_insert]
    simp only [Change.table, eq_comm]
    rfl
  | unregister name =>
    rw [perform, unregister, NameMap.find?_erase]
    simp only [Change.table, eq_comm]
    rfl

theorem find?_after_eq_some_iff (changes : List Change) (table : String) (t : TableDef) :
    (empty.after changes).defs.find? table = some t ↔
      ∃ declarations, LastDefined changes table declarations ∧ t = .built table declarations := by
  have hfold : (empty.after changes).defs.find? table = some t ↔
      ∃ change, Last (·.table = table) changes change ∧ change.definition? = some t :=
    observe_foldl_eq_some_iff (fun c => c.defs.find? table)
      (fun c change => find?_perform c change table) rfl changes t
  rw [hfold]
  constructor
  · rintro ⟨change, hlast, hd⟩
    cases change with
    | register name declarations =>
      obtain rfl : name = table := hlast.holds
      exact ⟨declarations, hlast, (Option.some.inj hd).symm⟩
    | unregister name => exact nomatch hd
  · rintro ⟨declarations, hlast, rfl⟩
    exact ⟨_, hlast, rfl⟩

theorem find?_after_of_lastDefined {changes : List Change} {table : String}
    {declarations : List Declaration} (h : LastDefined changes table declarations) :
    (empty.after changes).defs.find? table = some (.built table declarations) :=
  (find?_after_eq_some_iff ..).2 ⟨declarations, h, rfl⟩

theorem find?_after_eq_none {changes : List Change} {table : String}
    (h : ¬ ∃ declarations, LastDefined changes table declarations) :
    (empty.after changes).defs.find? table = none := by
  refine Option.eq_none_iff_forall_ne_some.2 fun t ht => h ?_
  obtain ⟨declarations, hlast, -⟩ := (find?_after_eq_some_iff ..).1 ht
  exact ⟨declarations, hlast⟩

theorem resolveRelation_eq_ok_iff_relation? (table name : String) (r : Relation) :
    c.resolveRelation table name = .ok r ↔
      ∃ t, c.defs.find? table = some t ∧ t.relation? table name = some r := by
  rw [resolveRelation_eq_ok_iff]
  refine exists_congr fun t => ?_
  simp only [TableDef.relation?, Option.map_eq_some_iff, exists_and_left, @eq_comm _ r]

theorem isRegistered_after_iff (changes : List Change) (table : String) :
    (empty.after changes).isRegistered table = true ↔
      ∃ declarations, LastDefined changes table declarations := by
  simp only [isRegistered_iff, find?_after_eq_some_iff]
  constructor
  · rintro ⟨-, declarations, hlast, -⟩
    exact ⟨declarations, hlast⟩
  · rintro ⟨declarations, hlast⟩
    exact ⟨_, declarations, hlast, rfl⟩

theorem getElem?_answers (before : List Change) (change : Change) (later : List Change) :
    (c.answers (before ++ change :: later))[before.length]? =
      some ((c.after before).perform change).1 := by
  induction before generalizing c with
  | nil => rfl
  | cons first before ih => exact ih (c.perform first).2

theorem pairwise_bytes_tables : (c.tables.map Text.bytes).Pairwise (· < ·) :=
  List.pairwise_map.2 (c.defs.pairwise_names.imp Text.bytes_lt_of_lt)

theorem length_tables : c.tables.length = c.size :=
  List.length_map ..

theorem isEmpty_iff : c.isEmpty = true ↔ c.tables = [] := by
  rw [isEmpty, beq_iff_eq, ← length_tables, List.length_eq_zero_iff]

structure Reflects (c : Catalog) (changes : List Change) : Prop where
  registered : ∀ table, c.isRegistered table = true ↔
    ∃ declarations, LastDefined changes table declarations
  column : ∀ table name found, c.resolveColumn table name = .ok found ↔
    found = ⟨table, name⟩ ∧ ∃ declarations, LastDefined changes table declarations ∧
      ∃ d ∈ declarations, d.DeclaresColumn name
  relation : ∀ table name found, c.resolveRelation table name = .ok found ↔
    ∃ declarations d, LastDefined changes table declarations ∧
      Last (·.relationName? = some name) declarations d ∧ d.relation? table = some found
  related : ∀ table name, (∃ found, c.resolveRelation table name = .ok found) ↔
    ∃ declarations, LastDefined changes table declarations ∧
      ∃ d ∈ declarations, d.relationName? = some name
  noTable : ∀ table, (¬ ∃ declarations, LastDefined changes table declarations) → ∀ name,
    c.resolveColumn table name = .error (.unresolved .table table table) ∧
      c.resolveRelation table name = .error (.unresolved .table table table)
  noColumn : ∀ table declarations name, LastDefined changes table declarations →
    (∀ d ∈ declarations, ¬ d.DeclaresColumn name) →
      c.resolveColumn table name = .error (.unresolved .column table name)
  noRelation : ∀ table declarations name, LastDefined changes table declarations →
    (∀ d ∈ declarations, d.relationName? ≠ some name) →
      c.resolveRelation table name = .error (.unresolved .relationship table name)
  increasing : (c.tables.map Text.bytes).Pairwise (· < ·)
  listed : ∀ table, table ∈ c.tables ↔ c.isRegistered table = true
  counted : c.size = c.tables.length
  vacant : c.isEmpty = true ↔ c.tables = []

theorem resolveRelation_after_eq_ok_iff (changes : List Change) (table name : String)
    (found : Relation) :
    (empty.after changes).resolveRelation table name = .ok found ↔
      ∃ declarations d, LastDefined changes table declarations ∧
        Last (·.relationName? = some name) declarations d ∧ d.relation? table = some found := by
  rw [resolveRelation_eq_ok_iff_relation?]
  constructor
  · rintro ⟨t, ht, hr⟩
    obtain ⟨declarations, hlast, rfl⟩ := (find?_after_eq_some_iff changes table t).1 ht
    obtain ⟨d, hd, hg⟩ := (TableDef.relation?_built_eq_some_iff ..).1 hr
    exact ⟨declarations, d, hlast, hd, hg⟩
  · rintro ⟨declarations, d, hlast, hd, hg⟩
    exact ⟨_, find?_after_of_lastDefined hlast,
      (TableDef.relation?_built_eq_some_iff ..).2 ⟨d, hd, hg⟩⟩

theorem reflects_after (changes : List Change) : (empty.after changes).Reflects changes where
  registered := isRegistered_after_iff changes
  column table name found := by
    rw [resolveColumn_eq_ok_iff]
    constructor
    · rintro ⟨t, ht, hn, rfl⟩
      obtain ⟨declarations, hlast, rfl⟩ := (find?_after_eq_some_iff changes table t).1 ht
      exact ⟨rfl, declarations, hlast, (TableDef.hasColumn_built ..).1 hn⟩
    · rintro ⟨rfl, declarations, hlast, hn⟩
      exact ⟨_, find?_after_of_lastDefined hlast, (TableDef.hasColumn_built ..).2 hn, rfl⟩
  relation := resolveRelation_after_eq_ok_iff changes
  related table name := by
    simp only [resolveRelation_after_eq_ok_iff]
    constructor
    · rintro ⟨found, declarations, d, hlast, hd, -⟩
      exact ⟨declarations, hlast, exists_last_iff.1 ⟨d, hd⟩⟩
    · rintro ⟨declarations, hlast, hn⟩
      obtain ⟨d, hd⟩ := exists_last_iff.2 hn
      obtain ⟨found, hg⟩ := Declaration.exists_relation? table hd.holds
      exact ⟨found, declarations, d, hlast, hd, hg⟩
  noTable table hnone name := by
    have htable := find?_after_eq_none hnone
    exact ⟨resolveColumn_eq_error_iff.2 (.inl ⟨htable, rfl⟩),
      resolveRelation_eq_error_iff.2 (.inl ⟨htable, rfl⟩)⟩
  noColumn table declarations name hlast hnone := by
    have hcolumn : (TableDef.built table declarations).hasColumn name = false := by
      rw [Bool.eq_false_iff, Ne, TableDef.hasColumn_built]
      rintro ⟨d, hd, hn⟩
      exact hnone d hd hn
    exact resolveColumn_eq_error_iff.2 (.inr ⟨_, find?_after_of_lastDefined hlast, hcolumn, rfl⟩)
  noRelation table declarations name hlast hnone := by
    have hrelation := TableDef.find?_relations_built_eq_none table hnone
    exact resolveRelation_eq_error_iff.2
      (.inr ⟨_, find?_after_of_lastDefined hlast, hrelation, rfl⟩)
  increasing := pairwise_bytes_tables _
  listed table := NameMap.mem_names_iff _ table
  counted := (length_tables _).symm
  vacant := isEmpty_iff _

end Catalog

/-- However often tables are registered and unregistered, a catalog knows the last definition of each
table and nothing else, lists its tables in byte order, and tells of a table that leaves whether it
was there. -/
theorem catalog_reflects_changes (changes : List Catalog.Change) :
    (Catalog.empty.after changes).Reflects changes ∧
    ∀ before table later, changes = before ++ .unregister table :: later →
      ∃ answer, (Catalog.empty.answers changes)[before.length]? = some (some answer) ∧
        (answer = true ↔ ∃ declarations, Catalog.LastDefined before table declarations) := by
  refine ⟨Catalog.reflects_after changes, ?_⟩
  rintro before table later rfl
  exact ⟨_, Catalog.getElem?_answers Catalog.empty before (.unregister table) later,
    Catalog.isRegistered_after_iff before table⟩

example : (Catalog.empty.after [.register "users" [.columns ["id", "name"]],
    .register "users" [.column "id"]]).resolveColumn "users" "name" =
      .error (.unresolved .column "users" "name") := rfl

end TermSearch
