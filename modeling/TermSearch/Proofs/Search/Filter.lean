import TermSearch.Proofs.Meaning.Database
import TermSearch.Proofs.Search.Match
import TermSearch.Proofs.Search.Outcome

/-! The filter that a search adds to its query: it selects exactly the rows in which one of the
listed columns, or such a column of a related row, matches the term. -/

namespace TermSearch

namespace Database

variable (db : Database)

/-- Whether a related row belongs to a row: the side that holds the foreign key repeats the key of
the other side. -/
def Tied (d : RelationDef) (row related : db.Row) : Prop :=
  match d.kind with
  | .belongsTo => db.compare (related d.ownKey) (row d.foreignKey) = .yes
  | .hasMany => db.compare (related d.foreignKey) (row d.ownKey) = .yes

def CellMatches (r : Rules) (term : String) (row : db.Row) (name : String) : Prop :=
  ∃ x, row name = some x ∧ r.Accepts term (db.text x)

def Matches (catalog : Catalog) (table : String) (r : Rules) (term : String) (row : db.Row) :
    Entry → Prop
  | .own name => db.CellMatches r term row name
  | .related relation name => ∃ t d, catalog.defs.find? table = some t ∧
      t.relations.find? relation = some d ∧
      ∃ related ∈ db.rows d.relatedTable, db.Tied d row related ∧ db.CellMatches r term related name

theorem truth_ilike_scope (s : db.Scope) (c : Column) (term : String) (r : Rules) :
    (Engine.ilike.condition c (.ofText term r) r).truth db.reading s = .yes ↔
      ∃ x, db.cell s c = some x ∧ r.Accepts term (db.text x) := by
  have hlike : db.reading.like s = TextView.likeIn (db.textOf s) := rfl
  rw [Engine.truth_ilike_text_iff db.reading hlike]
  simp only [textOf, Option.map_eq_some_iff]
  constructor
  · rintro ⟨_, ⟨x, hx, rfl⟩, ha⟩
    exact ⟨x, hx, ha⟩
  · rintro ⟨x, hx, ha⟩
    exact ⟨_, ⟨x, hx, rfl⟩, ha⟩

theorem tied_link_iff (d : RelationDef) {table relation : String} (h : relation ++ "_rel" ≠ table)
    (row related : db.Row) :
    db.reading.tied [((d.relation table relation).innerName, related), (table, row)]
      (d.relation table relation).link = .yes ↔ db.Tied d row related := by
  obtain ⟨kind, relatedTable, foreignKey, ownKey⟩ := d
  -- The inner name differs from the table, so each key is read from its own side.
  cases kind <;>
    simp [reading, Relation.link, RelationDef.relation, Relation.innerName, Column.through,
      cell_cons, Ne.symm h, Tied]

variable {catalog : Catalog} {table : String} {target : Target}

theorem truth_target_iff {entry : Entry}
    (hr : Target.resolve catalog.resolver table entry = .ok target)
    (hf : ∀ relation name, entry = .related relation name → relation ++ "_rel" ≠ table)
    (term : String) (r : Rules) (row : db.Row) :
    (target.condition .ilike (.ofText term r) r).truth db.reading [(table, row)] = .yes ↔
      db.Matches catalog table r term row entry := by
  cases entry with
  | own name =>
    obtain ⟨t, -, -, rfl⟩ := Target.resolve_own_eq_ok_iff.1 hr
    rw [Target.condition, truth_ilike_scope, cell_cons, if_pos rfl]
    rfl
  | related relation name =>
    obtain ⟨t, d, u, ht, hd, -, -, rfl⟩ := Target.resolve_related_eq_ok_iff.1 hr
    have hn : (d.relation table relation).link.table = d.relatedTable :=
      d.relatedTable_relation table relation
    have hi : (d.relation table relation).link.innerName = (d.relation table relation).innerName :=
      rfl
    have hm : db.Matches catalog table r term row (.related relation name) ↔
        ∃ related ∈ db.rows d.relatedTable,
          db.Tied d row related ∧ db.CellMatches r term related name := by
      simp only [Matches, ht, hd, Option.some_inj, exists_and_left, exists_eq_left']
    -- Both sides now range over the same related rows, so that one row at a time is compared.
    rw [Target.condition, Condition.truth_linked_eq_yes_iff, hm]
    simp only [reading, List.mem_map, exists_exists_and_eq_and, hn, hi]
    refine exists_congr fun related => and_congr_right fun _ => ?_
    have hc : db.cell [((d.relation table relation).innerName, related), (table, row)]
        ((⟨d.relatedTable, name⟩ : Column).through (d.relation table relation).innerName) =
        related name := by
      rw [cell_cons, Column.table_through, if_pos rfl, Column.name_through]
    refine and_congr (db.tied_link_iff d (hf relation name rfl) row related) ?_
    exact (db.truth_ilike_scope _ _ term r).trans (by rw [hc]; rfl)

end Database

theorem Condition.scoped_anyOf {names : List String} {cs : List Condition}
    (h : ∀ c ∈ cs, c.Scoped names) : (anyOf cs).Scoped names := by
  match cs with
  | [] => trivial
  | [c] => exact h c (List.mem_cons_self ..)
  | c :: d :: rest => exact (scopedAll_iff names _).2 h

theorem Engine.scoped_ilike {names : List String} {c : Column} (h : c.table ∈ names) (t : Term)
    (r : Rules) : (ilike.condition c t r).Scoped names := by
  refine ilike_induction t r ?_ ?_
  · rintro v rfl s
    rw [TextView.contains, Condition.Scoped]
    exact h
  · intro parts _ hparts
    rw [Condition.Scoped, Condition.scopedAll_iff]
    exact hparts

theorem Target.scoped_condition {catalog : Catalog} {table text : String} {target : Target}
    (h : StandsFor catalog.resolver table text target) (t : Term) (r : Rules) :
    (target.condition .ilike t r).Scoped [table] := by
  obtain ⟨entry, -, hr⟩ := h
  cases entry with
  | own name =>
    obtain ⟨_, -, -, rfl⟩ := resolve_own_eq_ok_iff.1 hr
    have hc : (⟨table, name⟩ : Column).table ∈ [table] := List.mem_singleton.2 rfl
    exact Engine.scoped_ilike hc t r
  | related relation name =>
    obtain ⟨_, d, _, -, -, -, -, rfl⟩ := resolve_related_eq_ok_iff.1 hr
    have hc : ((⟨d.relatedTable, name⟩ : Column).through
        (d.relation table relation).innerName).table ∈
        (d.relation table relation).link.innerName :: [table] := List.mem_cons_self ..
    have hp : (d.relation table relation).link.outerKey.table = table :=
      d.table_parentKey_relation table relation
    rw [condition, Condition.Scoped, hp]
    exact ⟨List.mem_cons_self .., List.mem_cons_of_mem _ (List.mem_singleton.2 rfl),
      Engine.scoped_ilike hc t r⟩

/-- The condition that a search adds is true of exactly the rows that match the term in some listed
column, and reads no row but the queried one and those that its subqueries name. -/
theorem filter_search_iff (config : Config) (catalog : Catalog) (q : Select) (term : String)
    (columns : List String) (options : Options)
    (hq : q.dialect = .postgres) (hterm : Text.trim term ≠ "") (hcolumns : columns ≠ [])
    (hresolve : ∀ text ∈ columns, ∃ target, StandsFor catalog.resolver q.table text target)
    (hfresh : ∀ text ∈ columns, ∀ relation name,
      Entry.ofText text = .ok (.related relation name) → relation ++ "_rel" ≠ q.table) :
    ∃ filter found,
      ((Searcher.ofConfig config).search catalog.resolver q (some term) columns options).outcome =
        .ok found ∧
      found.filters = q.filters ++ [filter] ∧ filter.Scoped [q.table] ∧
      ∀ (db : Database) (row : db.Row), filter.truth db.reading [(q.table, row)] = .yes ↔
        ∃ text ∈ columns, ∃ entry, Entry.ofText text = .ok entry ∧
          db.Matches catalog q.table (config.rules options) term row entry := by
  obtain ⟨targets, ht⟩ := exists_resolveAll hresolve
  have hs := (Searcher.ofConfig config).search_eq_attached options hq hterm hcolumns ht
  have hall := resolveAll_eq_ok_iff.1 ht
  refine ⟨_, _, by rw [hs], Searcher.filters_attached .., ?_, fun db row => ?_⟩
  · rw [Searcher.engine_ofConfig]
    apply Condition.scoped_anyOf
    intro c hc
    obtain ⟨target, htarget, rfl⟩ := List.mem_map.1 hc
    obtain ⟨text, -, hx⟩ := exists_left_of_mem hall htarget
    exact target.scoped_condition hx _ _
  have hiff {text : String} {target : Target} {entry : Entry} (hx : text ∈ columns)
      (he : Entry.ofText text = .ok entry)
      (hr : Target.resolve catalog.resolver q.table entry = .ok target) :
      (target.condition .ilike (.ofText term (config.rules options)) (config.rules options)).truth
          db.reading [(q.table, row)] = .yes ↔
        db.Matches catalog q.table (config.rules options) term row entry :=
    db.truth_target_iff hr (fun relation name h => hfresh text hx relation name (h ▸ he)) _ _ row
  rw [Searcher.engine_ofConfig, Condition.truth_anyOf_eq_yes_iff]
  constructor
  · rintro ⟨c, hc, hy⟩
    obtain ⟨target, htarget, rfl⟩ := List.mem_map.1 hc
    obtain ⟨text, hx, entry, he, hr⟩ := exists_left_of_mem hall htarget
    exact ⟨text, hx, entry, he, (hiff hx he hr).1 hy⟩
  · rintro ⟨text, hx, entry, he, hm⟩
    obtain ⟨target, htarget, other, ho, hr⟩ := exists_right_of_mem hall hx
    obtain rfl : entry = other := Except.ok.inj (he.symm.trans ho)
    exact ⟨_, List.mem_map_of_mem htarget, (hiff hx he hr).2 hm⟩

def blog : Catalog :=
  (Catalog.empty.register
    (((TableDef.named "posts").columns ["id", "title", "user_id"]).belongsTo "user" "users"
      "user_id" "id")).register
    (((TableDef.named "users").columns ["id", "name"]).hasMany "posts" "posts" "user_id" "id")

theorem filter_search_blog :
    ∃ filter found,
      ((Searcher.ofConfig {}).search blog.resolver (.ofTable "posts" .postgres) (some " Jane Doe ")
        ["title", "user.name"] {}).outcome = .ok found ∧
      found.filters = [] ++ [filter] ∧ filter.Scoped ["posts"] ∧
      ∀ (db : Database) (row : db.Row), filter.truth db.reading [("posts", row)] = .yes ↔
        ∃ text ∈ ["title", "user.name"], ∃ entry, Entry.ofText text = .ok entry ∧
          db.Matches blog "posts" (Config.rules {} {}) " Jane Doe " row entry := by
  refine filter_search_iff {} blog (.ofTable "posts" .postgres) " Jane Doe " ["title", "user.name"]
    {} rfl (by decide) (by decide) ?_ ?_
  · intro text htext
    rcases List.mem_pair.1 htext with rfl | rfl
    · exact ⟨_, .own "title", rfl, rfl⟩
    · exact ⟨_, .related "user" "name", rfl, rfl⟩
  · intro text htext relation name he
    rcases List.mem_pair.1 htext with rfl | rfl
    · have ho : Entry.ofText "title" = .ok (.own "title") := rfl
      rw [ho] at he
      exact nomatch he
    · have hu : Entry.ofText "user.name" = .ok (.related "user" "name") := rfl
      obtain ⟨rfl, -⟩ : "user" = relation ∧ "name" = name := by simpa [hu] using he
      decide

end TermSearch
