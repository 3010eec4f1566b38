import TermSearch.Proofs.Meaning.Database
import TermSearch.Proofs.Search.Resolution

/-! Which row the keys of a subquery are read from. The inner name comes from the relation alone, so
it may be the very name of the queried table, and then it hides the queried row. -/

namespace TermSearch

namespace Database

variable (db : Database)

theorem lookup_cons_congr {s s' : db.Scope} (h : ∀ name, s.lookup name = s'.lookup name)
    (place : String × db.Row) (name : String) :
    (place :: s).lookup name = (place :: s').lookup name := by
  obtain ⟨key, row⟩ := place
  rw [List.lookup_cons, List.lookup_cons, h]

theorem cell_congr {s s' : db.Scope} (h : ∀ name, s.lookup name = s'.lookup name) :
    db.cell s = db.cell s' := by
  funext c
  rw [cell, cell, h]

theorem truth_linked_congr (link : Link) {filter : Condition} {s s' : db.Scope}
    (hcell : ∀ row, db.cell ((link.innerName, row) :: s) = db.cell ((link.innerName, row) :: s'))
    (hfilter : ∀ row, filter.truth db.reading ((link.innerName, row) :: s) =
      filter.truth db.reading ((link.innerName, row) :: s')) :
    (Condition.linked link filter).truth db.reading s =
      (Condition.linked link filter).truth db.reading s' := by
  have hany (s : db.Scope) : (Condition.linked link filter).truth db.reading s =
      .ofBool ((db.rows link.table).any fun row => decide (((db.compare
        (db.cell ((link.innerName, row) :: s) link.innerKey)
        (db.cell ((link.innerName, row) :: s) link.outerKey)).and
        (filter.truth db.reading ((link.innerName, row) :: s))) = .yes)) := by
    rw [Condition.truth]
    exact congrArg _ List.any_map
  rw [hany, hany]
  simp only [hcell, hfilter]

mutual

theorem truth_congr (c : Condition) {s s' : db.Scope}
    (h : ∀ name, s.lookup name = s'.lookup name) :
    c.truth db.reading s = c.truth db.reading s' := by
  cases c with
  | like view pattern =>
    have ht : db.textOf s = db.textOf s' := by
      funext c
      rw [textOf, textOf, db.cell_congr h]
    simp only [Condition.truth, reading, ht]
  | equal column value => simp only [Condition.truth, reading, db.cell_congr h]
  | all parts => rw [Condition.truth, Condition.truth, truths_congr parts h]
  | any parts => rw [Condition.truth, Condition.truth, truths_congr parts h]
  | negation part => rw [Condition.truth, Condition.truth, truth_congr part h]
  | linked link filter =>
    have hq (row : db.Row) : ∀ name, ((link.innerName, row) :: s).lookup name =
        ((link.innerName, row) :: s').lookup name := db.lookup_cons_congr h (link.innerName, row)
    exact db.truth_linked_congr link (fun row => db.cell_congr (hq row))
      fun row => truth_congr filter (hq row)

theorem truths_congr (cs : List Condition) {s s' : db.Scope}
    (h : ∀ name, s.lookup name = s'.lookup name) :
    Condition.truths db.reading cs s = Condition.truths db.reading cs s' := by
  cases cs with
  | nil => rfl
  | cons c rest =>
    rw [Condition.truths, Condition.truths, truth_congr c h, truths_congr rest h]

end

end Database

namespace Link

variable {link : Link} {table : String}

def Correlated (link : Link) (table : String) : Prop :=
  ∀ (db : Database) (row related : db.Row) (outer : db.Scope),
    db.cell ((link.innerName, related) :: (table, row) :: outer) link.outerKey =
      row link.outerKey.name

/-- The outer key is a column of the related row, so that the queried row plays no part. -/
def Captured (link : Link) (table : String) : Prop :=
  ∀ (db : Database) (row related : db.Row) (outer : db.Scope),
    db.cell ((link.innerName, related) :: (table, row) :: outer) link.outerKey =
      related link.outerKey.name

theorem correlated_of_ne (hk : link.outerKey.table = table) (h : link.innerName ≠ table) :
    link.Correlated table := by
  intro db row related outer
  have hn : link.outerKey.table ≠ link.innerName := hk ▸ h.symm
  rw [db.cell_cons, if_neg hn, db.cell_cons, if_pos hk]

theorem captured_of_eq (hk : link.outerKey.table = table) (h : link.innerName = table) :
    link.Captured table := by
  intro db row related outer
  rw [db.cell_cons, if_pos (hk.trans h.symm)]

theorem Captured.not_correlated (h : link.Captured table) : ¬ link.Correlated table := by
  intro hc
  -- A row with every cell and a related row with none tell the two readings of the key apart.
  let db : Database := ⟨Unit, fun _ => "", fun _ _ => true, fun _ => (), fun _ => []⟩
  let full : db.Row := fun _ => some ()
  let bare : db.Row := fun _ => none
  have he : some () = (none : Option Unit) :=
    (hc db full bare []).symm.trans (h db full bare [])
  exact nomatch he

theorem correlated_iff (hk : link.outerKey.table = table) :
    link.Correlated table ↔ link.innerName ≠ table :=
  ⟨fun h he => (captured_of_eq hk he).not_correlated h, correlated_of_ne hk⟩

theorem truth_linked_of_captured (h : link.innerName = table) (filter : Condition)
    (db : Database) (row row' : db.Row) :
    (Condition.linked link filter).truth db.reading [(table, row)] =
      (Condition.linked link filter).truth db.reading [(table, row')] := by
  -- The only row in which the two scopes differ has a name that the subquery hides.
  have hq (related : db.Row) (name : String) :
      ((link.innerName, related) :: [(table, row)]).lookup name =
        ((link.innerName, related) :: [(table, row')]).lookup name := by
    by_cases hn : name == table
    · simp only [List.lookup_cons, h, hn]
    · simp only [List.lookup_cons, h, hn]
  exact db.truth_linked_congr link (fun related => db.cell_congr (hq related))
    fun related => db.truth_congr filter (hq related)

end Link

/-- The keys of a related column's subquery: the inner key is read from the related row, and the
outer key from the queried one unless the table has the inner name of the relation. -/
theorem related_correlated_iff {catalog : Catalog} {table relation name : String} {target : Target}
    (hr : Target.resolve catalog.resolver table (.related relation name) = .ok target)
    (e : Engine) (t : Term) (r : Rules) :
    ∃ link filter, target.condition e t r = .linked link filter ∧
      link.innerName = relation ++ "_rel" ∧ link.innerKey.table = link.innerName ∧
      link.outerKey.table = table ∧
      (link.Correlated table ↔ relation ++ "_rel" ≠ table) ∧
      (relation ++ "_rel" = table → link.Captured table ∧
        ∀ (db : Database) (row row' : db.Row),
          (target.condition e t r).truth db.reading [(table, row)] =
            (target.condition e t r).truth db.reading [(table, row')]) := by
  obtain ⟨_, d, _, -, -, -, -, rfl⟩ := Target.resolve_related_eq_ok_iff.1 hr
  have hn : (d.relation table relation).link.innerName = relation ++ "_rel" := by
    rw [Relation.link, Relation.innerName, d.name_relation]
  have hk : (d.relation table relation).link.outerKey.table = table :=
    d.table_parentKey_relation table relation
  refine ⟨_, _, rfl, hn, rfl, hk, hn ▸ Link.correlated_iff hk, ?_⟩
  intro h
  exact ⟨Link.captured_of_eq hk (hn.trans h), Link.truth_linked_of_captured (hn.trans h) _⟩

def staff (table : String) : Catalog :=
  Catalog.empty.register
    (((TableDef.named table).columns ["id", "name", "manager_id"]).belongsTo "manager" table
      "manager_id" "id")

def managerLink (table : String) : Link :=
  ⟨table, "manager_rel", ⟨"manager_rel", "id"⟩, ⟨table, "manager_id"⟩⟩

theorem related_correlated_users :
    Target.resolve (staff "users").resolver "users" (.related "manager" "name") =
      .ok (.related ⟨"manager", .belongsTo, "users", ⟨"users", "id"⟩, ⟨"users", "manager_id"⟩⟩
        ⟨"users", "name"⟩) ∧
    (managerLink "users").Correlated "users" := by
  have hr : Target.resolve (staff "users").resolver "users" (.related "manager" "name") =
      .ok (.related ⟨"manager", .belongsTo, "users", ⟨"users", "id"⟩, ⟨"users", "manager_id"⟩⟩
        ⟨"users", "name"⟩) := rfl
  have hfresh : "manager" ++ "_rel" ≠ "users" := by decide
  obtain ⟨link, filter, hc, -, -, -, hiff, -⟩ := related_correlated_iff hr .ilike
    (.ofText "Jane" (Config.rules {} {})) (Config.rules {} {})
  obtain ⟨rfl, -⟩ := Condition.linked.inj hc
  exact ⟨hr, hiff.2 hfresh⟩

/-- The same people in a table that has the inner name of the relation: the keys then compare each
row of the subquery with itself. -/
theorem manager_rel_captured :
    ∃ target filter,
      Target.resolve (staff "manager_rel").resolver "manager_rel" (.related "manager" "name") =
        .ok target ∧
      target.condition .ilike (.ofText "Jane" (Config.rules {} {})) (Config.rules {} {}) =
        .linked (managerLink "manager_rel") filter ∧
      (managerLink "manager_rel").innerName = "manager_rel" ∧
      (managerLink "manager_rel").outerKey.table = "manager_rel" ∧
      ¬ (managerLink "manager_rel").Correlated "manager_rel" := by
  have hcaptured : (managerLink "manager_rel").Captured "manager_rel" :=
    Link.captured_of_eq rfl rfl
  exact ⟨_, _, rfl, rfl, rfl, rfl, hcaptured.not_correlated⟩

end TermSearch
