import TermSearch.Proofs.Search.Failing
import TermSearch.Proofs.Search.References

/-! What a search refers to in a catalog: columns that it declares, and the keys of relations that it
resolves. The keys are taken as the relation names them; nothing looks for them among the columns. -/

namespace TermSearch

namespace Catalog

variable (c : Catalog) (table : String)

def Declares (column : Column) : Prop :=
  ∃ t, c.defs.find? column.table = some t ∧ t.hasColumn column.name = true

def Grounds : Reference → Prop
  | .column column => c.Declares column
  | .keys link => ∃ name relation, c.resolveRelation table name = .ok relation ∧
      link = relation.link ∧ c.isRegistered table = true ∧ c.isRegistered link.table = true

def GroundsTarget : Target → Prop
  | .own column => column.table = table ∧ c.Declares column
  | .related relation column => c.Grounds table (.keys relation.link) ∧
      column.table = relation.relatedTable ∧ c.Declares column

def DeclaresEntry : Entry → Prop
  | .own name => c.Declares ⟨table, name⟩
  | .related relation name =>
    ∃ r, c.resolveRelation table relation = .ok r ∧ c.Declares ⟨r.relatedTable, name⟩

structure GroundsAddition (filter : Condition) (order : List OrderClause) : Prop where
  filter : ∀ reference ∈ filter.references id, c.Grounds table reference
  order : ∀ clause ∈ order, ∀ reference ∈ clause.references,
    ∃ column, reference = .column column ∧ column.table = table ∧ c.Declares column

variable {c table} {entry : Entry} {target : Target} {failure : Failure}

theorem groundsTarget_of_resolve (h : Target.resolve c.resolver table entry = .ok target) :
    c.GroundsTarget table target := by
  cases entry with
  | own name =>
    obtain ⟨t, ht, hn, rfl⟩ := Target.resolve_own_eq_ok_iff.1 h
    exact ⟨rfl, t, ht, hn⟩
  | related relation name =>
    obtain ⟨t, d, u, ht, hd, hu, hn, rfl⟩ := Target.resolve_related_eq_ok_iff.1 h
    have hrelated : (d.relation table relation).relatedTable = d.relatedTable :=
      d.relatedTable_relation table relation
    have houter : c.isRegistered table = true := isRegistered_iff.2 ⟨t, ht⟩
    have hinner : c.isRegistered (d.relation table relation).relatedTable = true :=
      hrelated ▸ isRegistered_iff.2 ⟨u, hu⟩
    have hresolved : c.resolveRelation table relation = .ok (d.relation table relation) :=
      resolveRelation_eq_ok_iff.2 ⟨t, d, ht, hd, rfl⟩
    exact ⟨⟨relation, _, hresolved, rfl, houter, hinner⟩, hrelated.symm, u, hu, hn⟩

theorem declaresEntry_iff :
    c.DeclaresEntry table entry ↔ ∃ target, Target.resolve c.resolver table entry = .ok target := by
  cases entry with
  | own name =>
    simp only [Target.resolve_own_eq_ok_iff]
    constructor
    · rintro ⟨t, ht, hn⟩
      exact ⟨_, t, ht, hn, rfl⟩
    · rintro ⟨_, t, ht, hn, -⟩
      exact ⟨t, ht, hn⟩
  | related relation name =>
    simp only [Target.resolve_related_eq_ok_iff]
    constructor
    · rintro ⟨r, hr, u, hu, hn⟩
      obtain ⟨t, d, ht, hd, rfl⟩ := resolveRelation_eq_ok_iff.1 hr
      rw [RelationDef.relatedTable_relation] at hu
      exact ⟨_, t, d, u, ht, hd, hu, hn, rfl⟩
    · rintro ⟨_, t, d, u, ht, hd, hu, hn, -⟩
      refine ⟨_, resolveRelation_eq_ok_iff.2 ⟨t, d, ht, hd, rfl⟩, u, ?_, hn⟩
      rw [RelationDef.relatedTable_relation, hu]

theorem exists_lacks_of_not_declaresEntry (h : ¬ c.DeclaresEntry table entry) :
    ∃ failure, c.Lacks table entry failure := by
  rw [declaresEntry_iff, exists_ok_iff, not_forall] at h
  obtain ⟨failure, hf⟩ := h
  exact ⟨failure, resolve_eq_error_iff.1 (not_not.1 hf)⟩

theorem isUnresolved_of_lacks (h : c.Lacks table entry failure) : failure.isUnresolved = true := by
  cases h <;> rfl

end Catalog

namespace Engine.KeepsToColumn

variable {c : Catalog} {table : String} {e : Engine} (he : e.KeepsToColumn)
include he

theorem grounds_condition {target : Target} (h : c.GroundsTarget table target) (t : Term)
    (r : Rules) : ∀ reference ∈ (target.condition e t r).references id, c.Grounds table reference := by
  intro reference hm
  cases target with
  | own column =>
    obtain rfl := he.condition column t r id reference hm
    exact h.2
  | related relation column =>
    obtain ⟨hkeys, htable, hdeclared⟩ := h
    rcases List.mem_cons.1 hm with rfl | hm
    · exact hkeys
    · have hread := he.condition _ t r _ reference hm
      have hback : (column.through relation.innerName).through
          (Function.update id relation.innerName relation.relatedTable relation.innerName) =
            column := by
        rw [Function.update_self, ← htable]
        rfl
      rw [hread]
      exact hback ▸ hdeclared

theorem grounds_order {targets : List Target} (h : ∀ target ∈ targets, c.GroundsTarget table target)
    (t : Term) (r : Rules) : ∀ clause ∈ (bestMatchOrder? e targets t r).toList,
      ∀ reference ∈ clause.references,
        ∃ column, reference = .column column ∧ column.table = table ∧ c.Declares column := by
  intro clause hc reference hm
  rcases ranked_or_unranked targets r with ⟨hr, ho⟩ | hu
  · rw [bestMatchOrder?_of_ranked hr ho] at hc
    obtain rfl := List.mem_singleton.1 hc
    obtain ⟨_, hs, hm⟩ := List.mem_flatMap.1 hm
    obtain ⟨column, hown, rfl⟩ := List.mem_map.1 hs
    exact ⟨column, he.score column t r reference hm, h _ (Target.mem_ownColumns_iff.1 hown)⟩
  · rw [bestMatchOrder?_of_unranked hu] at hc
    exact absurd hc List.not_mem_nil

end Engine.KeepsToColumn

namespace Searcher

variable (s : Searcher) (catalog : Catalog) (q : Select) {term : Option String}
  {columns : List String} (options : Options)

theorem keepsToColumn_ofConfig (config : Config) : (ofConfig config).engine.KeepsToColumn := by
  rw [engine_ofConfig]
  exact Engine.keepsToColumn_ilike

variable {catalog} in
theorem groundsAddition_attached {targets : List Target} (he : s.engine.KeepsToColumn)
    (h : ∀ target ∈ targets, catalog.GroundsTarget q.table target) (t : Term) (r : Rules) :
    catalog.GroundsAddition q.table (.anyOf (targets.map (Target.condition s.engine t r)))
      (bestMatchOrder? s.engine targets t r).toList where
  filter reference hm := by
    obtain ⟨_, hp, hm⟩ := Condition.mem_references_anyOf_iff.1 hm
    obtain ⟨target, ht, rfl⟩ := List.mem_map.1 hp
    exact he.grounds_condition (h target ht) t r reference hm
  order := he.grounds_order h t r

variable {q} in
theorem exists_failure_of_not_declaresEntry (halone : ¬ q.LeftAlone term columns) {text : String}
    {entry : Entry} (ht : text ∈ columns) (hread : Entry.ofText text = .ok entry)
    (h : ¬ catalog.DeclaresEntry q.table entry) :
    ∃ failure, (s.search catalog.resolver q term columns options).outcome = .error failure ∧
      ((∀ other ∈ columns, ∃ read, Entry.ofText other = .ok read) →
        failure.isUnresolved = true) := by
  obtain ⟨lack, hl⟩ := Catalog.exists_lacks_of_not_declaresEntry h
  have hfails : ¬ ∃ found,
      (s.search catalog.resolver q term columns options).outcome = .ok found := by
    rw [exists_outcome_eq_ok_iff]
    rintro (ha | hnone)
    · exact halone ha
    · exact (hnone text ht lack).2 ⟨entry, hread, hl⟩
  rw [exists_ok_iff, not_forall] at hfails
  obtain ⟨failure, hf⟩ := hfails
  refine ⟨failure, not_not.1 hf, ?_⟩
  intro hwell
  obtain ⟨-, ⟨_, x, _, rfl, -, hx⟩ | ⟨-, _, _, _, -, -, _, -, hx⟩⟩ :=
    (s.outcome_eq_error_iff catalog q term columns options failure).1 (not_not.1 hf)
  · obtain ⟨read, hr⟩ := hwell x (List.mem_append_right _ (List.mem_cons_self ..))
    exact nomatch hr.symm.trans (Entry.ofText_eq_error_iff.2 hx)
  · exact Catalog.isUnresolved_of_lacks hx

end Searcher

/-- A search adds nothing that refers to an undeclared column, the keys of its subqueries apart: those
are the keys of a relation that resolves, between registered tables. An entry whose column is not
declared makes it fail, as unresolved where all entries are well formed. -/
theorem search_refers_to_declared (s : Searcher) (catalog : Catalog) (q : Select)
    {term : Option String} {columns : List String} (options : Options)
    (halone : ¬ q.LeftAlone term columns) :
    (∀ config, (Searcher.ofConfig config).engine.KeepsToColumn) ∧
    (∀ found, (s.search catalog.resolver q term columns options).outcome = .ok found →
      ∃ targets filter order,
        s.Appends (.ofText (term.getD "") (s.config.rules options)) (s.config.rules options) targets
          q found ∧
        (∀ target ∈ targets, catalog.GroundsTarget q.table target) ∧
        found.filters = q.filters ++ [filter] ∧ found.order = q.order ++ order ∧
        (s.engine.KeepsToColumn → catalog.GroundsAddition q.table filter order)) ∧
    (∀ text ∈ columns, ∀ entry, Entry.ofText text = .ok entry →
      ¬ catalog.DeclaresEntry q.table entry →
      ∃ failure, (s.search catalog.resolver q term columns options).outcome = .error failure ∧
        ((∀ other ∈ columns, ∃ read, Entry.ofText other = .ok read) →
          failure.isUnresolved = true)) := by
  refine ⟨Searcher.keepsToColumn_ofConfig, ?_, ?_⟩
  · intro found hs
    obtain ⟨targets, hr, rfl⟩ := s.exists_resolveAll_of_outcome catalog.resolver options halone hs
    have hgrounds : ∀ target ∈ targets, catalog.GroundsTarget q.table target := by
      intro target ht
      obtain ⟨_, -, _, -, hresolved⟩ := exists_left_of_mem (resolveAll_eq_ok_iff.1 hr) ht
      exact Catalog.groundsTarget_of_resolve hresolved
    exact ⟨targets, _, _, s.attached_appends q targets _ _, hgrounds, s.filters_attached q targets _ _,
      s.order_attached q targets _ _, fun he => s.groundsAddition_attached q he hgrounds _ _⟩
  · intro text ht entry hread h
    exact s.exists_failure_of_not_declaresEntry catalog options halone ht hread h

theorem search_refers_to_declared_people :
    (∃ found filter order,
      ((Searcher.ofConfig {}).search people.resolver earlierPeople (some "Jane")
        ["manager.name", "name"] {}).outcome = .ok found ∧
      found.filters = earlierPeople.filters ++ [filter] ∧
      found.order = earlierPeople.order ++ order ∧
      people.GroundsAddition "users" filter order) ∧
    ∃ failure,
      ((Searcher.ofConfig {}).search people.resolver earlierPeople (some "Jane")
        ["manager.phone", "name"] {}).outcome = .error failure ∧ failure.isUnresolved = true := by
  obtain ⟨hconfig, hok, -⟩ := search_refers_to_declared (.ofConfig {}) people earlierPeople {}
    not_leftAlone_people
  have hsearched : ¬ earlierPeople.LeftAlone (some "Jane") ["manager.phone", "name"] :=
    Select.not_leftAlone rfl (by decide) (List.cons_ne_nil _ _)
  obtain ⟨-, -, herror⟩ := search_refers_to_declared (.ofConfig {}) people earlierPeople {} hsearched
  obtain ⟨found, hs⟩ : ∃ found, ((Searcher.ofConfig {}).search people.resolver earlierPeople
      (some "Jane") ["manager.name", "name"] {}).outcome = .ok found := ⟨_, rfl⟩
  obtain ⟨_, filter, order, -, -, hf, ho, hg⟩ := hok found hs
  have hphone : ¬ people.DeclaresEntry "users" (.related "manager" "phone") := by
    rintro ⟨r, hr, u, hu, hn⟩
    obtain rfl := Except.ok.inj hr
    obtain rfl := Option.some.inj hu
    exact absurd hn (by decide)
  obtain ⟨failure, he, hu⟩ := herror _ (List.mem_cons_self ..) (.related "manager" "phone") rfl hphone
  refine ⟨⟨found, filter, order, hs, hf, ho, hg (hconfig {})⟩, failure, he, hu ?_⟩
  intro other hother
  rcases List.mem_cons.1 hother with rfl | hother
  · exact ⟨_, rfl⟩
  · obtain rfl := List.mem_singleton.1 hother
    exact ⟨_, rfl⟩

def untied : Catalog :=
  (Catalog.empty.register ((TableDef.named "users").columns ["id", "name"])).register
    (((TableDef.named "posts").columns ["id", "title"]).belongsTo "user" "users" "user_id" "id")

theorem undeclared_key_searched :
    ¬ (Select.ofTable "posts" .postgres).LeftAlone (some "Jane") ["user.name"] ∧
    ∃ found link filter,
      ((Searcher.ofConfig {}).search untied.resolver (.ofTable "posts" .postgres) (some "Jane")
        ["user.name"] {}).outcome = .ok found ∧
      found.filters = [.linked link filter] ∧ link.outerKey = ⟨"posts", "user_id"⟩ ∧
      ¬ untied.Declares link.outerKey := by
  refine ⟨Select.not_leftAlone rfl (by decide) (List.cons_ne_nil _ _), _,
    ⟨"users", "user_rel", ⟨"user_rel", "id"⟩, ⟨"posts", "user_id"⟩⟩, _, rfl, rfl, rfl, ?_⟩
  rintro ⟨t, ht, hn⟩
  obtain rfl := Option.some.inj ht
  exact absurd hn (by decide)

end TermSearch
