import TermSearch.Proofs.Search.Outcome

/-! When a search fails, and with what. Every entry is read before the first one is resolved, so a
malformed entry counts before a name that is not declared, wherever the two stand. -/

namespace TermSearch

namespace Entry

inductive Malformed (text : String) : Failure → Prop where
  | emptySegment (h : "" ∈ segments text) : Malformed text (.configuration (.emptySegment text))
  | nestedPath (h : "" ∉ segments text) (hn : 2 < (segments text).length) :
    Malformed text (.configuration (.nestedPath text))

theorem segments_ne_nil (text : String) : segments text ≠ [] := by
  rw [segments, Ne, List.map_eq_nil_iff]
  exact List.splitOnP_ne_nil _ _

theorem any_isEmpty_segments_iff (text : String) :
    (segments text).any (·.isEmpty) = true ↔ "" ∈ segments text := by
  simp [List.any_eq_true, String.isEmpty_iff]

theorem malformed_iff_of_mem {text : String} {failure : Failure} (h : "" ∈ segments text) :
    Malformed text failure ↔ .configuration (.emptySegment text) = failure := by
  constructor
  · rintro (_ | hn)
    · rfl
    · exact absurd h hn
  · rintro rfl
    exact .emptySegment h

theorem malformed_iff_of_not_mem {text : String} {failure : Failure} (h : "" ∉ segments text) :
    Malformed text failure ↔
      2 < (segments text).length ∧ .configuration (.nestedPath text) = failure := by
  constructor
  · rintro (he | ⟨-, hn⟩)
    · exact absurd he h
    · exact ⟨hn, rfl⟩
  · rintro ⟨hn, rfl⟩
    exact .nestedPath h hn

theorem ofText_eq_error_iff {text : String} {failure : Failure} :
    ofText text = .error failure ↔ Malformed text failure := by
  simp only [ofText, any_isEmpty_segments_iff]
  split
  next he => rw [malformed_iff_of_mem he, Except.error.injEq]
  next he =>
    rw [malformed_iff_of_not_mem he]
    split
    next hs => simp [hs]
    next hs => simp [hs]
    next hone htwo =>
      -- Neither one segment nor two, and a text always has one.
      have hlength : 2 < (segments text).length := by
        rcases hs : segments text with _ | ⟨a, _ | ⟨b, _ | ⟨c, rest⟩⟩⟩
        · exact absurd hs (segments_ne_nil text)
        · exact absurd hs (hone a)
        · exact absurd hs (htwo a b)
        · simp
      simp [hlength]

end Entry

namespace Catalog

variable {c : Catalog} {table name : String} {failure : Failure}

inductive Lacks (c : Catalog) (table : String) : Entry → Failure → Prop where
  | table (entry : Entry) (h : c.defs.find? table = none) :
    Lacks c table entry (.unresolved .table table table)
  | column {t : TableDef} {name : String} (ht : c.defs.find? table = some t)
    (h : t.hasColumn name = false) : Lacks c table (.own name) (.unresolved .column table name)
  | relationship {t : TableDef} {relation name : String} (ht : c.defs.find? table = some t)
    (h : t.relations.find? relation = none) :
    Lacks c table (.related relation name) (.unresolved .relationship table relation)
  | relatedTable {t : TableDef} {d : RelationDef} {relation name : String}
    (ht : c.defs.find? table = some t) (hd : t.relations.find? relation = some d)
    (h : c.defs.find? d.relatedTable = none) :
    Lacks c table (.related relation name) (.unresolved .table d.relatedTable d.relatedTable)
  | relatedColumn {t u : TableDef} {d : RelationDef} {relation name : String}
    (ht : c.defs.find? table = some t) (hd : t.relations.find? relation = some d)
    (hu : c.defs.find? d.relatedTable = some u) (h : u.hasColumn name = false) :
    Lacks c table (.related relation name) (.unresolved .column d.relatedTable name)

theorem resolveTable_eq_error_iff :
    c.resolveTable table = .error failure ↔
      c.defs.find? table = none ∧ failure = .unresolved .table table table := by
  rw [resolveTable]
  cases c.defs.find? table with
  | none => simp [eq_comm]
  | some t => simp

theorem resolveColumn_eq_error_iff :
    c.resolveColumn table name = .error failure ↔
      (c.defs.find? table = none ∧ failure = .unresolved .table table table) ∨
        ∃ t, c.defs.find? table = some t ∧ t.hasColumn name = false ∧
          failure = .unresolved .column table name := by
  simp only [resolveColumn, bind_eq_error_iff, resolveTable_eq_error_iff, resolveTable_eq_ok_iff]
  refine or_congr_right (exists_congr fun t => and_congr_right fun _ => ?_)
  cases t.hasColumn name with
  | false => simp [eq_comm]
  | true => simp

theorem resolveRelation_eq_error_iff {relation : String} :
    c.resolveRelation table relation = .error failure ↔
      (c.defs.find? table = none ∧ failure = .unresolved .table table table) ∨
        ∃ t, c.defs.find? table = some t ∧ t.relations.find? relation = none ∧
          failure = .unresolved .relationship table relation := by
  simp only [resolveRelation, bind_eq_error_iff, resolveTable_eq_error_iff, resolveTable_eq_ok_iff]
  refine or_congr_right (exists_congr fun t => and_congr_right fun _ => ?_)
  cases t.relations.find? relation with
  | none => simp [eq_comm]
  | some d => simp

theorem resolve_eq_error_iff {entry : Entry} :
    Target.resolve c.resolver table entry = .error failure ↔ c.Lacks table entry failure := by
  cases entry with
  | own name =>
    simp only [Target.resolve, resolver, bind_eq_error_iff, resolveColumn_eq_error_iff]
    constructor
    · rintro ((⟨ht, rfl⟩ | ⟨t, ht, hn, rfl⟩) | ⟨_, -, h⟩)
      · exact .table _ ht
      · exact .column ht hn
      · cases h
    · intro h
      cases h with
      | table _ ht => exact .inl (.inl ⟨ht, rfl⟩)
      | column ht hn => exact .inl (.inr ⟨_, ht, hn, rfl⟩)
  | related relation name =>
    simp only [Target.resolve, resolver, bind_eq_error_iff, resolveRelation_eq_error_iff,
      resolveRelation_eq_ok_iff, resolveColumn_eq_error_iff]
    constructor
    · rintro ((⟨ht, rfl⟩ | ⟨t, ht, hn, rfl⟩) | ⟨_, ⟨t, d, ht, hd, rfl⟩, h⟩)
      · exact .table _ ht
      · exact .relationship ht hn
      · rw [RelationDef.relatedTable_relation] at h
        rcases h with (⟨hu, rfl⟩ | ⟨u, hu, hn, rfl⟩) | ⟨_, -, h⟩
        · exact .relatedTable ht hd hu
        · exact .relatedColumn ht hd hu hn
        · cases h
    · intro h
      cases h with
      | table _ ht => exact .inl (.inl ⟨ht, rfl⟩)
      | relationship ht hn => exact .inl (.inr ⟨_, ht, hn, rfl⟩)
      | relatedTable ht hd hu =>
        refine .inr ⟨_, ⟨_, _, ht, hd, rfl⟩, .inl (.inl ⟨?_, ?_⟩)⟩ <;>
          rw [RelationDef.relatedTable_relation]
        exact hu
      | relatedColumn ht hd hu hn =>
        refine .inr ⟨_, ⟨_, _, ht, hd, rfl⟩, .inl (.inr ⟨_, ?_, hn, ?_⟩)⟩ <;>
          rw [RelationDef.relatedTable_relation]
        exact hu

def LacksFor (c : Catalog) (table text : String) (failure : Failure) : Prop :=
  ∃ entry, Entry.ofText text = .ok entry ∧ c.Lacks table entry failure

theorem lacksFor_iff {text : String} {entry : Entry} (h : Entry.ofText text = .ok entry)
    (failure : Failure) : c.LacksFor table text failure ↔ c.Lacks table entry failure := by
  constructor
  · rintro ⟨other, ho, hl⟩
    obtain rfl : entry = other := Except.ok.inj (h.symm.trans ho)
    exact hl
  · intro hl
    exact ⟨entry, h, hl⟩

theorem resolveAll_eq_error_iff {columns : List String} :
    resolveAll c.resolver table columns = .error failure ↔
      First Entry.Malformed columns failure ∨
        (∀ text ∈ columns, ∀ other, ¬ Entry.Malformed text other) ∧
          First (c.LacksFor table) columns failure := by
  have hread : (∀ text ∈ columns, ∀ other, ¬ Entry.Malformed text other) ↔
      ∃ entries, List.Forall₂ (fun text entry => Entry.ofText text = .ok entry) columns entries := by
    simp only [exists_forall₂_iff, exists_ok_iff, Ne, Entry.ofText_eq_error_iff]
  simp only [resolveAll, Entry.ofTexts, bind_eq_error_iff, mapM_eq_error_iff, mapM_eq_ok_iff,
    Entry.ofText_eq_error_iff, resolve_eq_error_iff]
  refine or_congr Iff.rfl ?_
  constructor
  · rintro ⟨entries, he, hf⟩
    exact ⟨hread.2 ⟨entries, he⟩, (first_forall₂ he (fun _ _ h => lacksFor_iff h) failure).2 hf⟩
  · rintro ⟨hw, hf⟩
    obtain ⟨entries, he⟩ := hread.1 hw
    exact ⟨entries, he, (first_forall₂ he (fun _ _ h => lacksFor_iff h) failure).1 hf⟩

end Catalog

namespace Searcher

variable (s : Searcher) (catalog : Catalog) (q : Select) (term : Option String)
  (columns : List String) (options : Options)

theorem outcome_eq_error_iff (failure : Failure) :
    (s.search catalog.resolver q term columns options).outcome = .error failure ↔
      ¬ q.LeftAlone term columns ∧ (First Entry.Malformed columns failure ∨
        (∀ text ∈ columns, ∀ other, ¬ Entry.Malformed text other) ∧
          First (catalog.LacksFor q.table) columns failure) := by
  by_cases h : q.LeftAlone term columns
  · obtain ⟨p, hp⟩ := s.search_of_leftAlone catalog.resolver options h
    rw [hp]
    exact iff_of_false (fun he => nomatch he) fun hf => hf.1 h
  · rw [s.search_of_not_leftAlone catalog.resolver options h, ← Catalog.resolveAll_eq_error_iff]
    cases resolveAll catalog.resolver q.table columns with
    | error other => simp [h]
    | ok targets => simp [h]

theorem exists_outcome_eq_ok_iff :
    (∃ found, (s.search catalog.resolver q term columns options).outcome = .ok found) ↔
      q.LeftAlone term columns ∨ ∀ text ∈ columns, ∀ failure,
        ¬ Entry.Malformed text failure ∧ ¬ catalog.LacksFor q.table text failure := by
  rw [exists_ok_iff]
  constructor
  · intro hok
    by_cases ha : q.LeftAlone term columns
    · exact .inl ha
    · refine .inr fun text ht failure => not_or.1 fun hf => ?_
      obtain ⟨other, ho⟩ := exists_first_or_first_iff.2 ⟨text, ht, failure, hf⟩
      exact hok other ((s.outcome_eq_error_iff catalog q term columns options other).2 ⟨ha, ho⟩)
  · intro h failure hf
    obtain ⟨ha, hfirst⟩ := (s.outcome_eq_error_iff catalog q term columns options failure).1 hf
    obtain ⟨text, ht, other, ho⟩ := exists_first_or_first_iff.1 ⟨failure, hfirst⟩
    exact not_or.2 (h.resolve_left ha text ht other) ho

theorem journal_of_outcome_eq_error {failure : Failure}
    (hf : (s.search catalog.resolver q term columns options).outcome = .error failure) :
    (s.search catalog.resolver q term columns options).journal = {} :=
  s.journal_of_error catalog.resolver options hf

end Searcher

/-- A search fails when it searches at all and a column has a problem: with the first malformed entry
or, where there is none, with what the catalog lacks for the first entry that does not resolve. -/
theorem search_error_iff (s : Searcher) (catalog : Catalog) (q : Select) (term : Option String)
    (columns : List String) (options : Options) :
    (∀ failure, (s.search catalog.resolver q term columns options).outcome = .error failure ↔
      ¬ q.LeftAlone term columns ∧ (First Entry.Malformed columns failure ∨
        (∀ text ∈ columns, ∀ other, ¬ Entry.Malformed text other) ∧
          First (catalog.LacksFor q.table) columns failure)) ∧
    ((∃ found, (s.search catalog.resolver q term columns options).outcome = .ok found) ↔
      q.LeftAlone term columns ∨ ∀ text ∈ columns, ∀ failure,
        ¬ Entry.Malformed text failure ∧ ¬ catalog.LacksFor q.table text failure) ∧
    (∀ failure, (s.search catalog.resolver q term columns options).outcome = .error failure →
      (s.search catalog.resolver q term columns options).journal = {}) := by
  refine ⟨?_, ?_, ?_⟩
  · exact s.outcome_eq_error_iff catalog q term columns options
  · exact s.exists_outcome_eq_ok_iff catalog q term columns options
  · intro failure hf
    exact s.journal_of_outcome_eq_error catalog q term columns options hf

theorem search_error_nested :
    First Entry.Malformed ["name", "a.b.c", ".d"] (.configuration (.nestedPath "a.b.c")) ∧
    ((Searcher.ofConfig {}).search Catalog.empty.resolver (.ofTable "users" .postgres) (some "Jane")
      ["name", "a.b.c", ".d"] {}).outcome = .error (.configuration (.nestedPath "a.b.c")) ∧
    ((Searcher.ofConfig {}).search Catalog.empty.resolver (.ofTable "users" .postgres) (some "Jane")
      ["name", "a.b.c", ".d"] {}).journal = {} := by
  obtain ⟨herror, -, hjournal⟩ := search_error_iff (.ofConfig {}) Catalog.empty
    (.ofTable "users" .postgres) (some "Jane") ["name", "a.b.c", ".d"] {}
  have hsearched : ¬ (Select.ofTable "users" .postgres).LeftAlone (some "Jane")
      ["name", "a.b.c", ".d"] := by
    rintro (h | h | h)
    · exact absurd (h "Jane" rfl) (by decide)
    · exact nomatch h
    · exact h rfl
  -- The table of the first entry is not declared, and the malformed entry counts all the same.
  have hfirst : First Entry.Malformed ["name", "a.b.c", ".d"]
      (.configuration (.nestedPath "a.b.c")) := by
    refine ⟨["name"], "a.b.c", [".d"], rfl, ?_, .nestedPath (by decide) (by decide)⟩
    intro text ht other hm
    obtain rfl := List.mem_singleton.1 ht
    exact nomatch Entry.ofText_eq_error_iff.2 hm
  have he := (herror _).2 ⟨hsearched, .inl hfirst⟩
  exact ⟨hfirst, he, hjournal _ he⟩

end TermSearch
