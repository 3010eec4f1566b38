import TermSearch.Proofs.Traversal
import TermSearch.Search.Searcher

/-! Resolution of the columns of a search: which target each entry stands for. -/

namespace TermSearch

namespace Entry

def hasDot (text : String) : Bool :=
  text.toList.contains '.'

theorem length_segments_of_hasDot {text : String} (h : hasDot text = true) :
    2 ≤ (segments text).length := by
  obtain ⟨before, after, ht⟩ := List.append_of_mem (List.contains_iff_mem.1 h)
  have hsplit : text.toList.splitOnP (· == '.') =
      before.splitOnP (· == '.') ++ after.splitOnP (· == '.') := by
    rw [ht]
    exact List.splitOnP_append_cons before after rfl
  have hbefore := List.length_pos_iff.2 (List.splitOnP_ne_nil (· == '.') before)
  have hafter := List.length_pos_iff.2 (List.splitOnP_ne_nil (· == '.') after)
  rw [segments, List.length_map, hsplit, List.length_append]
  omega

theorem length_segments_of_not_hasDot {text : String} (h : hasDot text = false) :
    (segments text).length = 1 := by
  have hplain : ∀ c ∈ text.toList, (c == '.') = false := by
    intro c hc
    rw [beq_eq_false_iff_ne]
    rintro rfl
    exact absurd (List.contains_iff_mem.2 hc) (Bool.eq_false_iff.1 h)
  rw [segments, List.length_map, List.splitOnP_eq_singleton hplain]
  rfl

theorem isOwn_of_ofText {text : String} {entry : Entry} (h : ofText text = .ok entry) :
    entry.isOwn = !hasDot text := by
  simp only [ofText] at h
  split at h
  · exact nomatch h
  · split at h
    next column hs =>
      obtain rfl := Except.ok.inj h
      cases hd : hasDot text with
      | false => rfl
      | true => exact absurd (length_segments_of_hasDot hd) (by simp [hs])
    next relation column hs =>
      obtain rfl := Except.ok.inj h
      cases hd : hasDot text with
      | false => exact absurd (length_segments_of_not_hasDot hd) (by simp [hs])
      | true => rfl
    next => exact nomatch h

end Entry

namespace Catalog

theorem isRegistered_iff {c : Catalog} {table : String} :
    c.isRegistered table = true ↔ ∃ t, c.defs.find? table = some t := by
  rw [isRegistered, NameMap.contains, Option.isSome_iff_exists]

theorem resolveTable_eq_ok_iff {c : Catalog} {table : String} {t : TableDef} :
    c.resolveTable table = .ok t ↔ c.defs.find? table = some t := by
  rw [resolveTable]
  cases c.defs.find? table with
  | none => simp
  | some u => simp

theorem resolveColumn_eq_ok_iff {c : Catalog} {table name : String} {column : Column} :
    c.resolveColumn table name = .ok column ↔
      ∃ t, c.defs.find? table = some t ∧ t.hasColumn name = true ∧ column = ⟨table, name⟩ := by
  simp only [resolveColumn, bind_eq_ok_iff, resolveTable_eq_ok_iff]
  refine exists_congr fun t => and_congr_right fun _ => ?_
  split
  next h => simp [h, eq_comm]
  next h => simp [h]

theorem resolveRelation_eq_ok_iff {c : Catalog} {table name : String} {r : Relation} :
    c.resolveRelation table name = .ok r ↔
      ∃ t d, c.defs.find? table = some t ∧ t.relations.find? name = some d ∧
        r = d.relation table name := by
  simp only [resolveRelation, bind_eq_ok_iff, resolveTable_eq_ok_iff]
  refine exists_congr fun t => ?_
  cases t.relations.find? name with
  | none => simp
  | some d => simp [eq_comm]

end Catalog

namespace Target

variable {catalog : Catalog} {table : String} {target : Target}

theorem resolve_own_eq_ok_iff {name : String} :
    resolve catalog.resolver table (.own name) = .ok target ↔
      ∃ t, catalog.defs.find? table = some t ∧ t.hasColumn name = true ∧
        target = .own ⟨table, name⟩ := by
  simp only [resolve, bind_eq_ok_iff, Catalog.resolver, Catalog.resolveColumn_eq_ok_iff]
  constructor
  · rintro ⟨_, ⟨t, ht, hn, rfl⟩, he⟩
    exact ⟨t, ht, hn, (Except.ok.inj he).symm⟩
  · rintro ⟨t, ht, hn, rfl⟩
    exact ⟨_, ⟨t, ht, hn, rfl⟩, rfl⟩

theorem resolve_related_eq_ok_iff {relation name : String} :
    resolve catalog.resolver table (.related relation name) = .ok target ↔
      ∃ t d u, catalog.defs.find? table = some t ∧ t.relations.find? relation = some d ∧
        catalog.defs.find? d.relatedTable = some u ∧ u.hasColumn name = true ∧
        target = .related (d.relation table relation) ⟨d.relatedTable, name⟩ := by
  simp only [resolve, bind_eq_ok_iff, Catalog.resolver, Catalog.resolveColumn_eq_ok_iff,
    Catalog.resolveRelation_eq_ok_iff]
  constructor
  · rintro ⟨_, ⟨t, d, ht, hd, rfl⟩, _, ⟨u, hu, hn, rfl⟩, he⟩
    rw [RelationDef.relatedTable_relation] at hu he
    exact ⟨t, d, u, ht, hd, hu, hn, (Except.ok.inj he).symm⟩
  · rintro ⟨t, d, u, ht, hd, hu, hn, rfl⟩
    refine ⟨_, ⟨t, d, ht, hd, rfl⟩, ⟨d.relatedTable, name⟩, ⟨u, ?_, hn, ?_⟩, rfl⟩
    · rw [RelationDef.relatedTable_relation, hu]
    · rw [RelationDef.relatedTable_relation]

end Target

def StandsFor (names : Resolver) (table text : String) (target : Target) : Prop :=
  ∃ entry, Entry.ofText text = .ok entry ∧ Target.resolve names table entry = .ok target

theorem StandsFor.unique {names : Resolver} {table text : String} {target other : Target}
    (h : StandsFor names table text target) (ho : StandsFor names table text other) :
    target = other := by
  obtain ⟨entry, he, hr⟩ := h
  obtain ⟨_, ho, hs⟩ := ho
  obtain rfl := Except.ok.inj (he.symm.trans ho)
  exact Except.ok.inj (hr.symm.trans hs)

theorem targets_subset {names : Resolver} {table : String} {columns columns' : List String}
    {targets targets' : List Target} (h : List.Forall₂ (StandsFor names table) columns targets)
    (h' : List.Forall₂ (StandsFor names table) columns' targets') (hsub : columns ⊆ columns') :
    targets ⊆ targets' := by
  intro target htarget
  obtain ⟨text, htext, hx⟩ := exists_left_of_mem h htarget
  obtain ⟨other, hother, ho⟩ := exists_right_of_mem h' (hsub htext)
  exact hx.unique ho ▸ hother

theorem Target.ownColumn?_eq_some_iff {target : Target} {c : Column} :
    target.ownColumn? = some c ↔ target = .own c := by
  cases target <;> simp [ownColumn?]

theorem Target.mem_ownColumns_iff {targets : List Target} {c : Column} :
    c ∈ targets.filterMap ownColumn? ↔ .own c ∈ targets := by
  simp only [List.mem_filterMap, ownColumn?_eq_some_iff, exists_eq_right]

theorem StandsFor.isSome_ownColumn? {names : Resolver} {table text : String} {target : Target}
    (h : StandsFor names table text target) : target.ownColumn?.isSome = !Entry.hasDot text := by
  obtain ⟨entry, he, hr⟩ := h
  rw [← Entry.isOwn_of_ofText he]
  cases entry with
  | own name =>
    obtain ⟨c, -, hc⟩ := bind_eq_ok_iff.1 hr
    obtain rfl := Except.ok.inj hc
    rfl
  | related relation name =>
    obtain ⟨r, -, hr⟩ := bind_eq_ok_iff.1 hr
    obtain ⟨c, -, hc⟩ := bind_eq_ok_iff.1 hr
    obtain rfl := Except.ok.inj hc
    rfl

theorem length_ownColumns {names : Resolver} {table : String} {columns : List String}
    {targets : List Target} (h : List.Forall₂ (StandsFor names table) columns targets) :
    (targets.filterMap Target.ownColumn?).length =
      columns.countP fun text => !Entry.hasDot text := by
  induction h with
  | nil => rfl
  | @cons text target _ _ hx _ ih =>
    rw [List.countP_cons, ← ih, ← hx.isSome_ownColumn?]
    cases ho : target.ownColumn? with
    | none => rw [List.filterMap_cons_none ho]; rfl
    | some c => rw [List.filterMap_cons_some ho]; rfl

theorem resolveAll_eq_ok_iff {names : Resolver} {table : String} {columns : List String}
    {targets : List Target} :
    resolveAll names table columns = .ok targets ↔
      List.Forall₂ (StandsFor names table) columns targets := by
  simp only [resolveAll, Entry.ofTexts, bind_eq_ok_iff, mapM_eq_ok_iff]
  constructor
  · rintro ⟨entries, he, ht⟩
    induction he generalizing targets with
    | nil => exact List.forall₂_nil_left_iff.1 ht ▸ .nil
    | cons h _ ih =>
      obtain ⟨target, rest, hx, hr, rfl⟩ := List.forall₂_cons_left_iff.1 ht
      exact .cons ⟨_, h, hx⟩ (ih hr)
  · intro h
    induction h with
    | nil => exact ⟨[], .nil, .nil⟩
    | cons hx _ ih =>
      obtain ⟨entry, he, ht⟩ := hx
      obtain ⟨entries, hes, hts⟩ := ih
      exact ⟨entry :: entries, .cons he hes, .cons ht hts⟩

theorem exists_resolveAll {names : Resolver} {table : String} {columns : List String}
    (h : ∀ text ∈ columns, ∃ target, StandsFor names table text target) :
    ∃ targets, resolveAll names table columns = .ok targets := by
  simp only [resolveAll_eq_ok_iff]
  exact exists_forall₂_iff.2 h

end TermSearch
