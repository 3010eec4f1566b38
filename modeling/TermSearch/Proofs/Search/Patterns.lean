import TermSearch.Proofs.Search.Outcome
import TermSearch.Statement.RenderingValues

/-! The values that searches add to a statement. Those of its filters come before those of its order,
so the patterns of one search are parted by whatever the query was ordered by before. -/

namespace TermSearch

def Value.containing (s : String) : Value :=
  .text (Text.containing s)

namespace Term

def filterTexts (t : Term) (r : Rules) : List String :=
  t.raw :: if r.normalize then t.normalized :: t.matchTokens r else []

/-- What a column of the table itself is ranked by; tokens count without normalization as well. -/
def orderTexts (t : Term) (r : Rules) : List String :=
  t.raw :: (if r.normalize then [t.normalized] else []) ++ t.matchTokens r

end Term

theorem Condition.values_anyOf (cs : List Condition) : (anyOf cs).values = cs.flatMap values := by
  match cs with
  | [] => rfl
  | [c] => rw [anyOf, List.flatMap_singleton]
  | c :: d :: rest => exact valuesOfAll_eq_flatMap (c :: d :: rest)

namespace Engine

variable (c : Column) (t : Term) (r : Rules)

theorem flatMap_values_contains (v : TextView) (texts : List String) :
    (texts.map v.contains).flatMap Condition.values = texts.map Value.containing := by
  rw [List.flatMap_map]
  exact List.map_eq_flatMap.symm

theorem values_condition_ilike :
    (ilike.condition c t r).values = (t.filterTexts r).map Value.containing := by
  have htokens : (if (t.matchTokens r).isEmpty then [] else
      [Condition.any ((t.matchTokens r).map (TextView.stripped c).contains)]).flatMap
        Condition.values = (t.matchTokens r).map Value.containing := by
    cases t.matchTokens r with
    | nil => rfl
    | cons token tokens =>
      rw [List.isEmpty_cons, if_neg Bool.false_ne_true, List.flatMap_singleton, Condition.values,
        Condition.valuesOfAll_eq_flatMap, flatMap_values_contains]
  rw [ilike, Condition.values_anyOf, clauses, Term.filterTexts, List.flatMap_cons, List.map_cons]
  refine congrArg (Value.containing t.raw :: ·) ?_
  cases r.normalize with
  | false => rfl
  | true => exact congrArg (Value.containing t.normalized :: ·) htokens

theorem values_score_ilike :
    (ilike.score c t r).values = (t.orderTexts r).map Value.containing := by
  simp only [Score.values, ilike, branches, Term.orderTexts]
  cases r.normalize with
  | false => simp [TextView.branch, Value.containing]
  | true => simp [TextView.branch, Value.containing]

end Engine

theorem Target.values_condition_ilike (t : Term) (r : Rules) (target : Target) :
    (target.condition .ilike t r).values = (t.filterTexts r).map Value.containing := by
  cases target with
  | own c => exact Engine.values_condition_ilike c t r
  | related relation c => exact Engine.values_condition_ilike _ t r

theorem flatMap_const_congr {α β γ : Type} {xs : List α} {ys : List β} (h : xs.length = ys.length)
    (values : List γ) : (xs.flatMap fun _ => values) = ys.flatMap fun _ => values := by
  rw [List.flatMap_def, List.flatMap_def, List.map_const', List.map_const', h]

section Targets

variable {names : Resolver} {table : String} {columns : List String} {targets : List Target}

theorem values_targets (h : List.Forall₂ (StandsFor names table) columns targets) (t : Term)
    (r : Rules) :
    (targets.map (Target.condition .ilike t r)).flatMap Condition.values =
      columns.flatMap fun _ => (t.filterTexts r).map Value.containing := by
  rw [List.flatMap_map]
  simp only [Target.values_condition_ilike]
  exact flatMap_const_congr h.length_eq.symm _

theorem values_ownColumns (h : List.Forall₂ (StandsFor names table) columns targets) (t : Term)
    (r : Rules) :
    ((targets.filterMap Target.ownColumn?).map fun c => Engine.ilike.score c t r).flatMap
        Score.values =
      (columns.filter fun text => !Entry.hasDot text).flatMap fun _ =>
        (t.orderTexts r).map Value.containing := by
  rw [List.flatMap_map]
  simp only [Engine.values_score_ilike]
  apply flatMap_const_congr
  rw [length_ownColumns h, List.countP_eq_length_filter]

theorem values_bestMatchOrder? (h : List.Forall₂ (StandsFor names table) columns targets)
    (t : Term) (r : Rules) :
    (bestMatchOrder? .ilike targets t r).toList.flatMap OrderClause.values =
      if r.orderByBestMatch then
        (columns.filter fun text => !Entry.hasDot text).flatMap fun _ =>
          (t.orderTexts r).map Value.containing
      else [] := by
  rw [← values_ownColumns h]
  rcases ranked_or_unranked targets r with ⟨hr, ho⟩ | hu
  · rw [bestMatchOrder?_of_ranked hr ho, Option.toList_some, List.flatMap_singleton, if_pos hr]
    rfl
  · rw [bestMatchOrder?_of_unranked hu]
    rcases hu with hr | ho
    · rw [hr]
      rfl
    · rw [ho]
      exact (ite_self _).symm

end Targets

structure Inquiry where
  searcher : Searcher
  names : Resolver
  term : String
  columns : List String
  options : Options

namespace Inquiry

variable (i : Inquiry)

def ask (q : Select) : Except Failure Select :=
  (i.searcher.search i.names q (some i.term) i.columns i.options).outcome

def rules : Rules :=
  i.searcher.config.rules i.options

def parsed : Term :=
  .ofText i.term i.rules

def filterValues : List Value :=
  i.columns.flatMap fun _ => (i.parsed.filterTexts i.rules).map Value.containing

def orderValues : List Value :=
  if i.rules.orderByBestMatch then
    (i.columns.filter fun text => !Entry.hasDot text).flatMap fun _ =>
      (i.parsed.orderTexts i.rules).map Value.containing
  else []

structure Answerable (table : String) : Prop where
  engine : i.searcher.engine = .ilike
  term : Text.trim i.term ≠ ""
  columns : i.columns ≠ []
  resolved : ∀ text ∈ i.columns, ∃ target, StandsFor i.names table text target

structure Adds (q found : Select) (filterValues orderValues : List Value) : Prop where
  table : found.table = q.table
  dialect : found.dialect = q.dialect
  filters : found.filters.flatMap Condition.values =
    q.filters.flatMap Condition.values ++ filterValues
  order : found.order.flatMap OrderClause.values =
    q.order.flatMap OrderClause.values ++ orderValues

theorem Adds.values_statement {q found : Select} {filterValues orderValues : List Value}
    (h : Adds q found filterValues orderValues) :
    found.statement.values =
      q.filters.flatMap Condition.values ++ filterValues ++
        q.order.flatMap OrderClause.values ++ orderValues := by
  rw [found.values_statement, Select.values, Condition.valuesOfAll_eq_flatMap, h.filters, h.order,
    List.append_assoc _ _ orderValues]

theorem adds_attached {s : Searcher} (he : s.engine = .ilike) {names : Resolver} {q : Select}
    {columns : List String} {targets : List Target}
    (h : List.Forall₂ (StandsFor names q.table) columns targets) (t : Term) (r : Rules) :
    Adds q (s.attached q targets t r)
      (columns.flatMap fun _ => (t.filterTexts r).map Value.containing)
      (if r.orderByBestMatch then
        (columns.filter fun text => !Entry.hasDot text).flatMap fun _ =>
          (t.orderTexts r).map Value.containing
      else []) where
  table := (s.attached_appends q targets t r).table
  dialect := (s.attached_appends q targets t r).dialect
  filters := by
    rw [s.filters_attached, he, List.flatMap_append, List.flatMap_singleton,
      Condition.values_anyOf, values_targets h]
  order := by
    rw [s.order_attached, he, List.flatMap_append, values_bestMatchOrder? h]

theorem exists_adds {i : Inquiry} {q : Select} (hq : q.dialect = .postgres)
    (h : i.Answerable q.table) :
    ∃ found, i.ask q = .ok found ∧ Adds q found i.filterValues i.orderValues := by
  obtain ⟨targets, hr⟩ := exists_resolveAll h.resolved
  refine ⟨i.searcher.attached q targets i.parsed i.rules, ?_,
    adds_attached h.engine (resolveAll_eq_ok_iff.1 hr) i.parsed i.rules⟩
  rw [ask, i.searcher.search_eq_attached i.options hq h.term h.columns hr]
  rfl

def askAll (inquiries : List Inquiry) (q : Select) : Except Failure Select :=
  inquiries.foldlM (fun q i => i.ask q) q

theorem exists_adds_askAll {inquiries : List Inquiry} {q : Select} (hq : q.dialect = .postgres)
    (h : ∀ i ∈ inquiries, i.Answerable q.table) :
    ∃ found, askAll inquiries q = .ok found ∧
      Adds q found (inquiries.flatMap filterValues) (inquiries.flatMap orderValues) := by
  induction inquiries generalizing q with
  | nil => exact ⟨q, rfl, rfl, rfl, (List.append_nil _).symm, (List.append_nil _).symm⟩
  | cons i inquiries ih =>
    obtain ⟨hi, hrest⟩ := List.forall_mem_cons.1 h
    obtain ⟨next, hnext, ha⟩ := exists_adds hq hi
    obtain ⟨found, hfound, hb⟩ := ih (ha.dialect.trans hq) (ha.table.symm ▸ hrest)
    refine ⟨found, ?_, hb.table.trans ha.table, hb.dialect.trans ha.dialect, ?_, ?_⟩
    · rw [askAll, List.foldlM_cons, hnext]
      exact hfound
    · rw [hb.filters, ha.filters, List.flatMap_cons, List.append_assoc]
    · rw [hb.order, ha.order, List.flatMap_cons, List.append_assoc]

end Inquiry

/-- A search puts the values of its filter after those of the filters that were there, and the values
of its order after those of the order that was there. Searches that are made one after the other keep
to that: all filters come first, and all orders after them. -/
theorem search_values {q : Select} (hq : q.dialect = .postgres) :
    (∀ i : Inquiry, i.Answerable q.table → ∃ found, i.ask q = .ok found ∧
      found.statement.values =
        q.filters.flatMap Condition.values ++ i.filterValues ++
          q.order.flatMap OrderClause.values ++ i.orderValues) ∧
    ∀ inquiries : List Inquiry, (∀ i ∈ inquiries, i.Answerable q.table) →
      ∃ found, Inquiry.askAll inquiries q = .ok found ∧
        found.statement.values =
          q.filters.flatMap Condition.values ++ inquiries.flatMap Inquiry.filterValues ++
            q.order.flatMap OrderClause.values ++ inquiries.flatMap Inquiry.orderValues := by
  constructor
  · intro i hi
    obtain ⟨found, hfound, hadds⟩ := Inquiry.exists_adds hq hi
    exact ⟨found, hfound, hadds.values_statement⟩
  · intro inquiries hall
    obtain ⟨found, hfound, hadds⟩ := Inquiry.exists_adds_askAll hq hall
    exact ⟨found, hfound, hadds.values_statement⟩

def peopleInquiries : List Inquiry :=
  [⟨.ofConfig {}, people.resolver, "Jane Doe", ["manager.name", "name"], {}⟩,
    ⟨.ofConfig {}, people.resolver, "Jan-e", ["name"], { normalize := some false }⟩]

theorem answerable_peopleInquiries : ∀ i ∈ peopleInquiries, i.Answerable earlierPeople.table := by
  have hmanager : ∃ target, StandsFor people.resolver "users" "manager.name" target :=
    ⟨_, _, rfl, rfl⟩
  have hname : ∃ target, StandsFor people.resolver "users" "name" target := ⟨_, _, rfl, rfl⟩
  intro i hi
  rcases List.mem_cons.1 hi with rfl | hi
  · exact ⟨rfl, by decide, by decide, List.forall_mem_cons.2
      ⟨hmanager, List.forall_mem_singleton.2 hname⟩⟩
  · obtain rfl := List.mem_singleton.1 hi
    exact ⟨rfl, by decide, by decide, List.forall_mem_singleton.2 hname⟩

theorem search_values_people :
    earlierPeople.dialect = .postgres ∧ (∀ i ∈ peopleInquiries, i.Answerable earlierPeople.table) ∧
    ∃ found, Inquiry.askAll peopleInquiries earlierPeople = .ok found ∧
      found.statement.values =
        .integer 7 ::
          ["Jane Doe", "JaneDoe", "Jane", "Doe", "Jane Doe", "JaneDoe", "Jane", "Doe", "Jan-e",
            "Jane Doe", "JaneDoe", "Jane", "Doe", "Jan-e", "Jane"].map Value.containing := by
  have hq : earlierPeople.dialect = .postgres := rfl
  obtain ⟨found, hfound, hvalues⟩ := (search_values hq).2 _ answerable_peopleInquiries
  refine ⟨hq, answerable_peopleInquiries, found, hfound, hvalues.trans ?_⟩
  decide

end TermSearch
