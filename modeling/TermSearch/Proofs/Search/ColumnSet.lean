import TermSearch.Proofs.Search.Outcome
import TermSearch.Proofs.Search.Ranking

/-! The columns of a search count as a set. Neither their order nor a repeated column changes what a
search says of a row, and with more columns no row is lost and no score gets smaller. -/

namespace TermSearch

/-- What a search has added to a query: a filter and, where the rows are ordered, the scores whose
greatest orders them. -/
structure Select.Gains (q found : Select) (filter : Condition) (ranking : Option (List Score)) :
    Prop where
  filters : found.filters = q.filters ++ [filter]
  order : found.order =
    q.order ++ (ranking.map fun scores => ⟨.greatest scores, .descending⟩).toList

section Targets

variable (e : Engine) (t : Term) (r : Rules)

def targetFilter (targets : List Target) : Condition :=
  .anyOf (targets.map (Target.condition e t r))

def targetScores (targets : List Target) : List Score :=
  (targets.filterMap Target.ownColumn?).map fun c => e.score c t r

def ranking? (targets : List Target) : Option (List Score) :=
  if r.orderByBestMatch && !(targetScores e t r targets).isEmpty then
    some (targetScores e t r targets)
  else none

theorem bestMatchOrder?_eq_map_ranking? (targets : List Target) :
    bestMatchOrder? e targets t r =
      (ranking? e t r targets).map fun scores => ⟨.greatest scores, .descending⟩ := by
  rw [ranking?, apply_ite (Option.map _)]
  rfl

variable {e t r} {targets targets' : List Target}

theorem mem_ranking?_iff {scores : List Score} :
    scores ∈ ranking? e t r targets ↔
      r.orderByBestMatch = true ∧ targetScores e t r targets ≠ [] ∧
        targetScores e t r targets = scores := by
  simp [ranking?, and_assoc]

theorem exists_greatestOf_of_mem_ranking? {t' : Term} {like : TextView → String → Truth}
    {scores scores' : List Score} (hs : scores ∈ ranking? e t r targets)
    (hs' : scores' ∈ ranking? e t' r targets')
    (h : Score.greatestOf like (targetScores e t r targets) =
      Score.greatestOf like (targetScores e t' r targets')) :
    ∃ score, Score.greatestOf like scores = some score ∧
      Score.greatestOf like scores' = some score := by
  obtain ⟨-, hne, rfl⟩ := mem_ranking?_iff.1 hs
  obtain ⟨-, -, rfl⟩ := mem_ranking?_iff.1 hs'
  obtain ⟨score, hscore, -⟩ := Score.exists_greatestOf like hne
  exact ⟨score, hscore, h ▸ hscore⟩

theorem targetScores_subset (h : targets ⊆ targets') :
    targetScores e t r targets ⊆ targetScores e t r targets' :=
  List.map_subset _ (List.filterMap_subset _ h)

theorem isSome_ranking?_iff :
    (ranking? e t r targets).isSome = true ↔
      r.orderByBestMatch = true ∧ targetScores e t r targets ≠ [] := by
  simp [ranking?]

theorem isSome_ranking?_congr (h : targets ⊆ targets') (h' : targets' ⊆ targets) :
    (ranking? e t r targets).isSome = (ranking? e t r targets').isSome := by
  have hscores : targetScores e t r targets ⊆ targetScores e t r targets' := targetScores_subset h
  have hscores' : targetScores e t r targets' ⊆ targetScores e t r targets :=
    targetScores_subset h'
  have hnone : targetScores e t r targets = [] ↔ targetScores e t r targets' = [] :=
    ⟨fun he => List.subset_nil.1 (he ▸ hscores'), fun he => List.subset_nil.1 (he ▸ hscores)⟩
  rw [Bool.eq_iff_iff, isSome_ranking?_iff, isSome_ranking?_iff, Ne, hnone]

theorem truth_targetFilter_congr {ρ : Type} (I : Reading ρ) (p : ρ) (h : targets ⊆ targets')
    (h' : targets' ⊆ targets) :
    (targetFilter e t r targets).truth I p =
      (targetFilter e t r targets').truth I p := by
  rw [targetFilter, targetFilter, Condition.truth_anyOf, Condition.truth_anyOf]
  apply Truth.any_congr
  intro truth
  simp only [List.mem_map, exists_exists_and_eq_and]
  exact exists_congr fun target => and_congr_left fun _ => ⟨@h target, @h' target⟩

theorem truth_targetFilter_mono {ρ : Type} (I : Reading ρ) (p : ρ) (h : targets ⊆ targets')
    (hy : (targetFilter e t r targets).truth I p = .yes) :
    (targetFilter e t r targets').truth I p = .yes := by
  rw [targetFilter, Condition.truth_anyOf_eq_yes_iff] at hy ⊢
  obtain ⟨c, hc, hy⟩ := hy
  exact ⟨c, List.map_subset _ h hc, hy⟩

end Targets

namespace Searcher

variable (s : Searcher) (names : Resolver) {q : Select} {term : Option String}
  {columns : List String} (options : Options)

theorem gains_attached (q : Select) (targets : List Target) (t : Term) (r : Rules) :
    q.Gains (s.attached q targets t r) (targetFilter s.engine t r targets)
      (ranking? s.engine t r targets) where
  filters := s.filters_attached q targets t r
  order := by rw [s.order_attached, bestMatchOrder?_eq_map_ranking?]

theorem exists_gains (h : ¬ q.LeftAlone term columns) {found : Select}
    (hs : (s.search names q term columns options).outcome = .ok found) :
    ∃ targets, List.Forall₂ (StandsFor names q.table) columns targets ∧
      q.Gains found
        (targetFilter s.engine (.ofText (term.getD "") (s.config.rules options))
          (s.config.rules options) targets)
        (ranking? s.engine (.ofText (term.getD "") (s.config.rules options))
          (s.config.rules options) targets) := by
  obtain ⟨targets, hr, rfl⟩ := s.exists_resolveAll_of_outcome names options h hs
  exact ⟨targets, resolveAll_eq_ok_iff.1 hr, s.gains_attached q targets _ _⟩

theorem exists_outcome_iff_standsFor (h : ¬ q.LeftAlone term columns) :
    (∃ found, (s.search names q term columns options).outcome = .ok found) ↔
      ∀ text ∈ columns, ∃ target, StandsFor names q.table text target := by
  constructor
  · rintro ⟨found, hs⟩ text htext
    obtain ⟨targets, hall, -⟩ := s.exists_gains names options h hs
    obtain ⟨target, -, hx⟩ := exists_right_of_mem hall htext
    exact ⟨target, hx⟩
  · intro hall
    obtain ⟨targets, hr⟩ := exists_resolveAll hall
    exact ⟨_, by rw [s.search_of_not_leftAlone names options h, hr]⟩

end Searcher

/-- Two lists with the same columns make searches that succeed together, say the same of every row,
and rank it the same. With more columns no row is lost, and the score is at least what it was. -/
theorem columns_searched_as_set (s : Searcher) (names : Resolver) (q : Select) (term : String)
    (options : Options) (hq : q.dialect = .postgres) (ht : Text.trim term ≠ "") :
    (∀ columns columns' : List String, columns ≠ [] → columns' ≠ [] →
      (∀ text, text ∈ columns ↔ text ∈ columns') →
      ((∃ found, (s.search names q (some term) columns options).outcome = .ok found) ↔
        ∃ found', (s.search names q (some term) columns' options).outcome = .ok found') ∧
      ∀ found found', (s.search names q (some term) columns options).outcome = .ok found →
        (s.search names q (some term) columns' options).outcome = .ok found' →
        ∃ filter filter' ranking ranking', q.Gains found filter ranking ∧
          q.Gains found' filter' ranking' ∧ ranking.isSome = ranking'.isSome ∧
          ∀ (ρ : Type) (I : Reading ρ) (p : ρ), filter.truth I p = filter'.truth I p ∧
            ∀ scores ∈ ranking, ∀ scores' ∈ ranking', ∃ score,
              Score.greatestOf (I.like p) scores = some score ∧
              Score.greatestOf (I.like p) scores' = some score) ∧
    (∀ columns columns' : List String, columns ≠ [] → columns ⊆ columns' →
      ∀ found found', (s.search names q (some term) columns options).outcome = .ok found →
        (s.search names q (some term) columns' options).outcome = .ok found' →
        ∃ filter filter' ranking ranking', q.Gains found filter ranking ∧
          q.Gains found' filter' ranking' ∧
          ∀ (ρ : Type) (I : Reading ρ) (p : ρ),
            (filter.truth I p = .yes → filter'.truth I p = .yes) ∧
            ∀ scores ∈ ranking, ∀ scores' ∈ ranking', ∃ score score',
              Score.greatestOf (I.like p) scores = some score ∧
              Score.greatestOf (I.like p) scores' = some score' ∧ score ≤ score') := by
  constructor
  · intro columns columns' hc hc' hsame
    have ha := Select.not_leftAlone hq ht hc
    have ha' := Select.not_leftAlone hq ht hc'
    refine ⟨?_, fun found found' hs hs' => ?_⟩
    · rw [s.exists_outcome_iff_standsFor names options ha,
        s.exists_outcome_iff_standsFor names options ha']
      simp only [hsame]
    obtain ⟨targets, hall, hgains⟩ := s.exists_gains names options ha hs
    obtain ⟨targets', hall', hgains'⟩ := s.exists_gains names options ha' hs'
    have hle : targets ⊆ targets' := targets_subset hall hall' fun text => (hsame text).1
    have hge : targets' ⊆ targets := targets_subset hall' hall fun text => (hsame text).2
    refine ⟨_, _, _, _, hgains, hgains', isSome_ranking?_congr hle hge, fun ρ I p => ⟨?_, ?_⟩⟩
    · exact truth_targetFilter_congr I p hle hge
    · intro scores hscores scores' hscores'
      obtain ⟨-, hne, -⟩ := mem_ranking?_iff.1 hscores
      exact exists_greatestOf_of_mem_ranking? hscores hscores'
        (Score.greatestOf_eq_of_subset (I.like p) hne (targetScores_subset hle)
          (targetScores_subset hge))
  · intro columns columns' hc hmore found found' hs hs'
    have hc' : columns' ≠ [] := fun he => hc (List.subset_nil.1 (he ▸ hmore))
    obtain ⟨targets, hall, hgains⟩ :=
      s.exists_gains names options (Select.not_leftAlone hq ht hc) hs
    obtain ⟨targets', hall', hgains'⟩ :=
      s.exists_gains names options (Select.not_leftAlone hq ht hc') hs'
    have hle : targets ⊆ targets' := targets_subset hall hall' hmore
    refine ⟨_, _, _, _, hgains, hgains', fun ρ I p => ⟨truth_targetFilter_mono I p hle, ?_⟩⟩
    intro scores hscores scores' hscores'
    obtain ⟨-, hne, rfl⟩ := mem_ranking?_iff.1 hscores
    obtain ⟨-, -, rfl⟩ := mem_ranking?_iff.1 hscores'
    exact Score.greatestOf_le_of_subset (I.like p) hne (targetScores_subset hle)

theorem columns_searched_as_set_people :
    (Select.ofTable "users" .postgres).dialect = .postgres ∧ Text.trim "Jane" ≠ "" ∧
    (∃ found found',
      ((Searcher.ofConfig {}).search people.resolver (.ofTable "users" .postgres) (some "Jane")
        ["name"] {}).outcome = .ok found ∧
      ((Searcher.ofConfig {}).search people.resolver (.ofTable "users" .postgres) (some "Jane")
        ["name", "name"] {}).outcome = .ok found' ∧
      ∃ filter filter' ranking ranking',
        (Select.ofTable "users" .postgres).Gains found filter ranking ∧
        (Select.ofTable "users" .postgres).Gains found' filter' ranking' ∧
        ranking.isSome = ranking'.isSome ∧
        ∀ (ρ : Type) (I : Reading ρ) (p : ρ), filter.truth I p = filter'.truth I p) ∧
    ∃ found found',
      ((Searcher.ofConfig {}).search people.resolver (.ofTable "users" .postgres) (some "Jane")
        ["name"] {}).outcome = .ok found ∧
      ((Searcher.ofConfig {}).search people.resolver (.ofTable "users" .postgres) (some "Jane")
        ["manager.name", "name"] {}).outcome = .ok found' ∧
      ∃ filter filter' ranking ranking',
        (Select.ofTable "users" .postgres).Gains found filter ranking ∧
        (Select.ofTable "users" .postgres).Gains found' filter' ranking' ∧
        ∀ (ρ : Type) (I : Reading ρ) (p : ρ),
          filter.truth I p = .yes → filter'.truth I p = .yes := by
  have hq : (Select.ofTable "users" .postgres).dialect = .postgres := rfl
  have ht : Text.trim "Jane" ≠ "" := by decide
  obtain ⟨hset, hmore⟩ := columns_searched_as_set (.ofConfig {}) people.resolver
    (.ofTable "users" .postgres) "Jane" {} hq ht
  obtain ⟨found, hs⟩ : ∃ found, ((Searcher.ofConfig {}).search people.resolver
      (.ofTable "users" .postgres) (some "Jane") ["name"] {}).outcome = .ok found := ⟨_, rfl⟩
  obtain ⟨-, hsame⟩ := hset ["name"] ["name", "name"] (by decide) (by decide) (by simp)
  refine ⟨hq, ht, ?_, ?_⟩
  · obtain ⟨found', hs'⟩ : ∃ found', ((Searcher.ofConfig {}).search people.resolver
        (.ofTable "users" .postgres) (some "Jane") ["name", "name"] {}).outcome = .ok found' :=
      ⟨_, rfl⟩
    obtain ⟨filter, filter', ranking, ranking', hg, hg', hranked, hrows⟩ :=
      hsame found found' hs hs'
    exact ⟨found, found', hs, hs', filter, filter', ranking, ranking', hg, hg', hranked,
      fun ρ I p => (hrows ρ I p).1⟩
  · obtain ⟨found', hs'⟩ : ∃ found', ((Searcher.ofConfig {}).search people.resolver
        (.ofTable "users" .postgres) (some "Jane") ["manager.name", "name"] {}).outcome =
        .ok found' := ⟨_, rfl⟩
    obtain ⟨filter, filter', ranking, ranking', hg, hg', hrows⟩ :=
      hmore ["name"] ["manager.name", "name"] (by decide) (by simp) found found' hs hs'
    exact ⟨found, found', hs, hs', filter, filter', ranking, ranking', hg, hg',
      fun ρ I p => (hrows ρ I p).1⟩

end TermSearch
