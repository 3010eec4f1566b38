import TermSearch.Proofs.Search.Resolution
import TermSearch.Proofs.Term

/-! How a search ends where it does not fail: its query stays as it is, or gets one more filter and at
most one more clause in its order. -/

namespace TermSearch

def Select.LeftAlone (q : Select) (term : Option String) (columns : List String) : Prop :=
  (∀ text ∈ term, Text.trim text = "") ∨ columns = [] ∨ q.dialect ≠ .postgres

theorem Select.not_leftAlone {q : Select} {term : String} {columns : List String}
    (hq : q.dialect = .postgres) (ht : Text.trim term ≠ "") (hc : columns ≠ []) :
    ¬ q.LeftAlone (some term) columns := by
  rintro (hblank | hnone | hother)
  · exact ht (hblank term rfl)
  · exact hc hnone
  · exact hother hq

theorem Select.leftAlone_congr (q : Select) (columns : List String) {term term' : String}
    (h : Text.trim term = "" ↔ Text.trim term' = "") :
    q.LeftAlone (some term) columns ↔ q.LeftAlone (some term') columns := by
  simp only [LeftAlone, Option.mem_some_iff, forall_eq', h]

theorem Select.leftAlone_iff_of_ne (q : Select) (columns : List String) {term term' : String}
    (h : Text.trim term ≠ "") (h' : Text.trim term' ≠ "") :
    q.LeftAlone (some term) columns ↔ q.LeftAlone (some term') columns :=
  q.leftAlone_congr columns (iff_of_false h h')

theorem trim_getD_eq_empty_iff (term : Option String) :
    Text.trim (term.getD "") = "" ↔ ∀ text ∈ term, Text.trim text = "" := by
  cases term with
  | none => exact iff_of_true (by decide) fun _ h => nomatch h
  | some text => simp

theorem Passthrough.of?_eq_some_iff {q : Select} {text : String} {columns : List String}
    {p : Passthrough} :
    of? q text columns = some p ↔
      text = "" ∧ .blankTerm = p ∨
      text ≠ "" ∧ columns = [] ∧ .noColumns = p ∨
      text ≠ "" ∧ columns ≠ [] ∧ q.dialect ≠ .postgres ∧ .unsupported q.dialect = p := by
  by_cases ht : text = ""
  · simp [of?, ht]
  · by_cases hc : columns = []
    · simp [of?, ht, hc]
    · by_cases hq : q.dialect = .postgres <;> simp [of?, ht, hc, hq]

theorem Passthrough.of?_congr (q : Select) (columns : List String) {text text' : String}
    (h : text = "" ↔ text' = "") : of? q text columns = of? q text' columns := by
  have hempty : text.isEmpty = text'.isEmpty := by
    rw [Bool.eq_iff_iff, String.isEmpty_iff, String.isEmpty_iff, h]
  rw [of?, of?, hempty]

theorem Passthrough.of?_eq_none_iff (q : Select) (term : Option String) (columns : List String) :
    of? q (Text.trim (term.getD "")) columns = none ↔ ¬ q.LeftAlone term columns := by
  rw [Select.LeftAlone, ← trim_getD_eq_empty_iff]
  by_cases ht : Text.trim (term.getD "") = ""
  · simp [of?, ht]
  · by_cases hc : columns = []
    · simp [of?, ht, hc]
    · by_cases hq : q.dialect = .postgres <;> simp [of?, ht, hc, hq]

namespace Searcher

theorem engine_ofConfig (config : Config) : (ofConfig config).engine = .ilike := by
  obtain ⟨_, _, _, _, engine⟩ := config
  cases engine
  rfl

variable (s : Searcher) (names : Resolver) {q : Select} {term : Option String}
  {columns : List String} (options : Options)

theorem search_of_passthrough {p : Passthrough}
    (h : Passthrough.of? q (Text.trim (term.getD "")) columns = some p) :
    s.search names q term columns options = ⟨.ok q, p.journal q.table⟩ := by
  rw [search]
  simp only [h]

theorem search_congr (q : Select) (columns : List String) {term term' : Option String}
    (h : Text.trim (term.getD "") = Text.trim (term'.getD "")) :
    s.search names q term columns options = s.search names q term' columns options := by
  simp only [search, h]

theorem search_trim (q : Select) (term : Option String) (columns : List String) :
    s.search names q (some (Text.trim (term.getD ""))) columns options =
      s.search names q term columns options :=
  s.search_congr names options q columns (Text.trim_trim _)

theorem search_of_leftAlone (h : q.LeftAlone term columns) :
    ∃ p : Passthrough, s.search names q term columns options = ⟨.ok q, p.journal q.table⟩ := by
  have hp := mt (Passthrough.of?_eq_none_iff q term columns).1 (not_not.2 h)
  obtain ⟨p, hp⟩ := Option.ne_none_iff_exists'.1 hp
  exact ⟨p, s.search_of_passthrough names options hp⟩

theorem search_of_not_leftAlone (h : ¬ q.LeftAlone term columns) :
    s.search names q term columns options =
      match resolveAll names q.table columns with
      | .error failure => ⟨.error failure, {}⟩
      | .ok targets =>
        let r := s.config.rules options
        let t := Term.ofText (term.getD "") r
        ⟨.ok (s.attached q targets t r), s.attachedJournal q targets t r⟩ := by
  have hp := (Passthrough.of?_eq_none_iff q term columns).2 h
  rw [search]
  cases resolveAll names q.table columns with
  | error failure => simp only [hp]
  | ok targets => simp only [hp, Term.ofText_trim]

theorem search_eq_attached {names : Resolver} {term : String} {targets : List Target}
    (hq : q.dialect = .postgres) (ht : Text.trim term ≠ "") (hc : columns ≠ [])
    (hr : resolveAll names q.table columns = .ok targets) :
    s.search names q (some term) columns options =
      ⟨.ok (s.attached q targets (Term.ofText term (s.config.rules options))
          (s.config.rules options)),
        s.attachedJournal q targets (Term.ofText term (s.config.rules options))
          (s.config.rules options)⟩ := by
  rw [s.search_of_not_leftAlone names options (Select.not_leftAlone hq ht hc), hr]
  rfl

theorem journal_of_error {failure : Failure}
    (hs : (s.search names q term columns options).outcome = .error failure) :
    (s.search names q term columns options).journal = {} := by
  by_cases h : q.LeftAlone term columns
  · obtain ⟨p, hp⟩ := s.search_of_leftAlone names options h
    rw [hp] at hs
    exact nomatch hs
  · rw [s.search_of_not_leftAlone names options h] at hs ⊢
    cases hr : resolveAll names q.table columns with
    | error other => rfl
    | ok targets =>
      rw [hr] at hs
      exact nomatch hs

theorem exists_resolveAll_of_outcome {found : Select} (h : ¬ q.LeftAlone term columns)
    (hs : (s.search names q term columns options).outcome = .ok found) :
    ∃ targets, resolveAll names q.table columns = .ok targets ∧
      found = s.attached q targets (Term.ofText (term.getD "") (s.config.rules options))
        (s.config.rules options) := by
  rw [s.search_of_not_leftAlone names options h] at hs
  cases hr : resolveAll names q.table columns with
  | error failure =>
    rw [hr] at hs
    exact nomatch hs
  | ok targets =>
    rw [hr] at hs
    exact ⟨targets, rfl, (Except.ok.inj hs).symm⟩

end Searcher

section Ranking

variable (targets : List Target) (r : Rules)

theorem ranked_or_unranked :
    (r.orderByBestMatch = true ∧ targets.filterMap Target.ownColumn? ≠ []) ∨
      (r.orderByBestMatch = false ∨ targets.filterMap Target.ownColumn? = []) := by
  cases r.orderByBestMatch with
  | false => exact .inr (.inl rfl)
  | true =>
    by_cases ho : targets.filterMap Target.ownColumn? = []
    · exact .inr (.inr ho)
    · exact .inl ⟨rfl, ho⟩

variable {targets r} {e : Engine} {t : Term}

theorem bestMatchOrder?_of_ranked (hr : r.orderByBestMatch = true)
    (ho : targets.filterMap Target.ownColumn? ≠ []) :
    bestMatchOrder? e targets t r =
      some ⟨.greatest ((targets.filterMap Target.ownColumn?).map fun c => e.score c t r),
        .descending⟩ := by
  have hempty : (targets.filterMap Target.ownColumn?).isEmpty = false :=
    List.isEmpty_eq_false_iff.2 ho
  rw [bestMatchOrder?, hr, List.isEmpty_map, hempty]
  rfl

theorem bestMatchOrder?_of_unranked
    (h : r.orderByBestMatch = false ∨ targets.filterMap Target.ownColumn? = []) :
    bestMatchOrder? e targets t r = none := by
  rw [bestMatchOrder?, List.isEmpty_map]
  rcases h with h | h <;> simp [h]

end Ranking

/-- The query with one more filter, and with one more clause in its order where the rules ask for it
and a column of the table itself is searched. Nothing else of the query changes. -/
structure Searcher.Appends (s : Searcher) (t : Term) (r : Rules) (targets : List Target)
    (q found : Select) : Prop where
  table : found.table = q.table
  dialect : found.dialect = q.dialect
  projection : found.projection = q.projection
  limit : found.limit = q.limit
  single : ∀ target, targets = [target] →
    found.filters = q.filters ++ [target.condition s.engine t r]
  several : targets.length ≠ 1 →
    found.filters = q.filters ++ [.any (targets.map (Target.condition s.engine t r))]
  own : ∀ c, (Target.own c).condition s.engine t r = s.engine.condition c t r
  related : ∀ relation c, (Target.related relation c).condition s.engine t r =
    .linked relation.link (s.engine.condition (c.through relation.innerName) t r)
  ranked : r.orderByBestMatch = true → targets.filterMap Target.ownColumn? ≠ [] →
    found.order = q.order ++
      [⟨.greatest ((targets.filterMap Target.ownColumn?).map fun c => s.engine.score c t r),
        .descending⟩]
  unranked : r.orderByBestMatch = false ∨ targets.filterMap Target.ownColumn? = [] →
    found.order = q.order

namespace Searcher

variable (s : Searcher) (q : Select) (targets : List Target) (t : Term) (r : Rules)

theorem filters_attached :
    (s.attached q targets t r).filters =
      q.filters ++ [.anyOf (targets.map (Target.condition s.engine t r))] := by
  rw [attached]
  split <;> rfl

theorem order_attached :
    (s.attached q targets t r).order = q.order ++ (bestMatchOrder? s.engine targets t r).toList := by
  rw [attached]
  cases bestMatchOrder? s.engine targets t r with
  | none => exact (List.append_nil _).symm
  | some clause => rfl

theorem attached_appends : s.Appends t r targets q (s.attached q targets t r) where
  table := by rw [attached]; split <;> rfl
  dialect := by rw [attached]; split <;> rfl
  projection := by rw [attached]; split <;> rfl
  limit := by rw [attached]; split <;> rfl
  single := by
    rintro target rfl
    exact s.filters_attached q [target] t r
  several h := by
    rw [s.filters_attached]
    match targets, h with
    | [], _ => rfl
    | _ :: _ :: _, _ => rfl
  own _ := rfl
  related _ _ := rfl
  ranked hr ho := by rw [s.order_attached, bestMatchOrder?_of_ranked hr ho]; rfl
  unranked h := by
    rw [s.order_attached, bestMatchOrder?_of_unranked h, Option.toList_none,
      List.append_nil]

variable {s q targets t r} {found : Select}

end Searcher

def people : Catalog :=
  Catalog.empty.register
    (((TableDef.named "users").columns ["id", "name", "manager_id"]).belongsTo "manager" "users"
      "manager_id" "id")

def earlierPeople : Select :=
  (((Select.ofTable "users" .postgres).whereEqual "id" (.integer 7)).orderByColumn "name"
    .ascending).limitTo 5

theorem not_leftAlone_people :
    ¬ earlierPeople.LeftAlone (some "Jane") ["manager.name", "name"] :=
  Select.not_leftAlone rfl (by decide) (List.cons_ne_nil _ _)

end TermSearch
