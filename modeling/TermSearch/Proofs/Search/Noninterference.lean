import TermSearch.Proofs.Search.Outcome
import TermSearch.Proofs.Statement.Alike

/-! A term reaches a statement through its values alone. Two terms with equally many words to match
make queries that differ in their values, and are written as the same text. -/

namespace TermSearch

variable {R : Value → Value → Prop}

structure Term.Alike (R : Value → Value → Prop) (r : Rules) (t t' : Term) : Prop where
  raw : R (.text (Text.containing t.raw)) (.text (Text.containing t'.raw))
  normalized : r.normalize = true →
    R (.text (Text.containing t.normalized)) (.text (Text.containing t'.normalized))
  tokens : List.Forall₂ (fun a b => R (.text (Text.containing a)) (.text (Text.containing b)))
    (t.matchTokens r) (t'.matchTokens r)

structure Engine.Alike (R : Value → Value → Prop) (e : Engine) (r : Rules) (t t' : Term) : Prop where
  condition : ∀ c, (e.condition c t r).Alike R (e.condition c t' r)
  score : ∀ c, (e.score c t r).Alike R (e.score c t' r)

namespace Condition

theorem anyOf_alike {cs cs' : List Condition} (h : List.Forall₂ (Alike R) cs cs') :
    (anyOf cs).Alike R (anyOf cs') := by
  match h with
  | .nil => exact .any .nil
  | .cons hc .nil => exact hc
  | .cons hc (.cons hd hrest) => exact .any (.cons hc (.cons hd hrest))

mutual

theorem alike_refl (hR : ∀ v, R v v) (c : Condition) : c.Alike R c := by
  cases c with
  | like view pattern => exact .like view (hR _)
  | equal column value => exact .equal column (hR _)
  | all parts => exact .all (alikeAll_refl hR parts)
  | any parts => exact .any (alikeAll_refl hR parts)
  | negation part => exact .negation (alike_refl hR part)
  | linked link filter => exact .linked link (alike_refl hR filter)

theorem alikeAll_refl (hR : ∀ v, R v v) (cs : List Condition) : List.Forall₂ (Alike R) cs cs := by
  cases cs with
  | nil => exact .nil
  | cons c cs => exact .cons (alike_refl hR c) (alikeAll_refl hR cs)

end

end Condition

theorem Score.alike_refl (hR : ∀ v, R v v) (s : Score) : s.Alike R s :=
  ⟨rfl, List.forall₂_same.2 fun _ _ => ⟨rfl, rfl, hR _⟩⟩

theorem OrderClause.alike_refl (hR : ∀ v, R v v) (o : OrderClause) : o.Alike R o := by
  obtain ⟨key, direction⟩ := o
  cases key with
  | column c => exact .column c direction
  | greatest scores =>
    exact .greatest direction (List.forall₂_same.2 fun s _ => s.alike_refl hR)

theorem Select.alike_refl (hR : ∀ v, R v v) (q : Select) : q.Alike R q :=
  ⟨rfl, rfl, rfl, Condition.alikeAll_refl hR q.filters,
    List.forall₂_same.2 fun o _ => o.alike_refl hR, rfl⟩

namespace Engine

variable {r : Rules} {t t' : Term}

theorem clauses_alike (h : t.Alike R r t') (c : Column) :
    List.Forall₂ (Condition.Alike R) (clauses c t r) (clauses c t' r) := by
  have htokens : List.Forall₂ (Condition.Alike R)
      ((t.matchTokens r).map (TextView.stripped c).contains)
      ((t'.matchTokens r).map (TextView.stripped c).contains) :=
    List.rel_map (fun _ _ hw => .like _ hw) h.tokens
  rw [clauses, clauses]
  refine .cons (.like _ h.raw) ?_
  cases hn : r.normalize with
  | false => exact .nil
  | true =>
    refine .cons (.like _ (h.normalized hn)) ?_
    have hwords := h.tokens
    generalize t.matchTokens r = words, t'.matchTokens r = words' at hwords htokens ⊢
    cases hwords with
    | nil => exact .nil
    | cons _ _ => exact .cons (.any htokens) .nil

theorem branches_alike (h : t.Alike R r t') (c : Column) :
    List.Forall₂ (Branch.Alike R) (branches c t r) (branches c t' r) := by
  have htokens : List.Forall₂ (Branch.Alike R)
      ((t.matchTokens r).map fun token => (TextView.stripped c).branch token tokenWeight)
      ((t'.matchTokens r).map fun token => (TextView.stripped c).branch token tokenWeight) :=
    List.rel_map (fun _ _ hw => ⟨rfl, rfl, hw⟩) h.tokens
  refine .cons ⟨rfl, rfl, h.raw⟩ (List.rel_append ?_ htokens)
  cases hn : r.normalize with
  | false => exact .nil
  | true => exact .cons ⟨rfl, rfl, h.normalized hn⟩ .nil

theorem ilike_alike (h : t.Alike R r t') : ilike.Alike R r t t' where
  condition c := Condition.anyOf_alike (clauses_alike h c)
  score c := ⟨rfl, branches_alike h c⟩

end Engine

section Targets

variable {e : Engine} {r : Rules} {t t' : Term}

theorem Target.condition_alike (h : e.Alike R r t t') (target : Target) :
    (target.condition e t r).Alike R (target.condition e t' r) := by
  cases target with
  | own c => exact h.condition c
  | related relation c => exact .linked relation.link (h.condition (c.through relation.innerName))

theorem bestMatchOrder?_alike (h : e.Alike R r t t') (targets : List Target) :
    List.Forall₂ (OrderClause.Alike R) (bestMatchOrder? e targets t r).toList
      (bestMatchOrder? e targets t' r).toList := by
  rcases ranked_or_unranked targets r with ⟨hr, ho⟩ | hu
  · have hscores : List.Forall₂ (Score.Alike R)
        ((targets.filterMap Target.ownColumn?).map fun c => e.score c t r)
        ((targets.filterMap Target.ownColumn?).map fun c => e.score c t' r) := by
      rw [List.forall₂_map_left_iff, List.forall₂_map_right_iff]
      exact List.forall₂_same.2 fun c _ => h.score c
    rw [bestMatchOrder?_of_ranked hr ho, bestMatchOrder?_of_ranked hr ho]
    exact .cons (.greatest .descending hscores) .nil
  · rw [bestMatchOrder?_of_unranked hu, bestMatchOrder?_of_unranked hu]
    exact .nil

theorem Searcher.attached_alike (s : Searcher) (hR : ∀ v, R v v) (h : s.engine.Alike R r t t')
    (q : Select) (targets : List Target) :
    (s.attached q targets t r).Alike R (s.attached q targets t' r) := by
  have hq := q.alike_refl hR
  have ha := s.attached_appends q targets t r
  have ha' := s.attached_appends q targets t' r
  have hconditions : List.Forall₂ (Condition.Alike R)
      (targets.map (Target.condition s.engine t r)) (targets.map (Target.condition s.engine t' r)) := by
    rw [List.forall₂_map_left_iff, List.forall₂_map_right_iff]
    exact List.forall₂_same.2 fun target _ => target.condition_alike h
  refine ⟨ha.table.trans ha'.table.symm, ha.dialect.trans ha'.dialect.symm,
    ha.projection.trans ha'.projection.symm, ?_, ?_, ha.limit.trans ha'.limit.symm⟩
  · rw [s.filters_attached, s.filters_attached]
    exact List.rel_append hq.filters (.cons (Condition.anyOf_alike hconditions) .nil)
  · rw [s.order_attached, s.order_attached]
    exact List.rel_append hq.order (bestMatchOrder?_alike h targets)

end Targets

theorem Searcher.search_alike (s : Searcher) (names : Resolver) (q : Select) {columns : List String}
    (options : Options) {term term' : String} (hR : ∀ v, R v v)
    (hresolve : ∀ text ∈ columns, ∃ target, StandsFor names q.table text target)
    (ht : Text.trim term ≠ "") (ht' : Text.trim term' ≠ "")
    (h : s.engine.Alike R (s.config.rules options) (.ofText term (s.config.rules options))
      (.ofText term' (s.config.rules options))) :
    ∃ found found', (s.search names q (some term) columns options).outcome = .ok found ∧
      (s.search names q (some term') columns options).outcome = .ok found' ∧
      found.Alike R found' := by
  have halone := q.leftAlone_iff_of_ne columns ht ht'
  by_cases ha : q.LeftAlone (some term) columns
  · obtain ⟨p, hp⟩ := s.search_of_leftAlone names options ha
    obtain ⟨p', hp'⟩ := s.search_of_leftAlone names options (halone.1 ha)
    exact ⟨q, q, by rw [hp], by rw [hp'], q.alike_refl hR⟩
  · obtain ⟨targets, hr⟩ := exists_resolveAll hresolve
    refine ⟨_, _, ?_, ?_, s.attached_alike hR h q targets⟩
    · rw [s.search_of_not_leftAlone names options ha, hr]
      rfl
    · rw [s.search_of_not_leftAlone names options (mt halone.2 ha), hr]
      rfl

/-- The text of a statement does not depend on the values of its query, which are bound to it as they
are and in their places. So two terms with equally many words to match are searched for with one and
the same text. -/
theorem statement_text_independent :
    (∀ (R : Value → Value → Prop) (q q' : Select), q.Alike R q' →
      q.statement.sql = q'.statement.sql ∧ q.statement.values = q.values ∧
        q'.statement.values = q'.values ∧
        List.Forall₂ R q.statement.values q'.statement.values) ∧
    (∀ (config : Config) (names : Resolver) (q : Select) (columns : List String) (options : Options)
      (term term' : String),
      (∀ text ∈ columns, ∃ target, StandsFor names q.table text target) →
      Text.trim term ≠ "" → Text.trim term' ≠ "" →
      ((Term.ofText term (config.rules options)).matchTokens (config.rules options)).length =
        ((Term.ofText term' (config.rules options)).matchTokens (config.rules options)).length →
      ∃ found found',
        ((Searcher.ofConfig config).search names q (some term) columns options).outcome = .ok found ∧
        ((Searcher.ofConfig config).search names q (some term') columns options).outcome =
          .ok found' ∧
        found.statement.sql = found'.statement.sql) := by
  refine ⟨?_, ?_⟩
  · intro R q q' h
    obtain ⟨hsql, hvalues⟩ := Select.statement_alike h
    exact ⟨hsql, q.values_statement, q'.values_statement, hvalues⟩
  intro config names q columns options term term' hresolve ht ht' hcount
  -- Any two values are related here, so that only the number of the words matters.
  have hterms : Term.Alike (fun _ _ => True) (config.rules options)
      (.ofText term (config.rules options)) (.ofText term' (config.rules options)) :=
    ⟨trivial, fun _ => trivial, List.forall₂_iff_get.2 ⟨hcount, fun _ _ _ => trivial⟩⟩
  have hengine : (Searcher.ofConfig config).engine.Alike (fun _ _ => True) (config.rules options)
      (.ofText term (config.rules options)) (.ofText term' (config.rules options)) := by
    rw [Searcher.engine_ofConfig]
    exact Engine.ilike_alike hterms
  obtain ⟨found, found', hf, hf', ha⟩ := (Searcher.ofConfig config).search_alike names q options
    (fun _ => trivial) hresolve ht ht' hengine
  exact ⟨found, found', hf, hf', (Select.statement_alike ha).1⟩

theorem statement_text_independent_quotes :
    (((Select.ofTable "users" .postgres).whereEqual "id" (.integer 7)).statement.sql =
        ((Select.ofTable "users" .postgres).whereEqual "id" (.text "7' OR $1")).statement.sql ∧
      ((Select.ofTable "users" .postgres).whereEqual "id" (.integer 7)).statement.values =
        [.integer 7] ∧
      ((Select.ofTable "users" .postgres).whereEqual "id" (.text "7' OR $1")).statement.values =
        [.text "7' OR $1"]) ∧
    ∃ found found',
      ((Searcher.ofConfig {}).search people.resolver (.ofTable "users" .postgres) (some "Jane Doe")
        ["name"] {}).outcome = .ok found ∧
      ((Searcher.ofConfig {}).search people.resolver (.ofTable "users" .postgres)
        (some "Bob\"'); DROP--$1") ["name"] {}).outcome = .ok found' ∧
      found.statement.sql = found'.statement.sql := by
  obtain ⟨hvalues, hterms⟩ := statement_text_independent
  have hresolve : ∀ text ∈ ["name"], ∃ target, StandsFor people.resolver "users" text target := by
    intro text htext
    obtain rfl := List.mem_singleton.1 htext
    exact ⟨_, .own "name", rfl, rfl⟩
  constructor
  · have halike : ((Select.ofTable "users" .postgres).whereEqual "id" (.integer 7)).Alike
        (fun v w => v = .integer 7 ∧ w = .text "7' OR $1")
        ((Select.ofTable "users" .postgres).whereEqual "id" (.text "7' OR $1")) :=
      ⟨rfl, rfl, rfl, .cons (.equal _ ⟨rfl, rfl⟩) .nil, .nil, rfl⟩
    obtain ⟨hsql, hplain, hquoted, -⟩ := hvalues _ _ _ halike
    exact ⟨hsql, hplain, hquoted⟩
  · exact hterms {} people.resolver (.ofTable "users" .postgres) ["name"] {} "Jane Doe"
      "Bob\"'); DROP--$1" hresolve (by decide) (by decide) (by decide)

end TermSearch
