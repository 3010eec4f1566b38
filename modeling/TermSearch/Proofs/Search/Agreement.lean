import TermSearch.Proofs.Search.Outcome
import TermSearch.Proofs.Search.Ranking

/-! The filter of a search and its order. The two are made apart, and count the words of a term under
different rules; still, with normalization on, they agree on which rows match, however the single
comparisons turn out. -/

namespace TermSearch

namespace Engine

variable {ρ : Type} (I : Reading ρ) (p : ρ) (c : Column) (t : Term) {r : Rules}

theorem points_ilike (like : TextView → String → Truth) (r : Rules) :
    (ilike.score c t r).points like =
      (if like (.cast c) (Text.containing t.raw) = .yes then 100 else 0) +
        (if r.normalize = true ∧ like (.stripped c) (Text.containing t.normalized) = .yes then 50
          else 0) +
        10 * (t.matchTokens r).countP fun token =>
          like (.stripped c) (Text.containing token) = .yes :=
  Option.some.inj ((Score.value_eq_points like _).symm.trans (value_score_ilike like c t r))

theorem points_pos_iff (hn : r.normalize = true) :
    0 < (ilike.score c t r).points (I.like p) ↔ (ilike.condition c t r).truth I p = .yes := by
  have htokens : 0 < (t.matchTokens r).countP (fun token =>
        I.like p (.stripped c) (Text.containing token) = .yes) ↔
      ∃ token ∈ t.matchTokens r, I.like p (.stripped c) (Text.containing token) = .yes := by
    simp only [List.countP_pos_iff, decide_eq_true_eq]
  rw [truth_ilike_eq_yes_iff, points_ilike, ← htokens]
  simp only [hn, true_and]
  by_cases hraw : I.like p (.cast c) (Text.containing t.raw) = .yes
  · simp only [hraw, if_true, true_or, iff_true]
    omega
  · by_cases hs : I.like p (.stripped c) (Text.containing t.normalized) = .yes
    · simp only [hraw, hs, if_true, if_false, true_or, or_true, iff_true]
      omega
    · simp only [hraw, hs, if_false, false_or]
      omega

theorem le_points_of_not_normalize (hn : r.normalize = false)
    (h : (ilike.condition c t r).truth I p = .yes) :
    100 ≤ (ilike.score c t r).points (I.like p) := by
  simp only [truth_ilike_eq_yes_iff, hn, Bool.false_eq_true, false_and, or_false] at h
  rw [points_ilike, if_pos h, Nat.add_assoc]
  exact Nat.le_add_right 100 _

end Engine

section Targets

variable {ρ : Type} (I : Reading ρ) (p : ρ) {targets : List Target} (t : Term) {r : Rules}

theorem exists_greatest_own (r : Rules) (ho : targets.filterMap Target.ownColumn? ≠ []) :
    ∃ score, Score.greatestOf (I.like p)
        ((targets.filterMap Target.ownColumn?).map fun c => Engine.ilike.score c t r) = some score ∧
      ∀ bound, bound ≤ score ↔ ∃ c, .own c ∈ targets ∧
        bound ≤ (Engine.ilike.score c t r).points (I.like p) := by
  have hne : ((targets.filterMap Target.ownColumn?).map fun c => Engine.ilike.score c t r) ≠ [] :=
    mt List.map_eq_nil_iff.1 ho
  obtain ⟨score, hs, hreach⟩ := Score.exists_greatestOf (I.like p) hne
  refine ⟨score, hs, fun bound => ?_⟩
  rw [hreach]
  simp only [List.mem_map, exists_exists_and_eq_and, Target.mem_ownColumns_iff]

theorem truth_filter_iff_of_own (e : Engine) (h : ∀ target ∈ targets, ∃ c, target = .own c) :
    (Condition.anyOf (targets.map (Target.condition e t r))).truth I p = .yes ↔
      ∃ c, .own c ∈ targets ∧ (e.condition c t r).truth I p = .yes := by
  rw [Condition.truth_anyOf_eq_yes_iff]
  simp only [List.mem_map, exists_exists_and_eq_and]
  constructor
  · rintro ⟨target, htarget, hy⟩
    obtain ⟨c, rfl⟩ := h target htarget
    exact ⟨c, htarget, hy⟩
  · rintro ⟨c, hc, hy⟩
    exact ⟨.own c, hc, hy⟩

theorem truth_filter_of_own (e : Engine) {c : Column} (hc : .own c ∈ targets)
    (h : (e.condition c t r).truth I p = .yes) :
    (Condition.anyOf (targets.map (Target.condition e t r))).truth I p = .yes :=
  (Condition.truth_anyOf_eq_yes_iff I _ p).2 ⟨_, List.mem_map_of_mem hc, h⟩

end Targets

theorem Searcher.attached_agrees (s : Searcher) (he : s.engine = .ilike) (q : Select)
    (targets : List Target) (t : Term) {r : Rules} (hr : r.orderByBestMatch = true)
    (ho : targets.filterMap Target.ownColumn? ≠ []) :
    ∃ filter scores, (s.attached q targets t r).filters = q.filters ++ [filter] ∧
      (s.attached q targets t r).order = q.order ++ [⟨.greatest scores, .descending⟩] ∧
      ∀ (ρ : Type) (I : Reading ρ) (p : ρ), ∃ score,
        Score.greatestOf (I.like p) scores = some score ∧
        (r.normalize = true → 0 < score → filter.truth I p = .yes) ∧
        ((∀ target ∈ targets, ∃ c, target = .own c) →
          (r.normalize = true → (filter.truth I p = .yes ↔ 0 < score)) ∧
          (r.normalize = false → filter.truth I p = .yes → 100 ≤ score)) := by
  refine ⟨_, _, s.filters_attached q targets t r, (s.attached_appends q targets t r).ranked hr ho, ?_⟩
  intro ρ I p
  rw [he]
  obtain ⟨score, hs, hreach⟩ := exists_greatest_own I p t r ho
  refine ⟨score, hs, ?_, fun hall => ⟨?_, ?_⟩⟩
  · intro hn hpos
    obtain ⟨c, hc, hpoints⟩ := (hreach 1).1 hpos
    exact truth_filter_of_own I p t _ hc ((Engine.points_pos_iff I p c t hn).1 hpoints)
  · intro hn
    rw [truth_filter_iff_of_own I p t _ hall]
    refine Iff.trans (exists_congr fun c => and_congr_right fun _ => ?_) (hreach 1).symm
    exact (Engine.points_pos_iff I p c t hn).symm
  · intro hn hy
    obtain ⟨c, hc, hcond⟩ := (truth_filter_iff_of_own I p t _ hall).1 hy
    exact (hreach 100).2 ⟨c, hc, Engine.le_points_of_not_normalize I p c t hn hcond⟩

/-- The filter and the order that a search adds, whatever the answers of the single comparisons: a row
with a score passes the filter where normalization is on. Where moreover all columns are of the table
itself the two say the same, and without normalization a row that passes has the score of a match as
typed. -/
theorem filter_agrees_with_order (config : Config) (names : Resolver) (q : Select) (term : String)
    (columns : List String) (options : Options)
    (hq : q.dialect = .postgres) (hterm : Text.trim term ≠ "")
    (hresolve : ∀ text ∈ columns, ∃ target, StandsFor names q.table text target)
    (hown : ∃ text ∈ columns, Entry.hasDot text = false)
    (hordered : (config.rules options).orderByBestMatch = true) :
    ∃ filter scores found,
      ((Searcher.ofConfig config).search names q (some term) columns options).outcome =
        .ok found ∧
      found.filters = q.filters ++ [filter] ∧
      found.order = q.order ++ [⟨.greatest scores, .descending⟩] ∧
      ∀ (ρ : Type) (I : Reading ρ) (p : ρ), ∃ score,
        Score.greatestOf (I.like p) scores = some score ∧
        ((config.rules options).normalize = true → 0 < score → filter.truth I p = .yes) ∧
        ((∀ text ∈ columns, Entry.hasDot text = false) →
          ((config.rules options).normalize = true → (filter.truth I p = .yes ↔ 0 < score)) ∧
          ((config.rules options).normalize = false → filter.truth I p = .yes → 100 ≤ score)) := by
  obtain ⟨targets, ht⟩ := exists_resolveAll hresolve
  have hall := resolveAll_eq_ok_iff.1 ht
  obtain ⟨text, htext, hplain⟩ := hown
  have howns {text : String} {target : Target} (h : StandsFor names q.table text target)
      (hdot : Entry.hasDot text = false) : ∃ c, target = .own c := by
    have hsome : target.ownColumn?.isSome = true := by rw [h.isSome_ownColumn?, hdot]; rfl
    obtain ⟨c, hc⟩ := Option.isSome_iff_exists.1 hsome
    exact ⟨c, Target.ownColumn?_eq_some_iff.1 hc⟩
  have ho : targets.filterMap Target.ownColumn? ≠ [] := by
    obtain ⟨target, htarget, hx⟩ := exists_right_of_mem hall htext
    obtain ⟨c, rfl⟩ := howns hx hplain
    exact List.ne_nil_of_mem (Target.mem_ownColumns_iff.2 htarget)
  have hs := (Searcher.ofConfig config).search_eq_attached options hq hterm
    (List.ne_nil_of_mem htext) ht
  obtain ⟨filter, scores, hfilters, horder, hagree⟩ := (Searcher.ofConfig config).attached_agrees
    (Searcher.engine_ofConfig config) q targets (.ofText term (config.rules options)) hordered ho
  refine ⟨filter, scores, _, by rw [hs]; rfl, hfilters, horder, fun ρ I p => ?_⟩
  obtain ⟨score, hscore, himplies, hiff⟩ := hagree ρ I p
  refine ⟨score, hscore, himplies, fun hcolumns => hiff fun target htarget => ?_⟩
  obtain ⟨x, hx, hstands⟩ := exists_left_of_mem hall htarget
  exact howns hstands (hcolumns x hx)

theorem filter_agrees_with_order_people :
    (Config.rules {} {}).orderByBestMatch = true ∧
    ∃ filter scores found,
      ((Searcher.ofConfig {}).search people.resolver earlierPeople (some "Jane 100%") ["name", "id"]
        {}).outcome = .ok found ∧
      found.filters = earlierPeople.filters ++ [filter] ∧
      found.order = earlierPeople.order ++ [⟨.greatest scores, .descending⟩] ∧
      ∀ (ρ : Type) (I : Reading ρ) (p : ρ), ∃ score,
        Score.greatestOf (I.like p) scores = some score ∧
        (filter.truth I p = .yes ↔ 0 < score) := by
  have hordered : (Config.rules {} {}).orderByBestMatch = true := rfl
  have hresolve : ∀ text ∈ ["name", "id"], ∃ target,
      StandsFor people.resolver earlierPeople.table text target := by
    intro text htext
    rcases List.mem_pair.1 htext with rfl | rfl
    · exact ⟨_, .own "name", rfl, rfl⟩
    · exact ⟨_, .own "id", rfl, rfl⟩
  have hplain : ∀ text ∈ ["name", "id"], Entry.hasDot text = false := by decide
  obtain ⟨filter, scores, found, hs, hfilters, horder, hagree⟩ := filter_agrees_with_order {}
    people.resolver earlierPeople "Jane 100%" ["name", "id"] {} rfl (by decide) hresolve
    ⟨"name", List.mem_cons_self .., rfl⟩ hordered
  refine ⟨hordered, filter, scores, found, hs, hfilters, horder, fun ρ I p => ?_⟩
  obtain ⟨score, hscore, -, hlocal⟩ := hagree ρ I p
  exact ⟨score, hscore, (hlocal hplain).1 rfl⟩

end TermSearch
