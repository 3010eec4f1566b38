import TermSearch.Proofs.Search.Noninterference
import TermSearch.Proofs.Search.Patterns

/-! Blanks in a term. Those around it are dropped before anything is made of it, and how its words are
spaced is seen only in the patterns of the term as it is typed. -/

namespace TermSearch

open Text

structure Term.SameForms (t t' : Term) : Prop where
  normalized : t.normalized = t'.normalized
  tokens : t.tokens = t'.tokens

theorem Term.sameForms_ofText {s s' : String} (h : words s = words s') (r : Rules) :
    (ofText s r).SameForms (ofText s' r) where
  normalized := by rw [normalized_ofText, normalized_ofText, strip_congr h]
  tokens := tokenize_congr (by rw [words_trim, words_trim, h]) r

namespace Term.SameForms

variable {t t' : Term} (h : t.SameForms t') (r : Rules)

include h

theorem matchTokens_eq : t.matchTokens r = t'.matchTokens r := by
  rw [matchTokens, matchTokens, h.tokens]

theorem exists_filterTexts :
    ∃ rest, t.filterTexts r = t.raw :: rest ∧ t'.filterTexts r = t'.raw :: rest := by
  refine ⟨_, rfl, ?_⟩
  rw [filterTexts, h.normalized, h.matchTokens_eq r]

theorem exists_orderTexts :
    ∃ rest, t.orderTexts r = t.raw :: rest ∧ t'.orderTexts r = t'.raw :: rest := by
  refine ⟨_, rfl, ?_⟩
  rw [orderTexts, h.normalized, h.matchTokens_eq r]
  rfl

theorem alike : t.Alike (fun _ _ => True) r t' where
  raw := trivial
  normalized _ := trivial
  tokens := by
    rw [h.matchTokens_eq r]
    exact List.forall₂_same.2 fun _ _ => trivial

end Term.SameForms

/-- The values of a searched query, where `raw` is the term as it is typed. Its pattern comes first
for each column that is searched, and first again for each column that the rows are ordered by. -/
def Select.searchedValues (q : Select) (columns : List String) (ordered : Bool)
    (rest ranks : List String) (raw : String) : List Value :=
  q.filters.flatMap Condition.values ++
    (columns.flatMap fun _ => (raw :: rest).map Value.containing) ++
    q.order.flatMap OrderClause.values ++
    if ordered then
      (columns.filter fun text => !Entry.hasDot text).flatMap fun _ =>
        (raw :: ranks).map Value.containing
    else []

namespace Searcher

variable {s : Searcher} {names : Resolver} {q : Select} {columns : List String}
  {targets : List Target} {t t' : Term}

theorem attachedJournal_congr (h : t.SameForms t') (r : Rules) :
    s.attachedJournal q targets t r = s.attachedJournal q targets t' r := by
  have hordered : (bestMatchOrder? s.engine targets t r).isSome =
      (bestMatchOrder? s.engine targets t' r).isSome := by
    rcases ranked_or_unranked targets r with ⟨hr, ho⟩ | hu
    · rw [bestMatchOrder?_of_ranked hr ho, bestMatchOrder?_of_ranked hr ho]
      rfl
    · rw [bestMatchOrder?_of_unranked hu, bestMatchOrder?_of_unranked hu]
  rw [attachedJournal, attachedJournal, h.matchTokens_eq r, hordered]

theorem sql_attached_congr (he : s.engine = .ilike) (h : t.SameForms t') (r : Rules) :
    (s.attached q targets t r).statement.sql = (s.attached q targets t' r).statement.sql := by
  have hengine : s.engine.Alike (fun _ _ => True) r t t' := by
    rw [he]
    exact Engine.ilike_alike (h.alike r)
  exact (Select.statement_alike (s.attached_alike (fun _ => trivial) hengine q targets)).1

theorem values_attached_congr (he : s.engine = .ilike)
    (hall : List.Forall₂ (StandsFor names q.table) columns targets) (h : t.SameForms t')
    (r : Rules) :
    ∃ rest ranks,
      (s.attached q targets t r).statement.values =
        q.searchedValues columns r.orderByBestMatch rest ranks t.raw ∧
      (s.attached q targets t' r).statement.values =
        q.searchedValues columns r.orderByBestMatch rest ranks t'.raw := by
  obtain ⟨rest, hrest, hrest'⟩ := h.exists_filterTexts r
  obtain ⟨ranks, hranks, hranks'⟩ := h.exists_orderTexts r
  refine ⟨rest, ranks, ?_, ?_⟩
  · rw [(Inquiry.adds_attached he hall t r).values_statement, hrest, hranks, Select.searchedValues]
  · rw [(Inquiry.adds_attached he hall t' r).values_statement, hrest', hranks',
      Select.searchedValues]

end Searcher

inductive Report.SpacedAlike (q : Select) (columns : List String) (ordered : Bool)
    (raw raw' : String) : Report Select → Report Select → Prop where
  | leftAlone (journal : Journal) :
    SpacedAlike q columns ordered raw raw' ⟨.ok q, journal⟩ ⟨.ok q, journal⟩
  | failed (failure : Failure) (journal : Journal) :
    SpacedAlike q columns ordered raw raw' ⟨.error failure, journal⟩ ⟨.error failure, journal⟩
  | found (found found' : Select) (journal : Journal)
    (sql : found.statement.sql = found'.statement.sql)
    (values : ∃ rest ranks,
      found.statement.values = q.searchedValues columns ordered rest ranks raw ∧
      found'.statement.values = q.searchedValues columns ordered rest ranks raw') :
    SpacedAlike q columns ordered raw raw' ⟨.ok found, journal⟩ ⟨.ok found', journal⟩

theorem Searcher.search_spacedAlike (s : Searcher) (he : s.engine = .ilike) (names : Resolver)
    (q : Select) (columns : List String) (options : Options) {term term' : String}
    (h : words term = words term') :
    Report.SpacedAlike q columns (s.config.rules options).orderByBestMatch (trim term) (trim term')
      (s.search names q (some term) columns options)
      (s.search names q (some term') columns options) := by
  -- Whether a term is blank shows in its words, so that both are looked at or neither is.
  have hempty : trim ((some term).getD "") = "" ↔ trim ((some term').getD "") = "" :=
    trim_eq_empty_congr h
  have hpass := Passthrough.of?_congr q columns hempty
  cases hp : Passthrough.of? q (trim ((some term).getD "")) columns with
  | some p =>
    rw [s.search_of_passthrough names options hp,
      s.search_of_passthrough names options (hpass.symm.trans hp)]
    exact .leftAlone _
  | none =>
    have ha := (Passthrough.of?_eq_none_iff q (some term) columns).1 hp
    have ha' := (Passthrough.of?_eq_none_iff q (some term') columns).1 (hpass.symm.trans hp)
    have hforms := Term.sameForms_ofText h (s.config.rules options)
    rw [s.search_of_not_leftAlone names options ha, s.search_of_not_leftAlone names options ha']
    cases hr : resolveAll names q.table columns with
    | error failure => exact .failed failure {}
    | ok targets =>
      simp only [Option.getD_some, attachedJournal_congr hforms]
      exact .found _ _ _ (sql_attached_congr he hforms _)
        (values_attached_congr he (resolveAll_eq_ok_iff.1 hr) hforms _)

/-- Blanks around a term change nothing. Terms with the same words have the same stripped form and the
same tokens, and their searches come to the same end in the same way: what they differ in is at most
the pattern of the term as it is typed, which begins and ends with no blank. -/
theorem spacing_irrelevant :
    (∀ (s : Searcher) (names : Resolver) (q : Select) (columns : List String) (options : Options)
      (u term v : String), (∀ c ∈ u.toList, isBlank c = true) →
      (∀ c ∈ v.toList, isBlank c = true) →
      s.search names q (some (u ++ term ++ v)) columns options =
        s.search names q (some term) columns options) ∧
    (∀ (term : String) (r : Rules),
      (∀ c ∈ (Term.ofText term r).raw.toList.head?, isBlank c = false) ∧
      ∀ c ∈ (Term.ofText term r).raw.toList.getLast?, isBlank c = false) ∧
    ∀ term term' : String, words term = words term' →
      (∀ r : Rules, (Term.ofText term r).normalized = (Term.ofText term' r).normalized ∧
        (Term.ofText term r).tokens = (Term.ofText term' r).tokens) ∧
      ∀ (config : Config) (names : Resolver) (q : Select) (columns : List String)
        (options : Options),
        (q.LeftAlone (some term) columns ↔ q.LeftAlone (some term') columns) ∧
        Report.SpacedAlike q columns (config.rules options).orderByBestMatch (trim term)
          (trim term') ((Searcher.ofConfig config).search names q (some term) columns options)
          ((Searcher.ofConfig config).search names q (some term') columns options) := by
  refine ⟨?_, ?_, fun term term' h => ⟨?_, ?_⟩⟩
  · intro s names q columns options u term v hu hv
    exact s.search_congr names options q columns (trim_surrounded hu hv term)
  · intro term r
    rw [Term.raw_ofText, toList_trim]
    exact ⟨fun c hc => head?_trimmedChars hc, fun c hc => getLast?_trimmedChars hc⟩
  · intro r
    have hforms := Term.sameForms_ofText h r
    exact ⟨hforms.normalized, hforms.tokens⟩
  · intro config names q columns options
    exact ⟨q.leftAlone_congr columns (trim_eq_empty_congr h),
      (Searcher.ofConfig config).search_spacedAlike (Searcher.engine_ofConfig config) names q columns
        options h⟩

theorem spacing_irrelevant_people :
    (∀ c ∈ "\u00a0".toList, isBlank c = true) ∧ (∀ c ∈ " \n".toList, isBlank c = true) ∧
    words "Jane\u3000 Doe" = words "Jane Doe" ∧
    (Searcher.ofConfig {}).search people.resolver earlierPeople
        (some ("\u00a0" ++ "Jane\u3000 Doe" ++ " \n")) ["name", "manager.name"] {} =
      (Searcher.ofConfig {}).search people.resolver earlierPeople (some "Jane\u3000 Doe")
        ["name", "manager.name"] {} ∧
    ∃ found found' journal rest ranks,
      (Searcher.ofConfig {}).search people.resolver earlierPeople (some "Jane\u3000 Doe")
        ["name", "manager.name"] {} = ⟨.ok found, journal⟩ ∧
      (Searcher.ofConfig {}).search people.resolver earlierPeople (some "Jane Doe")
        ["name", "manager.name"] {} = ⟨.ok found', journal⟩ ∧
      found.statement.sql = found'.statement.sql ∧
      found.statement.values = earlierPeople.searchedValues ["name", "manager.name"] true rest ranks
        "Jane\u3000 Doe" ∧
      found'.statement.values = earlierPeople.searchedValues ["name", "manager.name"] true rest ranks
        "Jane Doe" := by
  have hu : ∀ c ∈ "\u00a0".toList, isBlank c = true := List.all_eq_true.1 rfl
  have hv : ∀ c ∈ " \n".toList, isBlank c = true := List.all_eq_true.1 rfl
  have hwords : words "Jane\u3000 Doe" = words "Jane Doe" := by decide
  obtain ⟨haround, -, hspaced⟩ := spacing_irrelevant
  refine ⟨hu, hv, hwords, haround _ _ _ _ _ _ _ _ hu hv, ?_⟩
  obtain ⟨-, halike⟩ := (hspaced _ _ hwords).2 {} people.resolver earlierPeople
    ["name", "manager.name"] {}
  obtain ⟨found, journal, hs, hfilters⟩ : ∃ found journal,
      (Searcher.ofConfig {}).search people.resolver earlierPeople (some "Jane\u3000 Doe")
        ["name", "manager.name"] {} = ⟨.ok found, journal⟩ ∧ found.filters.length = 2 :=
    ⟨_, _, rfl, rfl⟩
  obtain ⟨found', journal', hs'⟩ : ∃ found' journal',
      (Searcher.ofConfig {}).search people.resolver earlierPeople (some "Jane Doe")
        ["name", "manager.name"] {} = ⟨.ok found', journal'⟩ := ⟨_, _, rfl⟩
  have hraw : trim "Jane\u3000 Doe" = "Jane\u3000 Doe" := by decide
  have hraw' : trim "Jane Doe" = "Jane Doe" := by decide
  rw [hs, hs', hraw, hraw'] at halike
  cases halike with
  | leftAlone => exact absurd hfilters (by decide)
  | found _ _ _ hsql hvalues =>
    obtain ⟨rest, ranks, hvalues, hvalues'⟩ := hvalues
    exact ⟨found, found', journal, rest, ranks, hs, hs', hsql, hvalues, hvalues'⟩

end TermSearch
