import TermSearch.Proofs.Search.ColumnSet
import TermSearch.Proofs.Search.Noninterference
import TermSearch.Proofs.Search.Selection
import TermSearch.Proofs.Text.LetterCase

/-! The case of a term. Two terms that differ in the case of ASCII letters alone have the same words
up to case, so that their searches are written the same and say the same of every row. -/

namespace TermSearch

open Text

def Rules.isSignificantFolded (r : Rules) (word : List Char) : Bool :=
  2 < word.length && !r.ignoreSuffixes.contains (String.ofList word)

def foldedTokens (s : List Char) (r : Rules) : List (List Char) :=
  let stripped := (wordChars s).map (List.filter isPlain)
  if r.wordBasedMatching then stripped.filter r.isSignificantFolded else stripped

theorem Rules.isSignificant_strip (r : Rules) (word : String) :
    r.isSignificant (strip word) = r.isSignificantFolded (folded (strip word)) := by
  have hlength : (folded (strip word)).length = (strip word).length := by
    rw [folded, List.length_map, String.length_toList]
  rw [isSignificant, isSignificantFolded, ignores, lower_strip, hlength]

theorem map_folded_tokenize (s : String) (r : Rules) :
    (tokenize s r).map folded = foldedTokens (folded s) r := by
  have hstripped : ((words s).map strip).map folded =
      (wordChars (folded s)).map (List.filter isPlain) := by
    rw [← map_folded_words, List.map_map, List.map_map]
    refine List.map_congr_left fun word _ => ?_
    rw [Function.comp_apply, Function.comp_apply, folded_strip]
  have hsignificant : r.isSignificant ∘ strip = (r.isSignificantFolded ∘ folded) ∘ strip := by
    funext word
    simp only [Function.comp_apply, r.isSignificant_strip]
  rw [tokenize, foldedTokens]
  split
  · rw [← hstripped, List.filter_map, List.filter_map (f := folded), List.filter_map (f := strip),
      hsignificant]
  · exact hstripped

namespace Text.CaseVariants

variable {s s' : String} (h : CaseVariants s s') (r : Rules)

include h

theorem map_folded_matchTokens :
    ((Term.ofText s r).matchTokens r).map folded =
      ((Term.ofText s' r).matchTokens r).map folded := by
  have htokens : (tokenize s r).map folded = (tokenize s' r).map folded := by
    rw [map_folded_tokenize, map_folded_tokenize, h]
  rw [Term.matchTokens_ofText, Term.matchTokens_ofText]
  split
  · exact htokens
  · rfl

theorem forall₂_matchTokens :
    List.Forall₂ CaseVariants ((Term.ofText s r).matchTokens r)
      ((Term.ofText s' r).matchTokens r) := by
  have htokens := h.map_folded_matchTokens r
  rw [← List.forall₂_eq_eq_eq, List.forall₂_map_left_iff, List.forall₂_map_right_iff] at htokens
  exact htokens

theorem countP_matchTokens (x : String) :
    (((Term.ofText s r).matchTokens r).countP fun token => Occurs token x) =
      ((Term.ofText s' r).matchTokens r).countP fun token => Occurs token x := by
  have htokens := h.forall₂_matchTokens r
  generalize (Term.ofText s r).matchTokens r = words, (Term.ofText s' r).matchTokens r = words'
    at htokens
  induction htokens with
  | nil => rfl
  | cons hword _ ih => simp only [List.countP_cons, ih, hword.occurs_iff x]

theorem accepts_iff (x : String) : r.Accepts s x ↔ r.Accepts s' x := by
  have hcount (s : String) :
      (∃ token ∈ (Term.ofText s r).matchTokens r, Occurs token (Text.strip x)) ↔
        0 < ((Term.ofText s r).matchTokens r).countP fun token => Occurs token (Text.strip x) := by
    simp only [List.countP_pos_iff, decide_eq_true_eq]
  rw [Rules.accepts_iff_matchTokens, Rules.accepts_iff_matchTokens, hcount, hcount,
    h.countP_matchTokens r, h.trim.occurs_iff, h.strip.occurs_iff]

theorem textScore_eq (x : String) : Engine.textScore s r x = Engine.textScore s' r x := by
  rw [Engine.textScore, Engine.textScore, h.countP_matchTokens r]
  simp only [h.trim.occurs_iff, h.strip.occurs_iff]

end Text.CaseVariants

inductive Value.CaseVariants : Value → Value → Prop where
  | refl (v : Value) : CaseVariants v v
  | text {a b : String} (h : Text.CaseVariants a b) : CaseVariants (.text a) (.text b)

def Reading.ComparesText {ρ : Type} (I : Reading ρ) : Prop :=
  ∀ p, ∃ text, I.like p = TextView.likeIn text

theorem Database.comparesText_reading (db : Database) : db.reading.ComparesText :=
  fun s => ⟨db.textOf s, rfl⟩

section Engine

variable {s s' : String} (h : CaseVariants s s') (r : Rules)

include h

theorem Term.alike_of_caseVariants :
    Term.Alike Value.CaseVariants r (.ofText s r) (.ofText s' r) where
  raw := .text h.trim.containing
  normalized _ := by
    rw [Term.normalized_ofText, Term.normalized_ofText]
    exact .text h.strip.containing
  tokens := (h.forall₂_matchTokens r).imp fun _ _ hword => .text hword.containing

theorem Engine.truth_ilike_of_caseVariants {ρ : Type} {I : Reading ρ} (hI : I.ComparesText)
    (c : Column) (p : ρ) :
    (ilike.condition c (.ofText s r) r).truth I p =
      (ilike.condition c (.ofText s' r) r).truth I p := by
  obtain ⟨text, ht⟩ := hI p
  rw [truth_ilike_text I ht, truth_ilike_text I ht]
  simp only [h.accepts_iff r]

theorem Engine.value_score_of_caseVariants {ρ : Type} {I : Reading ρ} (hI : I.ComparesText)
    (c : Column) (p : ρ) :
    (ilike.score c (.ofText s r) r).value (I.like p) =
      (ilike.score c (.ofText s' r) r).value (I.like p) := by
  obtain ⟨text, ht⟩ := hI p
  rw [ht, value_score_eq_columnScore, value_score_eq_columnScore, columnScore, columnScore]
  simp only [h.textScore_eq r]

end Engine

section Targets

variable {e : Engine} {r : Rules} {t t' : Term} {targets : List Target}

theorem truth_targetFilter_of_terms {ρ : Type} (I : Reading ρ)
    (h : ∀ c p, (e.condition c t r).truth I p = (e.condition c t' r).truth I p) (p : ρ) :
    (targetFilter e t r targets).truth I p = (targetFilter e t' r targets).truth I p := by
  rw [targetFilter, targetFilter, Condition.truth_anyOf, Condition.truth_anyOf, List.map_map,
    List.map_map]
  refine congrArg Truth.any (List.map_congr_left fun target _ => ?_)
  exact target.truth_condition_congr I h p

theorem isSome_ranking?_of_terms :
    (ranking? e t r targets).isSome = (ranking? e t' r targets).isSome := by
  rw [Bool.eq_iff_iff, isSome_ranking?_iff, isSome_ranking?_iff, targetScores, targetScores, Ne,
    Ne, List.map_eq_nil_iff, List.map_eq_nil_iff]

theorem greatestOf_targetScores_of_terms (like : TextView → String → Truth)
    (h : ∀ c, (e.score c t r).value like = (e.score c t' r).value like) :
    Score.greatestOf like (targetScores e t r targets) =
      Score.greatestOf like (targetScores e t' r targets) := by
  rw [Score.greatestOf, Score.greatestOf, targetScores, targetScores, List.map_map, List.map_map]
  exact congrArg greatest (List.map_congr_left fun c _ => h c)

end Targets

theorem Searcher.attached_of_caseVariants (s : Searcher) (he : s.engine = .ilike) (q : Select)
    (targets : List Target) {term term' : String} (h : CaseVariants term term') (r : Rules) :
    (s.attached q targets (.ofText term r) r).statement.sql =
      (s.attached q targets (.ofText term' r) r).statement.sql ∧
    List.Forall₂ Value.CaseVariants (s.attached q targets (.ofText term r) r).statement.values
      (s.attached q targets (.ofText term' r) r).statement.values ∧
    ∃ filter filter' ranking ranking',
      q.Gains (s.attached q targets (.ofText term r) r) filter ranking ∧
      q.Gains (s.attached q targets (.ofText term' r) r) filter' ranking' ∧
      ranking.isSome = ranking'.isSome ∧
      ∀ (ρ : Type) (I : Reading ρ), I.ComparesText → ∀ p : ρ, filter.truth I p = filter'.truth I p ∧
        ∀ scores ∈ ranking, ∀ scores' ∈ ranking', ∃ score,
          Score.greatestOf (I.like p) scores = some score ∧
          Score.greatestOf (I.like p) scores' = some score := by
  have hengine : s.engine.Alike Value.CaseVariants r (.ofText term r) (.ofText term' r) := by
    rw [he]
    exact Engine.ilike_alike (Term.alike_of_caseVariants h r)
  obtain ⟨hsql, hvalues⟩ := Select.statement_alike (s.attached_alike .refl hengine q targets)
  refine ⟨hsql, hvalues, _, _, _, _, s.gains_attached q targets _ r, s.gains_attached q targets _ r,
    isSome_ranking?_of_terms, fun ρ I hI p => ⟨?_, ?_⟩⟩
  · rw [he]
    exact truth_targetFilter_of_terms I (Engine.truth_ilike_of_caseVariants h r hI) p
  · intro scores hscores scores' hscores'
    refine exists_greatestOf_of_mem_ranking? hscores hscores' ?_
    rw [he]
    exact greatestOf_targetScores_of_terms (I.like p) fun c =>
      Engine.value_score_of_caseVariants h r hI c p

/-- The case of ASCII letters in a term does not count: two such terms both leave the query alone,
fail for the same reason, or make statements of one text whose filters and scores agree on every
row. -/
theorem letter_case_irrelevant (config : Config) (names : Resolver) (q : Select)
    (columns : List String) (options : Options) {term term' : String}
    (h : Text.CaseVariants term term') :
    (q.LeftAlone (some term) columns ∧ q.LeftAlone (some term') columns ∧
      ((Searcher.ofConfig config).search names q (some term) columns options).outcome = .ok q ∧
      ((Searcher.ofConfig config).search names q (some term') columns options).outcome = .ok q) ∨
    (¬ q.LeftAlone (some term) columns ∧ ¬ q.LeftAlone (some term') columns ∧
      ((∃ failure,
        ((Searcher.ofConfig config).search names q (some term) columns options).outcome =
          .error failure ∧
        ((Searcher.ofConfig config).search names q (some term') columns options).outcome =
          .error failure) ∨
      ∃ found found',
        ((Searcher.ofConfig config).search names q (some term) columns options).outcome =
          .ok found ∧
        ((Searcher.ofConfig config).search names q (some term') columns options).outcome =
          .ok found' ∧
        found.statement.values.length = found'.statement.values.length ∧
        found.statement.sql = found'.statement.sql ∧
        List.Forall₂ Value.CaseVariants found.statement.values found'.statement.values ∧
        ∃ filter filter' ranking ranking', q.Gains found filter ranking ∧
          q.Gains found' filter' ranking' ∧ ranking.isSome = ranking'.isSome ∧
          ∀ (ρ : Type) (I : Reading ρ), I.ComparesText → ∀ p : ρ,
            filter.truth I p = filter'.truth I p ∧
            ∀ scores ∈ ranking, ∀ scores' ∈ ranking', ∃ score,
              Score.greatestOf (I.like p) scores = some score ∧
              Score.greatestOf (I.like p) scores' = some score)) := by
  have halone : q.LeftAlone (some term) columns ↔ q.LeftAlone (some term') columns :=
    q.leftAlone_congr columns h.trim.eq_empty_iff
  by_cases ha : q.LeftAlone (some term) columns
  · obtain ⟨p, hp⟩ := (Searcher.ofConfig config).search_of_leftAlone names options ha
    obtain ⟨p', hp'⟩ := (Searcher.ofConfig config).search_of_leftAlone names options (halone.1 ha)
    exact .inl ⟨ha, halone.1 ha, by rw [hp], by rw [hp']⟩
  · have ha' := mt halone.2 ha
    refine .inr ⟨ha, ha', ?_⟩
    rw [(Searcher.ofConfig config).search_of_not_leftAlone names options ha,
      (Searcher.ofConfig config).search_of_not_leftAlone names options ha']
    cases resolveAll names q.table columns with
    | error failure => exact .inl ⟨failure, rfl, rfl⟩
    | ok targets =>
      obtain ⟨hsql, hvalues, hrows⟩ := (Searcher.ofConfig config).attached_of_caseVariants
        (Searcher.engine_ofConfig config) q targets h
        ((Searcher.ofConfig config).config.rules options)
      exact .inr ⟨_, _, rfl, rfl, hvalues.length_eq, hsql, hvalues, hrows⟩

theorem letter_case_irrelevant_oak :
    Text.CaseVariants "OAK-li" "oAk-LI" ∧
    ∃ found found',
      ((Searcher.ofConfig {}).search people.resolver earlierPeople (some "OAK-li")
        ["name", "manager.name"] {}).outcome = .ok found ∧
      ((Searcher.ofConfig {}).search people.resolver earlierPeople (some "oAk-LI")
        ["name", "manager.name"] {}).outcome = .ok found' ∧
      found.statement.sql = found'.statement.sql ∧
      ∃ filter filter' ranking ranking', earlierPeople.Gains found filter ranking ∧
        earlierPeople.Gains found' filter' ranking' ∧
        ∀ (db : Database) (row : db.Row), filter.truth db.reading [("users", row)] =
          filter'.truth db.reading [("users", row)] := by
  have h : Text.CaseVariants "OAK-li" "oAk-LI" := by
    rw [Text.CaseVariants]
    decide
  have hsearched : ¬ earlierPeople.LeftAlone (some "OAK-li") ["name", "manager.name"] :=
    Select.not_leftAlone rfl (by decide) (List.cons_ne_nil _ _)
  refine ⟨h, ?_⟩
  rcases letter_case_irrelevant {} people.resolver earlierPeople ["name", "manager.name"] {} h with
    ⟨ha, -⟩ | ⟨-, -, ⟨failure, hf, -⟩ | hfound⟩
  · exact absurd ha hsearched
  · cases hf
  · obtain ⟨found, found', hs, hs', -, hsql, -, hgains⟩ := hfound
    obtain ⟨filter, filter', ranking, ranking', hg, hg', -, hrows⟩ := hgains
    refine ⟨found, found', hs, hs', hsql, filter, filter', ranking, ranking', hg, hg', ?_⟩
    intro db row
    exact (hrows db.Scope db.reading db.comparesText_reading [("users", row)]).1

end TermSearch
