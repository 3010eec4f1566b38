import TermSearch.Proofs.Search.Selection
import TermSearch.Proofs.Text.Stripped
import TermSearch.Statement.Rendering

/-! Punctuation in terms and texts. With normalization on, a match as typed is also one without
punctuation, so a column answers for the lowercase letters and digits of its text and of the term
alone. -/

namespace TermSearch

namespace Term

theorem exists_word_of_mem_matchTokens {token s : String} {r : Rules}
    (h : token ∈ (ofText s r).matchTokens r) : ∃ word, Text.strip word = token := by
  rw [matchTokens_ofText] at h
  split at h
  · obtain ⟨word, -, hw⟩ := exists_word_of_mem_tokenize h
    exact ⟨word, hw⟩
  · exact absurd h List.not_mem_nil

theorem exists_occurs_matchTokens_iff (s x : String) (r : Rules) :
    (∃ token ∈ (ofText s r).matchTokens r, Text.Occurs token (Text.strip x)) ↔
      ∃ word ∈ ((ofText s r).matchTokens r).map Text.lower,
        word.toList <:+: (Text.lower (Text.strip x)).toList := by
  simp only [List.mem_map, exists_exists_and_eq_and]
  refine exists_congr fun token => and_congr_right fun h => ?_
  obtain ⟨word, rfl⟩ := exists_word_of_mem_matchTokens h
  exact Text.occurs_strip_iff word x

end Term

structure Rules.Equates (r : Rules) (s s' : String) : Prop where
  stripped : Text.lower (Text.strip s) = Text.lower (Text.strip s')
  tokens : ((Term.ofText s r).matchTokens r).map Text.lower =
    ((Term.ofText s' r).matchTokens r).map Text.lower

namespace Rules

variable {r : Rules} {s s' x x' : String}

theorem accepts_iff_of_normalize (hn : r.normalize = true) (s x : String) :
    r.Accepts s x ↔ Text.Occurs (Text.strip s) (Text.strip x) ∨
      ∃ token ∈ (Term.ofText s r).matchTokens r, Text.Occurs token (Text.strip x) := by
  rw [accepts_iff_matchTokens]
  simp only [hn, true_and]
  constructor
  · rintro (hraw | h)
    · exact .inl (Text.occurs_strip_of_trim hraw)
    · exact h
  · exact .inr

theorem accepts_congr (hn : r.normalize = true) (h : r.Equates s s')
    (hx : Text.lower (Text.strip x) = Text.lower (Text.strip x')) :
    r.Accepts s x ↔ r.Accepts s' x' := by
  rw [accepts_iff_of_normalize hn, accepts_iff_of_normalize hn, Text.occurs_strip_iff,
    Text.occurs_strip_iff, Term.exists_occurs_matchTokens_iff, Term.exists_occurs_matchTokens_iff,
    h.stripped, h.tokens, hx]

theorem equates_of_strip_eq (hw : r.wordBasedMatching = false)
    (h : Text.strip s = Text.strip s') : r.Equates s s' where
  stripped := congrArg Text.lower h
  tokens := by rw [Term.matchTokens_ofText, Term.matchTokens_ofText, hw]; rfl

end Rules

namespace Engine

variable {r : Rules} {s s' : String}

theorem truth_ilike_congr (hn : r.normalize = true) (h : r.Equates s s') {ρ : Type}
    (I : Reading ρ) {p : ρ} {text : Column → Option String}
    (hI : I.like p = TextView.likeIn text) (c : Column) :
    (ilike.condition c (.ofText s r) r).truth I p =
      (ilike.condition c (.ofText s' r) r).truth I p := by
  rw [truth_ilike_text I hI, truth_ilike_text I hI]
  simp only [Rules.accepts_congr hn h rfl]

end Engine

/-- What a column answers with normalization on: the comparison of the term as typed adds no text to
those of its stripped form and words, so neither punctuation nor case counts, on either side. The
pattern that strips a column in a statement deletes what stripping a term deletes. -/
theorem punctuation_tolerance {r : Rules} (hn : r.normalize = true) :
    (∀ (ρ : Type) (I : Reading ρ) (p : ρ) (text : Column → Option String),
      I.like p = TextView.likeIn text → ∀ (c : Column) (s x : String), text c = some x →
      ((Engine.ilike.condition c (.ofText s r) r).truth I p = .yes ↔
        Text.Occurs (Text.strip s) (Text.strip x) ∨
          ∃ token ∈ (Term.ofText s r).matchTokens r, Text.Occurs token (Text.strip x)) ∧
      (((TextView.cast c).contains (Term.ofText s r).raw).truth I p = .yes →
        ((TextView.stripped c).contains (Term.ofText s r).normalized).truth I p = .yes)) ∧
    (∀ (ρ ρ' : Type) (I : Reading ρ) (I' : Reading ρ') (p : ρ) (p' : ρ')
      (text text' : Column → Option String),
      I.like p = TextView.likeIn text → I'.like p' = TextView.likeIn text' →
      ∀ (c c' : Column) (s s' x x' : String), r.Equates s s' → text c = some x →
      text' c' = some x' → Text.lower (Text.strip x) = Text.lower (Text.strip x') →
      (Engine.ilike.condition c (.ofText s r) r).truth I p =
        (Engine.ilike.condition c' (.ofText s' r) r).truth I' p') ∧
    (r.wordBasedMatching = false → ∀ s s', Text.strip s = Text.strip s' →
      (∀ (ρ : Type) (I : Reading ρ) (p : ρ) (text : Column → Option String),
        I.like p = TextView.likeIn text → ∀ c : Column,
        (Engine.ilike.condition c (.ofText s r) r).truth I p =
          (Engine.ilike.condition c (.ofText s' r) r).truth I p) ∧
      ∀ (config : Config) (options : Options), config.rules options = r →
      ∀ (names : Resolver) (q : Select) (columns : List String), Text.trim s ≠ "" →
      Text.trim s' ≠ "" → ∀ found,
      ((Searcher.ofConfig config).search names q (some s) columns options).outcome = .ok found →
      ∃ found',
        ((Searcher.ofConfig config).search names q (some s') columns options).outcome = .ok found' ∧
        ∀ (db : Database) (row : db.Row), found.Selects db row ↔ found'.Selects db row) ∧
    (∀ (d : Dialect) (c : Column), (TextView.stripped c).pieces d =
      .fixed "REGEXP_REPLACE(" :: c.castPieces d ++
        [.fixed (", '" ++ Text.unplainPattern ++ "', '', 'g')")]) ∧
    ∀ x, Text.deleteMatches Text.unplainPattern x = Text.strip x := by
  refine ⟨?_, ?_, ?_, fun _ _ => rfl, Text.deleteMatches_unplainPattern⟩
  · intro ρ I p text hI c s x hx
    constructor
    · rw [Engine.truth_ilike_text_iff I hI, hx]
      simp only [Option.some_inj, exists_eq_left', Rules.accepts_iff_of_normalize hn]
    · rw [TextView.contains, TextView.contains, Condition.truth, Condition.truth, hI,
        TextView.likeIn_cast_eq_yes_iff, TextView.likeIn_stripped_eq_yes_iff, Term.raw_ofText,
        Term.normalized_ofText]
      rintro ⟨y, hy, ho⟩
      exact ⟨y, hy, Text.occurs_strip_of_trim ho⟩
  · intro ρ ρ' I I' p p' text text' hI hI' c c' s s' x x' h hx hx' he
    rw [Engine.truth_ilike_text I hI, Engine.truth_ilike_text I' hI', hx, hx']
    simp only [Option.map_some, Rules.accepts_congr hn h he]
  · intro hw s s' hs
    have he : r.Equates s s' := Rules.equates_of_strip_eq hw hs
    refine ⟨fun ρ I p text hI c => Engine.truth_ilike_congr hn he I hI c, ?_⟩
    rintro config options rfl names q columns ht ht' found hfound
    refine (Searcher.ofConfig config).exists_selects_iff names q options ht ht' ?_ hfound
    intro db c scope
    rw [Searcher.engine_ofConfig]
    exact Engine.truth_ilike_congr hn he db.reading rfl c

theorem punctuation_tolerance_phone :
    (Config.rules {} { wordBasedMatching := some false }).normalize = true ∧
    (∀ (ρ : Type) (I : Reading ρ) (p : ρ) (text : Column → Option String),
      I.like p = TextView.likeIn text → ∀ c : Column, text c = some "+1 (555) 123-4567" →
      (Engine.ilike.condition c
        (.ofText "555.123" (Config.rules {} { wordBasedMatching := some false }))
        (Config.rules {} { wordBasedMatching := some false })).truth I p = .yes) ∧
    ∃ found found',
      ((Searcher.ofConfig {}).search people.resolver (.ofTable "users" .postgres) (some "(555) 12-34")
        ["name", "manager.name"] { wordBasedMatching := some false }).outcome = .ok found ∧
      ((Searcher.ofConfig {}).search people.resolver (.ofTable "users" .postgres) (some " 555.1234")
        ["name", "manager.name"] { wordBasedMatching := some false }).outcome = .ok found' ∧
      ∀ (db : Database) (row : db.Row), found.Selects db row ↔ found'.Selects db row := by
  have hn : (Config.rules {} { wordBasedMatching := some false }).normalize = true := rfl
  obtain ⟨hcolumn, -, hsame, -, -⟩ := punctuation_tolerance hn
  refine ⟨hn, ?_, ?_⟩
  · intro ρ I p text hI c hx
    exact (hcolumn ρ I p text hI c "555.123" _ hx).1.2 (.inl (by decide))
  · obtain ⟨found, hs⟩ : ∃ found, ((Searcher.ofConfig {}).search people.resolver
        (.ofTable "users" .postgres) (some "(555) 12-34") ["name", "manager.name"]
        { wordBasedMatching := some false }).outcome = .ok found := ⟨_, rfl⟩
    obtain ⟨found', hs', hiff⟩ := (hsame rfl "(555) 12-34" " 555.1234" (by decide)).2 {}
      { wordBasedMatching := some false } rfl people.resolver (.ofTable "users" .postgres)
      ["name", "manager.name"] (by decide) (by decide) found hs
    exact ⟨found, found', hs, hs', hiff⟩

end TermSearch
