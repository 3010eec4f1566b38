import TermSearch.Proofs.Search.Tolerance

/-! Terms with more words. A match of a term with a significant word is always a match of such a
word, so that further words on either side of the term lose no row. -/

namespace TermSearch

theorem Term.matchTokens_subset {s t : String} (h : Text.words s ⊆ Text.words t) (r : Rules) :
    (ofText s r).matchTokens r ⊆ (ofText t r).matchTokens r := by
  rw [matchTokens_ofText, matchTokens_ofText]
  split
  · exact tokenize_subset h r
  · exact List.Subset.refl []

theorem Term.matchTokens_append_blank (s t : String) {b : Char} (h : Text.isBlank b = true)
    (r : Rules) : (ofText (s ++ String.singleton b ++ t) r).matchTokens r =
      (ofText s r).matchTokens r ++ (ofText t r).matchTokens r := by
  simp only [matchTokens_ofText, tokenize_of_words_eq_append (Text.words_append_blank s t h)]
  split <;> rfl

namespace Rules

variable {r : Rules} {s t : String}

theorem accepts_iff_of_matchTokens_ne_nil (hn : r.normalize = true)
    (hs : (Term.ofText s r).matchTokens r ≠ []) (x : String) :
    r.Accepts s x ↔
      ∃ token ∈ (Term.ofText s r).matchTokens r, Text.Occurs token (Text.strip x) := by
  rw [accepts_iff_of_normalize hn]
  constructor
  · rintro (hwhole | hword)
    · obtain ⟨token, htoken⟩ := List.exists_mem_of_ne_nil _ hs
      exact ⟨token, htoken, (Term.occurs_matchTokens htoken).trans hwhole⟩
    · exact hword
  · exact .inr

theorem Accepts.of_words_subset (hn : r.normalize = true)
    (hs : (Term.ofText s r).matchTokens r ≠ []) (h : Text.words s ⊆ Text.words t) {x : String}
    (hx : r.Accepts s x) : r.Accepts t x := by
  obtain ⟨token, htoken, ho⟩ := (accepts_iff_of_matchTokens_ne_nil hn hs x).1 hx
  exact (accepts_iff_of_normalize hn t x).2 (.inr ⟨token, Term.matchTokens_subset h r htoken, ho⟩)

theorem accepts_strip (hn : r.normalize = true) (s : String) : r.Accepts s (Text.strip s) := by
  rw [accepts_iff_of_normalize hn, Text.strip_strip]
  exact .inl (List.infix_refl _)

theorem not_accepts_digit_strip (hn : r.normalize = true)
    (hs : (Term.ofText s r).matchTokens r = []) :
    ¬ r.Accepts (s ++ String.singleton ' ' ++ "1") (Text.strip s) := by
  have hdigit : (Term.ofText "1" r).matchTokens r = [] := by
    have hwords : (Text.words "1").map Text.strip = ["1"] := by decide
    have hshort : r.isSignificant "1" = false := rfl
    rw [Term.matchTokens_ofText, tokenize, hwords, List.filter_cons, hshort]
    split <;> rfl
  have htokens : (Term.ofText (s ++ String.singleton ' ' ++ "1") r).matchTokens r = [] := by
    rw [Term.matchTokens_append_blank s "1" rfl, hs, hdigit]
    rfl
  rw [accepts_iff_of_normalize hn, htokens, Text.strip_strip]
  rintro (hwhole | ⟨token, htoken, -⟩)
  · -- The digit makes the stripped term longer than the text that it should occur in.
    have hlength := hwhole.length_le
    have hone : (Text.strip "1").toList.length = 1 := by decide
    simp only [Text.strip_append, List.length_map, String.toList_append, List.length_append,
      hone] at hlength
    omega
  · exact absurd htoken List.not_mem_nil

end Rules

/-- With normalization on, a text that matches a term with a significant word matches it still when
words are added on either side. Without such a word some text is lost, whatever the term. -/
theorem significant_words_keep_rows {r : Rules} (hn : r.normalize = true) (s : String) :
    ((Term.ofText s r).matchTokens r ≠ [] →
      ∀ (t : String) (b : Char), Text.isBlank b = true →
      ∀ (ρ : Type) (I : Reading ρ) (p : ρ) (text : Column → Option String),
        I.like p = TextView.likeIn text → ∀ c : Column,
        (Engine.ilike.condition c (.ofText s r) r).truth I p = .yes →
        (Engine.ilike.condition c (.ofText (s ++ String.singleton b ++ t) r) r).truth I p = .yes ∧
        (Engine.ilike.condition c (.ofText (t ++ String.singleton b ++ s) r) r).truth I p = .yes) ∧
    ((Term.ofText s r).matchTokens r = [] →
      ∃ (t x : String) (b : Char), Text.isBlank b = true ∧
      ∀ (ρ : Type) (I : Reading ρ) (p : ρ) (text : Column → Option String),
        I.like p = TextView.likeIn text → ∀ c : Column, text c = some x →
        (Engine.ilike.condition c (.ofText s r) r).truth I p = .yes ∧
        (Engine.ilike.condition c (.ofText (s ++ String.singleton b ++ t) r) r).truth I p =
          .no) := by
  constructor
  · intro hs t b hb ρ I p text hI c hy
    obtain ⟨x, hx, ha⟩ := (Engine.truth_ilike_text_iff I hI c s r).1 hy
    have hright : Text.words s ⊆ Text.words (s ++ String.singleton b ++ t) := by
      rw [Text.words_append_blank s t hb]
      exact List.subset_append_left _ _
    have hleft : Text.words s ⊆ Text.words (t ++ String.singleton b ++ s) := by
      rw [Text.words_append_blank t s hb]
      exact List.subset_append_right _ _
    rw [Engine.truth_ilike_text_iff I hI, Engine.truth_ilike_text_iff I hI]
    exact ⟨⟨x, hx, ha.of_words_subset hn hs hright⟩, ⟨x, hx, ha.of_words_subset hn hs hleft⟩⟩
  · intro hs
    refine ⟨"1", Text.strip s, ' ', rfl, fun ρ I p text hI c hx => ?_⟩
    rw [Engine.truth_ilike_text I hI, Engine.truth_ilike_text I hI, hx, Option.map_some,
      Option.map_some, decide_eq_true (Rules.accepts_strip hn s),
      decide_eq_false (Rules.not_accepts_digit_strip hn hs)]
    exact ⟨rfl, rfl⟩

theorem significant_words_keep_rows_lagos :
    (Config.rules {} {}).normalize = true ∧
    (Term.ofText "Lagos State" (Config.rules {} {})).matchTokens (Config.rules {} {}) ≠ [] ∧
    ∀ (t : String) (b : Char), Text.isBlank b = true →
    ∀ (ρ : Type) (I : Reading ρ) (p : ρ) (text : Column → Option String),
      I.like p = TextView.likeIn text → ∀ c : Column, text c = some "lagos" →
      (Engine.ilike.condition c (.ofText ("Lagos State" ++ String.singleton b ++ t)
        (Config.rules {} {})) (Config.rules {} {})).truth I p = .yes := by
  have hn : (Config.rules {} {}).normalize = true := rfl
  have hs : (Term.ofText "Lagos State" (Config.rules {} {})).matchTokens (Config.rules {} {}) ≠
      [] := by
    decide
  refine ⟨hn, hs, fun t b hb ρ I p text hI c hx => ?_⟩
  have ha : (Config.rules {} {}).Accepts "Lagos State" "lagos" := by decide
  have hy := (Engine.truth_ilike_text_iff I hI c "Lagos State" (Config.rules {} {})).2 ⟨_, hx, ha⟩
  exact ((significant_words_keep_rows hn "Lagos State").1 hs t b hb ρ I p text hI c hy).1

end TermSearch
