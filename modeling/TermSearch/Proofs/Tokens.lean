import TermSearch.Proofs.Ignored

/-! Tokens come from the words of a text one by one: texts that meet at a blank have their tokens side
by side, and with word matching on only those of significant words are kept, in their order and as
often as they stand there. -/

namespace TermSearch

open Text

theorem tokenize_append_blank (a b : String) {w : Char} (h : isBlank w = true) (r : Rules) :
    tokenize (a ++ String.singleton w ++ b) r = tokenize a r ++ tokenize b r :=
  tokenize_of_words_eq_append (words_append_blank a b h) r

theorem tokenize_of_blanks {s : String} (h : ∀ c ∈ s.toList, isBlank c = true) (r : Rules) :
    tokenize s r = [] := by
  rw [tokenize, (words_eq_nil_iff s).2 h]
  split <;> rfl

theorem tokenize_of_not_wordBasedMatching (s : String) {r : Rules}
    (hr : r.wordBasedMatching = false) : tokenize s r = (words s).map strip := by
  rw [tokenize, hr]
  rfl

theorem tokenize_eq_filter (s : String) {r : Rules} (hr : r.wordBasedMatching = true) :
    tokenize s r = ((words s).map strip).filter r.isSignificant := by
  rw [tokenize, if_pos hr]

namespace Text

/-- A word that is put between two parts of a text, with blanks where it needs them. It cuts no word
and is one of its own. -/
structure Insertion where
  before : String
  leading : String
  word : String
  trailing : String
  after : String
  boundary : Boundary before after
  leading_blank : ∀ c ∈ leading.toList, isBlank c = true
  trailing_blank : ∀ c ∈ trailing.toList, isBlank c = true
  delimited : Delimited (before ++ leading) word (trailing ++ after)

namespace Insertion

variable (i : Insertion)

def original : String :=
  i.before ++ i.after

def inserted : String :=
  i.before ++ i.leading ++ i.word ++ (i.trailing ++ i.after)

theorem tokenize_original (r : Rules) :
    tokenize i.original r = tokenize i.before r ++ tokenize i.after r :=
  tokenize_of_words_eq_append i.boundary.words_append r

theorem tokenize_inserted (r : Rules) :
    tokenize i.inserted r = tokenize i.before r ++ (tokenize i.word r ++ tokenize i.after r) := by
  rw [inserted, tokenize_delimited i.delimited,
    tokenize_congr (words_append_blanks _ i.leading_blank),
    tokenize_congr (words_blanks_append i.trailing_blank _)]

end Insertion

end Text

namespace Term

theorem matchTokens_inserted (i : Insertion) {r : Rules}
    (h : r.isSignificant (strip i.word) = false) :
    (ofText i.inserted r).matchTokens r = (ofText i.original r).matchTokens r := by
  rw [matchTokens_ofText, matchTokens_ofText]
  split
  next hr =>
    have hword : tokenize i.word r = [] := by
      rw [tokenize_word i.delimited hr, h, if_neg Bool.false_ne_true]
    rw [i.tokenize_inserted, i.tokenize_original, hword, List.nil_append]
  next => rfl

theorem matchTokens_eq_filter (s : String) {r : Rules} (hr : r.wordBasedMatching = true) :
    (ofText s r).matchTokens r = ((words s).map strip).filter r.isSignificant := by
  rw [matchTokens_ofText, if_pos hr, tokenize_eq_filter s hr]

theorem matchTokens_eq_nil (s : String) {r : Rules} (hr : r.wordBasedMatching = false) :
    (ofText s r).matchTokens r = [] := by
  rw [matchTokens_ofText, hr, if_neg Bool.false_ne_true]

theorem matchTokens_sublist (s : String) (r : Rules) :
    List.Sublist ((ofText s r).matchTokens r) ((words s).map strip) := by
  rw [matchTokens_ofText]
  split
  · rw [← map_strip_tokenWords]
    exact (tokenWords_sublist s r).map strip
  · exact List.nil_sublist _

theorem isSignificant_of_mem_matchTokens {token s : String} {r : Rules}
    (h : token ∈ (ofText s r).matchTokens r) : r.isSignificant token = true := by
  cases hr : r.wordBasedMatching with
  | false =>
    rw [matchTokens_eq_nil s hr] at h
    exact absurd h List.not_mem_nil
  | true =>
    rw [matchTokens_eq_filter s hr] at h
    exact (List.mem_filter.1 h).2

theorem isAlphanum_of_mem_matchTokens {token s : String} {r : Rules}
    (h : token ∈ (ofText s r).matchTokens r) : ∀ c ∈ token.toList, c.isAlphanum = true := by
  obtain ⟨word, -, rfl⟩ := List.mem_map.1 ((matchTokens_sublist s r).subset h)
  intro c hc
  rw [← isPlain_eq_isAlphanum]
  exact (List.mem_filter.1 (toList_strip word ▸ hc)).2

end Term

theorem Rules.isSignificant_iff (r : Rules) (word : String) :
    r.isSignificant word = true ↔ 2 < word.length ∧ lower word ∉ r.ignoreSuffixes := by
  rw [isSignificant, ignores, Bool.and_eq_true, decide_eq_true_eq, Bool.not_eq_true',
    ← Bool.not_eq_true, List.contains_iff_mem]

/-- A text has the tokens of its parts between blanks. With word matching on they are, of all stripped
words, those of more than two characters that are not to be ignored, so that any other word can be put
anywhere without a change. -/
theorem tokens_distribute (r : Rules) :
    (∀ (a b : String) (w : Char), isBlank w = true →
      tokenize (a ++ String.singleton w ++ b) r = tokenize a r ++ tokenize b r) ∧
    (∀ s : String, (∀ c ∈ s.toList, isBlank c = true) → tokenize s r = []) ∧
    (r.wordBasedMatching = true → ∀ s : String,
      tokenize s r = (tokenize s { r with wordBasedMatching := false }).filter fun token =>
        2 < token.length ∧ lower token ∉ r.ignoreSuffixes) ∧
    (∀ i : Insertion, (strip i.word).length ≤ 2 ∨ lower (strip i.word) ∈ r.ignoreSuffixes →
      (Term.ofText i.inserted r).matchTokens r = (Term.ofText i.original r).matchTokens r) ∧
    ∀ s : String,
      (∀ token ∈ (Term.ofText s r).matchTokens r,
        3 ≤ token.length ∧ ∀ c ∈ token.toList, c.isAlphanum = true) ∧
      List.Sublist ((Term.ofText s r).matchTokens r) ((words s).map strip) ∧
      (r.wordBasedMatching = true → ∀ token : String, 3 ≤ token.length →
        lower token ∉ r.ignoreSuffixes →
        ((Term.ofText s r).matchTokens r).count token = ((words s).map strip).count token) := by
  refine ⟨fun a b w hw => tokenize_append_blank a b hw r, fun s hs => tokenize_of_blanks hs r, ?_,
    ?_, fun s => ⟨?_, Term.matchTokens_sublist s r, ?_⟩⟩
  · intro hr s
    rw [tokenize_eq_filter s hr, tokenize_of_not_wordBasedMatching s rfl]
    refine List.filter_congr fun token _ => ?_
    rw [Bool.eq_iff_iff, r.isSignificant_iff, decide_eq_true_eq]
  · intro i hi
    apply Term.matchTokens_inserted
    rw [Bool.eq_false_iff, Ne, r.isSignificant_iff]
    rintro ⟨hlong, hkept⟩
    rcases hi with hshort | hignored
    · omega
    · exact hkept hignored
  · intro token htoken
    have hs := (r.isSignificant_iff token).1 (Term.isSignificant_of_mem_matchTokens htoken)
    exact ⟨hs.1, Term.isAlphanum_of_mem_matchTokens htoken⟩
  · intro hr token hlong hkept
    rw [Term.matchTokens_eq_filter s hr]
    exact List.count_filter ((r.isSignificant_iff token).2 ⟨hlong, hkept⟩)

def lagosState : Insertion where
  before := "Lagos"
  leading := " "
  word := "STATE"
  trailing := ""
  after := "\tIkeja Lagos"
  boundary := .inr ((Option.all_eq_true _ _).1 rfl)
  leading_blank := List.all_eq_true.1 rfl
  trailing_blank := List.all_eq_true.1 rfl
  delimited := by decide

theorem tokens_distribute_lagos :
    isBlank '\u3000' = true ∧
    tokenize ("Ikeja" ++ String.singleton '\u3000' ++ "Lagos") (Config.rules {} {}) =
      tokenize "Ikeja" (Config.rules {} {}) ++ tokenize "Lagos" (Config.rules {} {}) ∧
    (∀ c ∈ " \t".toList, isBlank c = true) ∧ tokenize " \t" (Config.rules {} {}) = [] ∧
    lower (strip lagosState.word) ∈ (Config.rules {} {}).ignoreSuffixes ∧
    (Term.ofText "Lagos STATE\tIkeja Lagos" (Config.rules {} {})).matchTokens (Config.rules {} {}) =
      (Term.ofText "Lagos\tIkeja Lagos" (Config.rules {} {})).matchTokens (Config.rules {} {}) ∧
    ((Term.ofText "Lagos\tIkeja Lagos" (Config.rules {} {})).matchTokens (Config.rules {} {})).count
      "Lagos" = 2 := by
  have hw : isBlank '\u3000' = true := by decide
  have hblank : ∀ c ∈ " \t".toList, isBlank c = true := List.all_eq_true.1 rfl
  have hignored : lower (strip lagosState.word) ∈ (Config.rules {} {}).ignoreSuffixes := by decide
  have hr : (Config.rules {} {}).wordBasedMatching = true := rfl
  have hkept : lower "Lagos" ∉ (Config.rules {} {}).ignoreSuffixes := by decide
  obtain ⟨happend, hnone, -, hinsert, htokens⟩ := tokens_distribute (Config.rules {} {})
  obtain ⟨-, -, hcount⟩ := htokens "Lagos\tIkeja Lagos"
  refine ⟨hw, happend _ _ _ hw, hblank, hnone _ hblank, hignored, ?_, ?_⟩
  · exact hinsert lagosState (.inr hignored)
  · rw [hcount hr "Lagos" (by decide) hkept]
    decide

end TermSearch
