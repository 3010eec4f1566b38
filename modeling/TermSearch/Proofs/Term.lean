import TermSearch.Proofs.Text.Occurrence
import TermSearch.Proofs.Text.Words
import TermSearch.Term

/-! The three forms of a term and how they contain each other: every token occurs in the stripped
term, which is made of the characters of the trimmed one. -/

namespace TermSearch

open Text

theorem tokenize_congr {s t : String} (h : words s = words t) (r : Rules) :
    tokenize s r = tokenize t r := by
  rw [tokenize, tokenize, h]

theorem tokenize_trim (s : String) (r : Rules) : tokenize (trim s) r = tokenize s r :=
  tokenize_congr (words_trim s) r

theorem tokenize_of_words_eq_append {s a b : String} (h : words s = words a ++ words b)
    (r : Rules) : tokenize s r = tokenize a r ++ tokenize b r := by
  simp only [tokenize, h, List.map_append, List.filter_append]
  split <;> rfl

theorem tokenize_subset {s t : String} (h : words s ⊆ words t) (r : Rules) :
    tokenize s r ⊆ tokenize t r := by
  have hstripped : (words s).map strip ⊆ (words t).map strip := List.map_subset strip h
  simp only [tokenize]
  split
  · exact List.filter_subset r.isSignificant hstripped
  · exact hstripped

theorem Text.occurs_strip_of_trim {s x : String} (h : Occurs (trim s) x) :
    Occurs (strip s) (strip x) := by
  have hs := h.strip
  rwa [strip_trim] at hs

def tokenWords (s : String) (r : Rules) : List String :=
  if r.wordBasedMatching then (words s).filter fun word => r.isSignificant (strip word) else words s

theorem map_strip_tokenWords (s : String) (r : Rules) :
    (tokenWords s r).map strip = tokenize s r := by
  rw [tokenWords, tokenize]
  split
  · rw [List.filter_map]
    rfl
  · rfl

theorem tokenWords_sublist (s : String) (r : Rules) : List.Sublist (tokenWords s r) (words s) := by
  rw [tokenWords]
  split
  · exact List.filter_sublist
  · exact List.Sublist.refl _

theorem exists_word_of_mem_tokenize {token s : String} {r : Rules} (h : token ∈ tokenize s r) :
    ∃ word ∈ words s, strip word = token := by
  rw [← map_strip_tokenWords] at h
  obtain ⟨word, hw, rfl⟩ := List.mem_map.1 h
  exact ⟨word, (tokenWords_sublist s r).subset hw, rfl⟩

theorem placed_tokenWords (s : String) (r : Rules) :
    Placed ((tokenWords s r).map String.toList) (trim s).toList := by
  have hwords : (words s).map String.toList = wordChars (trim s).toList := by
    rw [← words_trim, words, List.map_map]
    simp
  have hall : Placed ((words s).map String.toList) (trim s).toList := by
    rw [hwords]
    exact placed_wordChars _
  exact hall.sublist ((tokenWords_sublist s r).map _)

theorem placed_tokenize (s : String) (r : Rules) :
    Placed ((tokenize s r).map String.toList) (strip s).toList := by
  -- Stripped, all words stand side by side; those without a token are gaps between the others.
  have hall : Placed ((words s).map fun word => (strip word).toList) (strip s).toList := by
    rw [toList_strip_eq_flatMap_words, List.flatMap_def]
    exact placed_flatten _
  rw [← map_strip_tokenWords, List.map_map]
  exact hall.sublist ((tokenWords_sublist s r).map _)

theorem infix_of_mem_tokenize {token s : String} {r : Rules} (h : token ∈ tokenize s r) :
    token.toList <:+: (strip s).toList :=
  (placed_tokenize s r).isInfix_of_mem (List.mem_map_of_mem h)

theorem join_tokenize {r : Rules} (hr : r.wordBasedMatching = false) (s : String) :
    String.join (tokenize s r) = strip s := by
  apply String.ext
  rw [String.toList_join, toList_strip_eq_flatMap_words, tokenize, hr, if_neg Bool.false_ne_true,
    List.flatMap_map]

namespace Term

@[simp] theorem raw_ofText (s : String) (r : Rules) : (ofText s r).raw = trim s := rfl

@[simp] theorem normalized_ofText (s : String) (r : Rules) :
    (ofText s r).normalized = strip s :=
  strip_trim s

theorem matchTokens_ofText (s : String) (r : Rules) :
    (ofText s r).matchTokens r = if r.wordBasedMatching then tokenize s r else [] := by
  rw [matchTokens, ofText, tokenize_trim]

@[simp] theorem ofText_trim (s : String) (r : Rules) : ofText (trim s) r = ofText s r := by
  rw [ofText, ofText, trim_trim]

theorem occurs_matchTokens {token s : String} {r : Rules}
    (h : token ∈ (ofText s r).matchTokens r) : Occurs token (strip s) := by
  rw [matchTokens_ofText] at h
  split at h
  · exact .of_isInfix (infix_of_mem_tokenize h)
  · exact absurd h List.not_mem_nil

end Term

/-- Without word matching the tokens make up the stripped term. In any case each has a stretch of it
for itself, in their order, and the words that they come from stand so in the trimmed term. -/
theorem tokens_tile (s : String) (r : Rules) :
    (r.wordBasedMatching = false →
      String.join (tokenize s r) = strip s ∧
      String.join (tokenize s r) = (Term.ofText s r).normalized) ∧
    (∃ spans, Marks spans ((tokenize s r).map String.toList) (strip s).toList) ∧
    (tokenWords s r).map strip = tokenize s r ∧
    List.Sublist (tokenWords s r) (words s) ∧
    (∀ word ∈ tokenWords s r, word.toList <:+: (Term.ofText s r).raw.toList) ∧
    ∃ spans, Marks spans ((tokenWords s r).map String.toList) (Term.ofText s r).raw.toList := by
  refine ⟨fun hr => ⟨join_tokenize hr s, ?_⟩, (placed_tokenize s r).exists_marks,
    map_strip_tokenWords s r, tokenWords_sublist s r, fun word hw => ?_, ?_⟩
  · rw [join_tokenize hr, Term.normalized_ofText]
  · exact (placed_tokenWords s r).isInfix_of_mem (List.mem_map_of_mem hw)
  · exact (placed_tokenWords s r).exists_marks

def everyWord : Rules :=
  Config.rules {} (Options.withWordBasedMatching {} false)

theorem tokens_tile_brien :
    everyWord.wordBasedMatching = false ∧
    String.join (tokenize " Jane-Doe\u3000-- O'Brien" everyWord) = "JaneDoeOBrien" ∧
    "O'Brien" ∈ tokenWords " Jane-Doe\u3000-- O'Brien" everyWord ∧
    "O'Brien".toList <:+: (Term.ofText " Jane-Doe\u3000-- O'Brien" everyWord).raw.toList := by
  have hr : everyWord.wordBasedMatching = false := rfl
  have hword : "O'Brien" ∈ tokenWords " Jane-Doe\u3000-- O'Brien" everyWord := by decide
  obtain ⟨hjoin, -, -, -, hinfix, -⟩ := tokens_tile " Jane-Doe\u3000-- O'Brien" everyWord
  refine ⟨hr, ?_, hword, hinfix _ hword⟩
  rw [(hjoin hr).1]
  decide

end TermSearch
