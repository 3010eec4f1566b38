import TermSearch.Proofs.Term
import TermSearch.Proofs.Text.Stripped

/-! Words that a search is told to ignore. A word is looked up in stripped form among entries that
are lowercased but not stripped, so that only an entry of ASCII letters and digits does what it
says. -/

namespace TermSearch

open Text

namespace Text

theorem strip_of_isPlain {s : String} (h : ∀ c ∈ s.toList, isPlain c = true) : strip s = s :=
  String.ext (by rw [toList_strip, List.filter_eq_self.2 h])

theorem isPlain_of_mem_lower_strip {s : String} {c : Char} (h : c ∈ (lower (strip s)).toList) :
    isPlain c = true := by
  rw [toList_lower_strip] at h
  obtain ⟨d, hd, rfl⟩ := List.mem_map.1 h
  rw [toList_strip] at hd
  rw [isPlain_toLower]
  exact (List.mem_filter.1 hd).2

theorem lower_strip_ne {entry : String} (h : ∃ c ∈ (lower entry).toList, isPlain c = false)
    (s : String) : lower (strip s) ≠ lower entry := by
  obtain ⟨c, hc, hplain⟩ := h
  intro he
  have hmem : c ∈ (lower (strip s)).toList := by rw [he]; exact hc
  exact absurd (isPlain_of_mem_lower_strip hmem) (Bool.eq_false_iff.1 hplain)

end Text

def Config.ignoreList (c : Config) (o : Options) : List String :=
  o.ignoreSuffixes.getD c.ignoreSuffixes

theorem Config.ignores_rules_iff (c : Config) (o : Options) (word : String) :
    (c.rules o).ignores word = true ↔ ∃ entry ∈ c.ignoreList o, lower word = lower entry := by
  rw [Rules.ignores, List.contains_iff_mem]
  exact List.mem_map.trans (exists_congr fun entry => and_congr_right fun _ => eq_comm)

theorem Config.isSignificant_rules_eq_false_iff (c : Config) (o : Options) (word : String) :
    (c.rules o).isSignificant word = false ↔
      word.length ≤ 2 ∨ ∃ entry ∈ c.ignoreList o, lower word = lower entry := by
  rw [← c.ignores_rules_iff o, Rules.isSignificant, Bool.and_eq_false_iff, decide_eq_false_iff_not,
    Nat.not_lt, Bool.not_eq_false']

section Delimited

variable {before word after : String}

theorem tokenize_delimited (h : Delimited before word after) (r : Rules) :
    tokenize (before ++ word ++ after) r =
      tokenize before r ++ (tokenize word r ++ tokenize after r) := by
  rw [tokenize_of_words_eq_append h.words_append, tokenize_of_words_eq_append h.words_before,
    List.append_assoc]

theorem tokenize_delimited_eq_removed_iff (h : Delimited before word after) (r : Rules) :
    tokenize (before ++ word ++ after) r = tokenize (before ++ after) r ↔ tokenize word r = [] := by
  rw [tokenize_delimited h, tokenize_of_words_eq_append h.words_removed, List.append_cancel_left_eq,
    List.append_left_eq_self]

theorem tokenize_word (h : Delimited before word after) {r : Rules}
    (hr : r.wordBasedMatching = true) :
    tokenize word r = if r.isSignificant (strip word) = true then [strip word] else [] := by
  rw [tokenize, h.words_word, if_pos hr, List.map_singleton, List.filter_cons, List.filter_nil]

end Delimited

/-- When a word of a term that is an entry of the list, whatever its case, has no token: where its
stripped form is short or is an entry as well, and so wherever it is made of ASCII letters and
digits. Any other such word is kept as a token, and an entry with another character is never met. -/
theorem configured_word_ignored_iff (config : Config) (options : Options)
    (hr : (config.rules options).wordBasedMatching = true) {before word after entry : String}
    (h : Text.Delimited before word after) (hentry : entry ∈ config.ignoreList options)
    (hcase : lower word = lower entry) :
    (tokenize (before ++ word ++ after) (config.rules options) =
        tokenize (before ++ after) (config.rules options) ↔
      (strip word).length ≤ 2 ∨
        ∃ other ∈ config.ignoreList options, lower (strip word) = lower other) ∧
    ((∀ c ∈ word.toList, isPlain c = true) →
      tokenize (before ++ word ++ after) (config.rules options) =
        tokenize (before ++ after) (config.rules options)) ∧
    (2 < (strip word).length →
      (∀ other ∈ config.ignoreList options, lower (strip word) ≠ lower other) →
      tokenize (before ++ word ++ after) (config.rules options) =
        tokenize before (config.rules options) ++
          strip word :: tokenize after (config.rules options)) ∧
    ((∃ c ∈ (lower entry).toList, isPlain c = false) → ∀ s, lower (strip s) ≠ lower entry) := by
  have hiff : tokenize (before ++ word ++ after) (config.rules options) =
        tokenize (before ++ after) (config.rules options) ↔
      (strip word).length ≤ 2 ∨
        ∃ other ∈ config.ignoreList options, lower (strip word) = lower other := by
    rw [tokenize_delimited_eq_removed_iff h, tokenize_word h hr,
      ← config.isSignificant_rules_eq_false_iff options, ite_eq_right_iff, Bool.eq_false_iff]
    simp
  refine ⟨hiff, ?_, ?_, lower_strip_ne⟩
  · intro hplain
    refine hiff.2 (.inr ⟨entry, hentry, ?_⟩)
    rw [strip_of_isPlain hplain, hcase]
  · intro hlong hnone
    have hkept : (config.rules options).isSignificant (strip word) = true := by
      rw [← Bool.not_eq_false, config.isSignificant_rules_eq_false_iff options]
      rintro (hshort | ⟨other, hother, he⟩)
      · omega
      · exact hnone other hother he
    rw [tokenize_delimited h, tokenize_word h hr, if_pos hkept]
    rfl

def cooperatives : Options :=
  Options.withIgnoreSuffixes {} ["co-op", "County"]

theorem configured_word_ignored_county :
    (Config.rules {} cooperatives).wordBasedMatching = true ∧
    Text.Delimited "Kern " "COUNTY" " State" ∧ "County" ∈ Config.ignoreList {} cooperatives ∧
    lower "COUNTY" = lower "County" ∧
    tokenize ("Kern " ++ "COUNTY" ++ " State") (Config.rules {} cooperatives) =
      tokenize ("Kern " ++ " State") (Config.rules {} cooperatives) := by
  have hr : (Config.rules {} cooperatives).wordBasedMatching = true := rfl
  have hword : Text.Delimited "Kern " "COUNTY" " State" := by decide
  have hentry : "County" ∈ Config.ignoreList {} cooperatives := by decide
  have hcase : lower "COUNTY" = lower "County" := by decide
  obtain ⟨-, hplain, -, -⟩ := configured_word_ignored_iff {} cooperatives hr hword hentry hcase
  exact ⟨hr, hword, hentry, hcase, hplain (List.all_eq_true.1 rfl)⟩

/-- The word loses its hyphen before it is looked up, and the entry does not. -/
theorem hyphenated_word_kept :
    (Config.rules {} cooperatives).wordBasedMatching = true ∧
    Text.Delimited "Oak " "Co-op" "" ∧ "co-op" ∈ Config.ignoreList {} cooperatives ∧
    lower "Co-op" = lower "co-op" ∧
    tokenize ("Oak " ++ "Co-op" ++ "") (Config.rules {} cooperatives) = ["Oak", "Coop"] ∧
    tokenize ("Oak " ++ "") (Config.rules {} cooperatives) = ["Oak"] :=
  ⟨rfl, by decide, by decide, by decide, by decide, by decide⟩

end TermSearch
