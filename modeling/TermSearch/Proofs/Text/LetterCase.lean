import TermSearch.Proofs.Text.Stripped
import TermSearch.Proofs.Text.Words

/-! Texts up to the case of ASCII letters. Trimming, splitting into words, stripping and escaping do
not look at the case of a letter, so that the case may as well be folded before them. -/

namespace TermSearch.Text

def folded (s : String) : List Char :=
  s.toList.map Char.toLower

def CaseVariants (s s' : String) : Prop :=
  folded s = folded s'

theorem isBlank_toLower (c : Char) : isBlank c.toLower = isBlank c := by
  rw [Bool.eq_iff_iff]
  simp only [isBlank, toNat_toLower, Bool.or_eq_true, Bool.and_eq_true, decide_eq_true_eq,
    beq_iff_eq]
  split <;> omega

theorem dropWhile_isBlank_map_toLower (s : List Char) :
    (s.map Char.toLower).dropWhile isBlank = (s.dropWhile isBlank).map Char.toLower := by
  have hblank : isBlank ∘ Char.toLower = isBlank := funext isBlank_toLower
  rw [List.dropWhile_map, hblank]

theorem trimmedChars_map_toLower (s : List Char) :
    trimmedChars (s.map Char.toLower) = (trimmedChars s).map Char.toLower := by
  simp only [trimmedChars, dropWhile_isBlank_map_toLower, ← List.map_reverse]

theorem splitOnP_isBlank_map_toLower (s : List Char) :
    (s.map Char.toLower).splitOnP isBlank =
      (s.splitOnP isBlank).map (List.map Char.toLower) := by
  induction s with
  | nil => rfl
  | cons c s ih =>
    rw [List.map_cons, List.splitOnP_cons_eq_if_modifyHead, List.splitOnP_cons_eq_if_modifyHead,
      isBlank_toLower, ih]
    split
    · rfl
    · cases s.splitOnP isBlank <;> rfl

theorem wordChars_map_toLower (s : List Char) :
    wordChars (s.map Char.toLower) = (wordChars s).map (List.map Char.toLower) := by
  rw [wordChars, wordChars, splitOnP_isBlank_map_toLower, List.filter_map]
  congr 2
  funext w
  cases w <;> rfl

theorem escapedChars_map_toLower (s : List Char) :
    escapedChars (s.map Char.toLower) = (escapedChars s).map Char.toLower := by
  induction s with
  | nil => rfl
  | cons c s ih =>
    have hcons (c : Char) (s : List Char) : escapedChars (c :: s) =
        (if isWildcard c = true then ['\\', c] else [c]) ++ escapedChars s := rfl
    have hwildcard : isWildcard c.toLower = true ↔ isWildcard c = true := by
      refine ⟨keepsWildcards_toLower.reflects c, fun h => ?_⟩
      rw [keepsWildcards_toLower.fixes c h, h]
    rw [List.map_cons, hcons, hcons, ih, List.map_append]
    simp only [hwildcard]
    split <;> rfl

theorem folded_trim (s : String) : folded (trim s) = trimmedChars (folded s) := by
  rw [folded, toList_trim, folded, trimmedChars_map_toLower]

theorem folded_strip (s : String) : folded (strip s) = (folded s).filter isPlain := by
  rw [folded, toList_strip, folded, filter_isPlain_map_toLower]

theorem folded_containing (s : String) : folded (containing s) = containingChars (folded s) := by
  have hrun : Char.toLower '%' = '%' := rfl
  rw [folded, toList_containing, folded, containingChars, containingChars,
    escapedChars_map_toLower]
  simp [hrun]

theorem map_folded_words (s : String) : (words s).map folded = wordChars (folded s) := by
  rw [words, List.map_map, folded, wordChars_map_toLower]
  exact List.map_congr_left fun w _ => congrArg (List.map Char.toLower) String.toList_ofList

theorem lower_strip (s : String) : lower (strip s) = String.ofList (folded (strip s)) :=
  String.ext (by rw [toList_lower_strip, String.toList_ofList, folded])

namespace CaseVariants

variable {s s' : String}

theorem trim (h : CaseVariants s s') : CaseVariants (trim s) (trim s') := by
  rw [CaseVariants, folded_trim, folded_trim, h]

theorem strip (h : CaseVariants s s') : CaseVariants (strip s) (strip s') := by
  rw [CaseVariants, folded_strip, folded_strip, h]

theorem containing (h : CaseVariants s s') : CaseVariants (containing s) (containing s') := by
  rw [CaseVariants, folded_containing, folded_containing, h]

theorem occurs_iff (h : CaseVariants s s') (x : String) : Occurs s x ↔ Occurs s' x := by
  change folded s <:+: folded x ↔ folded s' <:+: folded x
  rw [h]

theorem eq_empty_iff (h : CaseVariants s s') : s = "" ↔ s' = "" := by
  have hlength := congrArg List.length h
  simp only [folded, List.length_map] at hlength
  rw [← String.toList_eq_nil_iff, ← String.toList_eq_nil_iff, ← List.length_eq_zero_iff, hlength,
    List.length_eq_zero_iff]

end CaseVariants

end TermSearch.Text
