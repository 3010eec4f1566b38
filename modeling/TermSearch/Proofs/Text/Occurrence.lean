import TermSearch.Proofs.Text.Matching
import TermSearch.Text.Alphanumeric

/-! One text occurring in another up to the case of ASCII letters, which is what a comparison with
the pattern `containing s` decides. -/

namespace TermSearch.Text

theorem toNat_toLower (c : Char) :
    c.toLower.toNat = if 65 ≤ c.toNat ∧ c.toNat ≤ 90 then c.toNat + 32 else c.toNat := by
  have hiff : (c.val ≥ 'A'.val ∧ c.val ≤ 'Z'.val) ↔ 65 ≤ c.toNat ∧ c.toNat ≤ 90 := by
    simp only [ge_iff_le, UInt32.le_iff_toNat_le]
    exact Iff.rfl
  by_cases h : 65 ≤ c.toNat ∧ c.toNat ≤ 90
  · have hval : c.toLower.val = c.val + ('a'.val - 'A'.val) :=
      congrArg Char.val (dif_pos (hiff.2 h))
    have hsum : (c.val + ('a'.val - 'A'.val)).toNat = c.val.toNat + 32 := by
      rw [UInt32.toNat_add]
      exact Nat.mod_eq_of_lt (by change c.toNat + 32 < _; omega)
    rw [if_pos h, Char.toNat, hval]
    exact hsum
  · have hsame : c.toLower = c := dif_neg fun hc => h (hiff.1 hc)
    rw [if_neg h, hsame]

theorem isPlain_toLower (c : Char) : isPlain c.toLower = isPlain c := by
  rw [Bool.eq_iff_iff]
  simp only [isPlain, toNat_toLower, Bool.or_eq_true, Bool.and_eq_true, decide_eq_true_eq]
  split <;> omega

theorem isWildcard_iff (c : Char) :
    isWildcard c = true ↔ c.toNat = 0x5C ∨ c.toNat = 0x25 ∨ c.toNat = 0x5F := by
  simp only [isWildcard, Bool.or_eq_true, beq_iff_eq, or_assoc, ← Char.toNat_inj]
  rfl

theorem keepsWildcards_toLower : KeepsWildcards Char.toLower where
  fixes c h := by
    rw [isWildcard_iff] at h
    rw [← Char.toNat_inj, toNat_toLower, if_neg (by omega)]
  reflects c h := by
    rw [isWildcard_iff, toNat_toLower] at h
    rw [isWildcard_iff]
    split at h <;> omega

def Occurs (s x : String) : Prop :=
  s.toList.map Char.toLower <:+: x.toList.map Char.toLower

instance (s x : String) : Decidable (Occurs s x) :=
  inferInstanceAs (Decidable (_ <:+: _))

def likeFits? (pattern x : String) : Option Bool :=
  fitsFolded? Char.toLower pattern.toList x.toList

theorem likeFits?_containing (s x : String) :
    likeFits? (containing s) x = some (decide (Occurs s x)) := by
  rw [likeFits?, toList_containing, fitsFolded?_containingChars keepsWildcards_toLower]
  rfl

theorem Occurs.of_isInfix {s x : String} (h : s.toList <:+: x.toList) : Occurs s x :=
  h.map Char.toLower

theorem Occurs.trans {s x y : String} (h : Occurs s x) (k : Occurs x y) : Occurs s y :=
  List.IsInfix.trans h k

theorem occurs_empty (x : String) : Occurs "" x :=
  List.nil_infix

theorem occurs_in_empty_iff (s : String) : Occurs s "" ↔ s = "" := by
  rw [Occurs, String.toList_empty, List.map_nil, List.infix_nil, List.map_eq_nil_iff,
    String.toList_eq_nil_iff]

theorem containing_eq_iff (s : String) : containing s = "%%" ↔ s = "" := by
  constructor
  · intro h
    -- Equal patterns fit the same texts, and only the empty text occurs in the empty one.
    have hfits : likeFits? (containing s) "" = some true := by rw [h]; decide
    rw [likeFits?_containing, Option.some_inj, decide_eq_true_eq] at hfits
    exact (occurs_in_empty_iff s).1 hfits
  · rintro rfl
    decide

theorem filter_isPlain_map_toLower (s : List Char) :
    (s.map Char.toLower).filter isPlain = (s.filter isPlain).map Char.toLower := by
  rw [List.filter_map]
  congr 1
  exact List.filter_congr fun c _ => isPlain_toLower c

theorem Occurs.strip {s x : String} (h : Occurs s x) : Occurs (strip s) (strip x) := by
  have hf := List.IsInfix.filter isPlain h
  rw [filter_isPlain_map_toLower, filter_isPlain_map_toLower] at hf
  rwa [Occurs, toList_strip, toList_strip]

end TermSearch.Text
