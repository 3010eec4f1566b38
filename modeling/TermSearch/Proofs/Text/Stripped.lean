import TermSearch.Proofs.Text.Occurrence
import TermSearch.Text.Case

/-! Stripped texts. The pattern by which a statement strips a column deletes exactly what stripping
deletes, and among stripped texts lowercase is a matter of single letters. -/

namespace TermSearch.Text

def bracketRanges : List Char → List (Char × Char)
  | first :: '-' :: last :: rest => (first, last) :: bracketRanges rest
  | c :: rest => (c, c) :: bracketRanges rest
  | [] => []

def bracketLists (items : List Char) (c : Char) : Bool :=
  (bracketRanges (items.takeWhile (· != ']'))).any fun range =>
    decide (range.1 ≤ c) && decide (c ≤ range.2)

/-- A bracket expression accepts the characters that it lists or, after a caret, all others. -/
def bracketAccepts (pattern : List Char) (c : Char) : Bool :=
  match pattern with
  | '[' :: '^' :: items => !bracketLists items c
  | '[' :: items => bracketLists items c
  | _ => false

def deleteMatches (pattern x : String) : String :=
  String.ofList (x.toList.filter fun c => !bracketAccepts pattern.toList c)

def unplainPattern : String :=
  "[^a-zA-Z0-9]"

theorem char_le_iff (c d : Char) : c ≤ d ↔ c.toNat ≤ d.toNat :=
  UInt32.le_iff_toNat_le

theorem bracketAccepts_unplainPattern (c : Char) :
    bracketAccepts unplainPattern.toList c = !isPlain c := by
  have hp : unplainPattern.toList = '[' :: '^' :: "a-zA-Z0-9]".toList := by decide
  have hr : bracketRanges ("a-zA-Z0-9]".toList.takeWhile (· != ']')) =
      [('a', 'z'), ('A', 'Z'), ('0', '9')] := by decide
  have hlists : bracketLists "a-zA-Z0-9]".toList c = isPlain c := by
    rw [bracketLists, hr, Bool.eq_iff_iff]
    simp only [List.any_cons, List.any_nil, Bool.or_false, Bool.or_eq_true, Bool.and_eq_true,
      decide_eq_true_eq, char_le_iff, isPlain]
    change (97 ≤ c.toNat ∧ c.toNat ≤ 122) ∨ (65 ≤ c.toNat ∧ c.toNat ≤ 90) ∨
      (48 ≤ c.toNat ∧ c.toNat ≤ 57) ↔ _
    omega
  rw [hp, bracketAccepts, hlists]

theorem deleteMatches_unplainPattern (x : String) : deleteMatches unplainPattern x = strip x := by
  simp only [deleteMatches, bracketAccepts_unplainPattern, Bool.not_not]
  rfl

theorem isPlain_eq_isAlphanum (c : Char) : isPlain c = c.isAlphanum := by
  have hranges : c.isAlphanum =
      (decide (c.val ≥ 'A'.val ∧ c.val ≤ 'Z'.val) ||
        decide (c.val ≥ 'a'.val) && decide (c.val ≤ 'z'.val) ||
        decide (c.val ≥ '0'.val) && decide (c.val ≤ '9'.val)) := rfl
  rw [hranges, Bool.eq_iff_iff]
  simp only [isPlain, Bool.or_eq_true, Bool.and_eq_true, decide_eq_true_eq, ge_iff_le,
    UInt32.le_iff_toNat_le]
  change _ ↔ (65 ≤ c.toNat ∧ c.toNat ≤ 90 ∨ 97 ≤ c.toNat ∧ c.toNat ≤ 122) ∨
    48 ≤ c.toNat ∧ c.toNat ≤ 57
  omega

theorem strip_eq_empty_iff (s : String) :
    strip s = "" ↔ ∀ c ∈ s.toList, c.isAlphanum = false := by
  rw [← String.toList_eq_nil_iff, toList_strip, List.filter_eq_nil_iff]
  simp only [isPlain_eq_isAlphanum, Bool.not_eq_true]

theorem lowerChar_of_isPlain {c : Char} (h : isPlain c = true) : lowerChar c = [c.toLower] := by
  have hascii : c.toNat < 0x80 := by
    simp only [isPlain, Bool.or_eq_true, Bool.and_eq_true, decide_eq_true_eq] at h
    omega
  rw [lowerChar, if_pos hascii]

theorem lowerFrom_of_isPlain (before : List Char) {s : List Char}
    (h : ∀ c ∈ s, isPlain c = true) : lowerFrom before s = s.map Char.toLower := by
  induction s generalizing before with
  | nil => rfl
  | cons c s ih =>
    obtain ⟨hc, hs⟩ := List.forall_mem_cons.1 h
    have hsigma : (c == 'Σ') = false := by
      rw [beq_eq_false_iff_ne]
      rintro rfl
      exact absurd hc (by decide)
    rw [lowerFrom, hsigma, if_neg Bool.false_ne_true, lowerChar_of_isPlain hc, ih (c :: before) hs]
    rfl

theorem toList_lower_strip (s : String) :
    (lower (strip s)).toList = (strip s).toList.map Char.toLower := by
  rw [toList_lower, toList_strip]
  exact lowerFrom_of_isPlain [] fun c hc => (List.mem_filter.1 hc).2

theorem occurs_strip_iff (s x : String) :
    Occurs (strip s) (strip x) ↔ (lower (strip s)).toList <:+: (lower (strip x)).toList := by
  rw [Occurs, toList_lower_strip, toList_lower_strip]

end TermSearch.Text
