import Mathlib.Tactic.IntervalCases

/-! The order of texts by their bytes. The encoding of a character begins with its highest digits, so
that texts stand in the same order by their characters and by their bytes. -/

namespace TermSearch.Text

def bytes (s : String) : List UInt8 :=
  s.toByteArray.data.toList

theorem bytes_eq_flatMap (s : String) : bytes s = s.toList.flatMap String.utf8EncodeChar := by
  rw [bytes, ← String.utf8Encode_toList, List.utf8Encode, List.data_toByteArray,
    List.toList_toArray]

theorem byte_lt_iff {a b : Nat} (ha : a < 256) (hb : b < 256) :
    UInt8.ofNat a < UInt8.ofNat b ↔ a < b := by
  rw [UInt8.lt_iff_toNat_lt, UInt8.toNat_ofNat_of_lt' ha, UInt8.toNat_ofNat_of_lt' hb]

def continuation : Nat → Nat → List UInt8
  | 0, _ => []
  | k + 1, n => continuation k (n / 64) ++ [.ofNat (n % 64 + 128)]

theorem lt_or_continuation_lt (k : Nat) {m n : Nat} (h : m < n) (x y : List UInt8) :
    m / 64 ^ k < n / 64 ^ k ∨
      m / 64 ^ k = n / 64 ^ k ∧ continuation k m ++ x < continuation k n ++ y := by
  induction k generalizing m n x y with
  | zero => simpa using Or.inl h
  | succ k ih =>
    simp only [continuation, List.append_assoc, List.singleton_append, Nat.pow_succ',
      ← Nat.div_div_eq_div_mul]
    have hdigits : m / 64 < n / 64 ∨ m / 64 = n / 64 ∧ m % 64 < n % 64 := by omega
    rcases hdigits with hhigh | ⟨hhigh, hlow⟩
    · exact ih hhigh _ _
    · rw [hhigh]
      refine .inr ⟨rfl, List.append_left_lt ?_⟩
      exact List.cons_lt_cons_iff.2 (.inl ((byte_lt_iff (by omega) (by omega)).2 (by omega)))

/-- What the first byte of a character adds to its highest digit, by the bytes that follow. -/
def leadMark : Nat → Nat
  | 0 => 0
  | 1 => 0xC0
  | 2 => 0xE0
  | _ => 0xF0

/-- The first code point with so many bytes after the first one. -/
def leastCode : Nat → Nat
  | 0 => 0
  | 1 => 0x80
  | 2 => 0x800
  | 3 => 0x10000
  | _ => 0x110000

theorem exists_encoding (c : Char) :
    ∃ k ≤ 3, leastCode k ≤ c.toNat ∧ c.toNat < leastCode (k + 1) ∧
      String.utf8EncodeChar c =
        .ofNat (leadMark k + c.toNat / 64 ^ k) :: continuation k c.toNat := by
  have hlast : c.toNat < 0x110000 := by
    have hvalid := c.valid
    simp only [UInt32.isValidChar, Nat.isValidChar] at hvalid
    change c.val.toNat < _
    omega
  have hcode : c.val.toNat = c.toNat := rfl
  rw [String.utf8EncodeChar]
  simp only [hcode]
  generalize c.toNat = n at *
  split_ifs with h0 h1 h2
  · refine ⟨0, by omega, by simp [leastCode], by simp [leastCode]; omega, ?_⟩
    simp [leadMark, continuation]
  · refine ⟨1, by omega, by simp [leastCode]; omega, by simp [leastCode]; omega, ?_⟩
    have hlead : n / 64 % 32 + 192 = 0xC0 + n / 64 := by omega
    simp [leadMark, continuation, hlead]
  · refine ⟨2, by omega, by simp [leastCode]; omega, by simp [leastCode]; omega, ?_⟩
    have hlead : n / 4096 % 16 + 224 = 0xE0 + n / 4096 := by omega
    simp [leadMark, continuation, hlead]
  · refine ⟨3, by omega, by simp [leastCode]; omega, by simp [leastCode]; omega, ?_⟩
    have hlead : n / 262144 % 8 + 240 = 0xF0 + n / 262144 := by omega
    simp [leadMark, continuation, hlead, Nat.div_div_eq_div_mul]

theorem lead_lt {j k m n : Nat} (hj : j < k) (hk : k ≤ 3) (hm : m < leastCode (j + 1))
    (hn : leastCode k ≤ n) : leadMark j + m / 64 ^ j < leadMark k + n / 64 ^ k := by
  interval_cases k <;> interval_cases j <;> simp [leastCode, leadMark] at * <;> omega

theorem leastCode_le {j k : Nat} (h : j ≤ k) (hk : k ≤ 3) : leastCode j ≤ leastCode k := by
  interval_cases k <;> interval_cases j <;> decide

theorem lead_lt_256 {k n : Nat} (hk : k ≤ 3) (hn : n < leastCode (k + 1)) :
    leadMark k + n / 64 ^ k < 256 := by
  interval_cases k <;> simp [leastCode, leadMark] at * <;> omega

theorem encoding_append_lt {c d : Char} (h : c < d) (x y : List UInt8) :
    String.utf8EncodeChar c ++ x < String.utf8EncodeChar d ++ y := by
  have hcode : c.toNat < d.toNat := h
  obtain ⟨j, hj, hcj, hcj', hc⟩ := exists_encoding c
  obtain ⟨k, hk, hdk, hdk', hd⟩ := exists_encoding d
  rw [hc, hd, List.cons_append, List.cons_append, List.cons_lt_cons_iff]
  -- The lead byte tells the lengths apart, and in characters of one length the first byte to differ.
  rcases Nat.lt_trichotomy j k with hlt | rfl | hgt
  · exact .inl ((byte_lt_iff (lead_lt_256 hj hcj') (lead_lt_256 hk hdk')).2 (lead_lt hlt hk hcj' hdk))
  · rcases lt_or_continuation_lt j hcode x y with hlead | ⟨hlead, hrest⟩
    · exact .inl ((byte_lt_iff (lead_lt_256 hj hcj') (lead_lt_256 hj hdk')).2 (by omega))
    · exact .inr ⟨by rw [hlead], hrest⟩
  · have hmono : leastCode (k + 1) ≤ leastCode j := leastCode_le hgt hj
    omega

theorem flatMap_encoding_lt {s t : List Char} (h : s < t) :
    s.flatMap String.utf8EncodeChar < t.flatMap String.utf8EncodeChar := by
  induction h with
  | nil =>
    obtain ⟨k, -, -, -, hc⟩ := exists_encoding _
    rw [List.flatMap_cons, hc]
    exact List.nil_lt_cons ..
  | cons _ ih => exact List.append_left_lt ih
  | rel hlt => exact encoding_append_lt hlt _ _

theorem bytes_lt_of_lt {s t : String} (h : s < t) : bytes s < bytes t := by
  have hchars : s.toList < t.toList := h
  rw [bytes_eq_flatMap, bytes_eq_flatMap]
  exact flatMap_encoding_lt hchars

theorem bytes_lt_iff {s t : String} : bytes s < bytes t ↔ s < t := by
  refine ⟨fun h => Decidable.byContradiction fun hn => ?_, bytes_lt_of_lt⟩
  by_cases hts : t < s
  · exact List.lt_asymm h (bytes_lt_of_lt hts)
  · have he : s = t := String.le_antisymm (String.not_lt.1 hts) (String.not_lt.1 hn)
    exact List.lt_irrefl _ (he ▸ h)

end TermSearch.Text
