/-! Whole numbers in decimal digits, without leading zeros. -/

namespace TermSearch.Text

def digitChar (d : Nat) : Char :=
  Char.ofNat (0x30 + d)

def numeral (n : Nat) : List Char :=
  if n < 10 then [digitChar n] else numeral (n / 10) ++ [digitChar (n % 10)]
termination_by n

def signedNumeral (n : Int) : List Char :=
  if n < 0 then '-' :: numeral n.natAbs else numeral n.natAbs

def numeralValue (s : List Char) : Nat :=
  s.foldl (fun n c => 10 * n + (c.toNat - 0x30)) 0

theorem digitChar_value (d : Nat) (h : d < 10) : (digitChar d).toNat - 0x30 = d := by
  match d, h with
  | 0, _ | 1, _ | 2, _ | 3, _ | 4, _ | 5, _ | 6, _ | 7, _ | 8, _ | 9, _ => rfl

theorem numeralValue_numeral (n : Nat) : numeralValue (numeral n) = n := by
  induction n using Nat.strongRecOn with
  | ind n ih =>
    rw [numeral]
    split
    next h => simpa [numeralValue] using digitChar_value n h
    next h =>
      have hq := ih (n / 10) (by omega)
      have hd := digitChar_value (n % 10) (by omega)
      simp only [numeralValue, List.foldl_append, List.foldl_cons, List.foldl_nil] at hq ⊢
      rw [hq, hd]
      omega

end TermSearch.Text
