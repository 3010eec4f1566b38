/-! Text reduced to its ASCII letters and digits, for comparisons that ignore punctuation and
spacing. -/

namespace TermSearch.Text

def isPlain (c : Char) : Bool :=
  let n := c.toNat
  (0x30 ≤ n && n ≤ 0x39) || (0x41 ≤ n && n ≤ 0x5A) || (0x61 ≤ n && n ≤ 0x7A)

def strip (s : String) : String :=
  String.ofList (s.toList.filter isPlain)

@[simp] theorem toList_strip (s : String) : (strip s).toList = s.toList.filter isPlain :=
  String.toList_ofList

theorem strip_append (s t : String) : strip (s ++ t) = strip s ++ strip t :=
  String.ext (by simp)

theorem strip_strip (s : String) : strip (strip s) = strip s :=
  String.ext (by simp)

end TermSearch.Text
