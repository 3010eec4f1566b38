/-! White space in the sense of Unicode: what trimming removes and what separates the words of a
text. -/

namespace TermSearch.Text

/-- The property White_Space, which has these 25 characters. -/
def isBlank (c : Char) : Bool :=
  let n := c.toNat
  (0x09 ≤ n && n ≤ 0x0D) || n == 0x20 || n == 0x85 || n == 0xA0 || n == 0x1680 ||
    (0x2000 ≤ n && n ≤ 0x200A) || n == 0x2028 || n == 0x2029 || n == 0x202F || n == 0x205F ||
    n == 0x3000

def trimmedChars (s : List Char) : List Char :=
  ((s.dropWhile isBlank).reverse.dropWhile isBlank).reverse

def trim (s : String) : String :=
  String.ofList (trimmedChars s.toList)

def wordChars (s : List Char) : List (List Char) :=
  (s.splitOnP isBlank).filter (fun w => !w.isEmpty)

def words (s : String) : List String :=
  (wordChars s.toList).map String.ofList

@[simp] theorem toList_trim (s : String) : (trim s).toList = trimmedChars s.toList :=
  String.toList_ofList

end TermSearch.Text
