/-! Patterns of a substring comparison, where `%` stands for any run of characters, `_` for any
one character and a backslash takes the next character literally. -/

namespace TermSearch.Text

def isWildcard (c : Char) : Bool :=
  c == '\\' || c == '%' || c == '_'

def escapedChars (s : List Char) : List Char :=
  s.flatMap fun c => if isWildcard c then ['\\', c] else [c]

def escape (s : String) : String :=
  String.ofList (escapedChars s.toList)

def containingChars (s : List Char) : List Char :=
  '%' :: escapedChars s ++ ['%']

def containing (s : String) : String :=
  String.ofList (containingChars s.toList)

@[simp] theorem toList_containing (s : String) :
    (containing s).toList = containingChars s.toList :=
  String.toList_ofList

end TermSearch.Text
