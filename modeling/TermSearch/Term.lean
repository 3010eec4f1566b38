import TermSearch.Settings.Rules
import TermSearch.Text.Alphanumeric
import TermSearch.Text.Blank

/-! Search terms in the three forms that are compared: as typed, without punctuation, and word by
word. -/

namespace TermSearch

def Rules.isSignificant (r : Rules) (word : String) : Bool :=
  2 < word.length && !r.ignores word

/-- The stripped words of a text, in order; with word matching on, only the significant ones. -/
def tokenize (s : String) (r : Rules) : List String :=
  let stripped := (Text.words s).map Text.strip
  if r.wordBasedMatching then stripped.filter r.isSignificant else stripped

structure Term where
  raw : String
  normalized : String
  tokens : List String
deriving DecidableEq

namespace Term

def ofText (s : String) (r : Rules) : Term :=
  let raw := Text.trim s
  ⟨raw, Text.strip raw, tokenize raw r⟩

def matchTokens (t : Term) (r : Rules) : List String :=
  if r.wordBasedMatching then t.tokens else []

end Term

end TermSearch
