import TermSearch.Decimal.Layout
import TermSearch.Text.Quoted

/-! Values that a statement is run with. -/

namespace TermSearch

inductive Value where
  | text (s : String)
  | integer (n : Int64)
  | real (x : Decimal.Binary64)
  | boolean (b : Bool)
deriving DecidableEq

namespace Value

def literal : Value → List Char
  | .text s => Text.quoted '\'' s.toList
  | .integer n => Text.signedNumeral n.toInt
  | .real x => x.write .literal
  | .boolean true => "TRUE".toList
  | .boolean false => "FALSE".toList

/-- Equality of values, under which a not-a-number differs from itself. -/
def same : Value → Value → Bool
  | .real x, .real y => x.sameNumber y
  | v, w => v == w

end Value

end TermSearch
