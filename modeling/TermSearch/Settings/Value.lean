import TermSearch.Decimal.Binary64
import TermSearch.NameMap

/-! Values as a settings file or a caller's option map holds them. -/

namespace TermSearch

inductive Setting where
  | null
  | boolean (b : Bool)
  | integer (n : Int)
  | real (x : Decimal.Binary64)
  | text (s : String)
  | list (items : List Setting)
  | record (fields : List (String × Setting))

/-- The fields in increasing order of their names, each name with the last of its values. -/
def Setting.sortedFields (fields : List (String × Setting)) : List (String × Setting) :=
  (NameMap.ofList fields).entries

end TermSearch
