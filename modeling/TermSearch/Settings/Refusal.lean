import TermSearch.Decimal.Layout
import TermSearch.Settings.Value
import TermSearch.Text.Shown

/-! Why a setting is refused, and the text that says so. -/

namespace TermSearch

inductive Found where
  | null
  | boolean (b : Bool)
  | integer (n : Int)
  | real (x : Decimal.Binary64)
  | text (s : String)
  | list
  | record
deriving DecidableEq

def Setting.found : Setting → Found
  | .null => .null
  | .boolean b => .boolean b
  | .integer n => .integer n
  | .real x => .real x
  | .text s => .text s
  | .list _ => .list
  | .record _ => .record

def Found.phrase : Found → String
  | .null => "null"
  | .boolean b => "boolean `" ++ (if b then "true" else "false") ++ "`"
  | .integer n => "integer `" ++ String.ofList (Text.signedNumeral n) ++ "`"
  | .real x => "floating point `" ++ String.ofList (x.write .report) ++ "`"
  | .text s => "string " ++ Text.shown s
  | .list => "sequence"
  | .record => "map"

inductive Expected where
  | boolean
  | list
  | text
  | unit
  | engine
  | config
  | options
deriving DecidableEq

def Expected.phrase : Expected → String
  | .boolean => "a boolean"
  | .list => "a sequence"
  | .text => "a string"
  | .unit => "unit"
  | .engine => "string or map"
  | .config => "struct SearchConfig"
  | .options => "struct SearchOptions"

inductive Refusal where
  | wrongType (found : Found) (expected : Expected)
  | unknownEngine (name : String)
  | severalEngines
  | unknownOption (name : String)
  | tooLong (length : Nat)
deriving DecidableEq

def Refusal.message : Refusal → String
  | .wrongType found expected =>
    "invalid type: " ++ found.phrase ++ ", expected " ++ expected.phrase
  | .unknownEngine name => "unknown variant `" ++ name ++ "`, expected `ilike`"
  | .severalEngines => "invalid value: map, expected map with a single key"
  | .unknownOption name =>
    "unknown field `" ++ name ++ "`, expected one of `normalize`, `word_based_matching`, " ++
      "`order_by_best_match`, `ignore_suffixes`"
  | .tooLong length =>
    "invalid length " ++ String.ofList (Text.numeral length) ++
      ", expected fewer elements in array"

end TermSearch
