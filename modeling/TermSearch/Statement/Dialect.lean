import TermSearch.Text.Numeral
import TermSearch.Text.Quoted

/-! The dialects of SQL, and what differs between them. -/

namespace TermSearch

inductive Dialect where
  | postgres
  | sqlite
  | mysql
deriving DecidableEq

namespace Dialect

def name : Dialect → String
  | .postgres => "postgres"
  | .sqlite => "sqlite"
  | .mysql => "mysql"

def schemes : List (String × Dialect) :=
  [("postgres:", .postgres), ("postgresql:", .postgres), ("sqlite:", .sqlite), ("mysql:", .mysql),
    ("mariadb:", .mysql)]

def ofAddress? (address : String) : Option Dialect :=
  (schemes.find? fun s => s.1.toList.isPrefixOf address.toList).map (·.2)

def placeholderChars (d : Dialect) (n : Nat) : List Char :=
  match d with
  | .postgres => '$' :: Text.numeral n
  | .sqlite | .mysql => ['?']

def placeholder (d : Dialect) (n : Nat) : String :=
  String.ofList (d.placeholderChars n)

def quote : Dialect → Char
  | .mysql => '`'
  | .postgres | .sqlite => '"'

def quoteName (d : Dialect) (name : String) : String :=
  String.ofList (Text.quoted d.quote name.toList)

def textType : Dialect → String
  | .mysql => "CHAR"
  | .postgres | .sqlite => "TEXT"

def likeWord : Dialect → String
  | .postgres => "ILIKE"
  | .sqlite | .mysql => "LIKE"

end Dialect

end TermSearch
