/-! What can go wrong with a search, and the text that says so. A search that leaves its query
alone has not failed. -/

namespace TermSearch

inductive NameKind where
  | table
  | column
  | relationship
deriving DecidableEq

def NameKind.word : NameKind → String
  | .table => "table"
  | .column => "column"
  | .relationship => "relationship"

inductive Misuse where
  | emptySegment (entry : String)
  | nestedPath (entry : String)
  | unknownScheme (scheme : String)
  | other (text : String)
deriving DecidableEq

def Misuse.message : Misuse → String
  | .emptySegment entry => "empty segment in column '" ++ entry ++ "'"
  | .nestedPath entry =>
    "column '" ++ entry ++ "' has a nested relation path; only one level is supported"
  | .unknownScheme scheme => "unsupported connection string scheme: " ++ scheme
  | .other text => text

inductive Failure where
  | unresolved (kind : NameKind) (table name : String)
  | configuration (misuse : Misuse)
  | backend (report : String)
deriving DecidableEq

namespace Failure

def message : Failure → String
  | .unresolved kind table name =>
    "Cannot resolve " ++ kind.word ++ " '" ++ name ++ "' on table '" ++ table ++ "'"
  | .configuration misuse => "Invalid search configuration: " ++ misuse.message
  | .backend report => "Database backend error: " ++ report

def isUnresolved : Failure → Bool
  | .unresolved .. => true
  | _ => false

end Failure

end TermSearch
