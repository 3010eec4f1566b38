import TermSearch.Failure

/-! Columns as a caller writes them: `name`, or `relation.name`. -/

namespace TermSearch

inductive Entry where
  | own (column : String)
  | related (relation column : String)
deriving DecidableEq

namespace Entry

def isOwn : Entry → Bool
  | .own _ => true
  | .related .. => false

def text : Entry → String
  | .own column => column
  | .related relation column => relation ++ "." ++ column

def segments (s : String) : List String :=
  (s.toList.splitOnP (· == '.')).map String.ofList

/-- An empty segment is reported before a path of more than two. -/
def ofText (s : String) : Except Failure Entry :=
  let parts := segments s
  if parts.any (·.isEmpty) then .error (.configuration (.emptySegment s))
  else match parts with
    | [column] => .ok (.own column)
    | [relation, column] => .ok (.related relation column)
    | _ => .error (.configuration (.nestedPath s))

def ofTexts (entries : List String) : Except Failure (List Entry) :=
  entries.mapM ofText

end Entry

end TermSearch
