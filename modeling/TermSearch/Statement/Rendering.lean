import TermSearch.Statement.Piece
import TermSearch.Statement.Select

/-! The SQL of conditions and queries. Values appear in the order in which they are read: filters
from left to right, then the order of the rows. -/

namespace TermSearch

def Column.pieces (c : Column) : List Piece :=
  [.name c.table, .fixed ".", .name c.name]

def Column.castPieces (d : Dialect) (c : Column) : List Piece :=
  .fixed "CAST(" :: c.pieces ++ [.fixed (" AS " ++ d.textType ++ ")")]

def TextView.pieces (d : Dialect) : TextView → List Piece
  | .cast c => c.castPieces d
  | .stripped c =>
    .fixed "REGEXP_REPLACE(" :: c.castPieces d ++ [.fixed ", '[^a-zA-Z0-9]', '', 'g')"]

def TextView.likePieces (d : Dialect) (v : TextView) (pattern : String) : List Piece :=
  v.pieces d ++ [.fixed (" " ++ d.likeWord ++ " "), .value (.text pattern)]

/-- Parentheses stand around two parts or more; for no part at all, `vacant` is written. -/
def Piece.group (separator vacant : String) : List (List Piece) → List Piece
  | [] => [.fixed vacant]
  | [part] => part
  | parts => .fixed "(" :: joined separator parts ++ [.fixed ")"]

namespace Condition

mutual

def pieces (d : Dialect) : Condition → List Piece
  | .like view pattern => view.likePieces d pattern
  | .equal column value => column.pieces ++ [.fixed " = ", .value value]
  | .all parts => Piece.group " AND " "1=1" (piecesOfAll d parts)
  | .any parts => Piece.group " OR " "1=0" (piecesOfAll d parts)
  | .negation part => .fixed "NOT (" :: pieces d part ++ [.fixed ")"]
  | .linked link filter =>
    [.fixed "EXISTS (SELECT 1 FROM ", .name link.table, .fixed " AS ", .name link.innerName,
        .fixed " WHERE "] ++ link.innerKey.pieces ++ .fixed " = " :: link.outerKey.pieces ++
      .fixed " AND (" :: pieces d filter ++ [.fixed "))"]

def piecesOfAll (d : Dialect) : List Condition → List (List Piece)
  | [] => []
  | c :: rest => pieces d c :: piecesOfAll d rest

end

end Condition

def Branch.pieces (d : Dialect) (b : Branch) : List Piece :=
  .fixed "CASE WHEN " :: b.view.likePieces d b.pattern ++
    [.fixed (" THEN " ++ String.ofList (Text.numeral b.weight.toNat) ++ " ELSE 0 END")]

def Score.pieces (d : Dialect) (s : Score) : List Piece :=
  match s.branches with
  | [] => [.fixed "0"]
  | branches =>
    .fixed "(" :: Piece.joined " + " (branches.map (Branch.pieces d)) ++ [.fixed ")"]

def OrderKey.pieces (d : Dialect) : OrderKey → List Piece
  | .column c => c.pieces
  | .greatest scores =>
    .fixed "GREATEST(" :: Piece.joined ", " (scores.map (Score.pieces d)) ++ [.fixed ")"]

def Direction.word : Direction → String
  | .ascending => "ASC"
  | .descending => "DESC"

def OrderClause.pieces (d : Dialect) (o : OrderClause) : List Piece :=
  o.key.pieces d ++ [.fixed (" " ++ o.direction.word)]

structure Statement where
  sql : String
  values : List Value
deriving DecidableEq

def Statement.ofPieces (d : Dialect) (ps : List Piece) : Statement :=
  ⟨String.ofList (Piece.write d 0 ps), Piece.values ps⟩

def Condition.statement (d : Dialect) (c : Condition) : Statement :=
  .ofPieces d (c.pieces d)

namespace Select

def projectionPieces (q : Select) : List Piece :=
  match q.projection with
  | .all => [.name q.table, .fixed ".*"]
  | .text c => c.castPieces q.dialect ++ [.fixed " AS value"]

def clausePieces (head separator : String) : List (List Piece) → List Piece
  | [] => []
  | parts => .fixed head :: Piece.joined separator parts

theorem clausePieces_cons (head separator : String) (part : List Piece) (rest : List (List Piece)) :
    clausePieces head separator (part :: rest) =
      .fixed head :: Piece.joined separator (part :: rest) := rfl

def filterPieces (q : Select) : List Piece :=
  clausePieces " WHERE " " AND " (Condition.piecesOfAll q.dialect q.filters)

def orderPieces (q : Select) : List Piece :=
  clausePieces " ORDER BY " ", " (q.order.map (OrderClause.pieces q.dialect))

def limitPieces (q : Select) : List Piece :=
  match q.limit with
  | none => []
  | some n => [.fixed (" LIMIT " ++ String.ofList (Text.numeral n.toNat))]

def pieces (q : Select) : List Piece :=
  .fixed "SELECT " :: q.projectionPieces ++ [.fixed " FROM ", .name q.table] ++
    q.filterPieces ++ q.orderPieces ++ q.limitPieces

def statement (q : Select) : Statement :=
  .ofPieces q.dialect q.pieces

/-- The query with its values in place, for logs and not for running. -/
def literalText (q : Select) : String :=
  String.ofList (Piece.writeLiteral q.dialect q.pieces)

end Select

end TermSearch
