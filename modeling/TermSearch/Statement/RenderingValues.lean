import TermSearch.Statement.Rendering

/-! The values of a written statement are those of its query, from left to right. -/

namespace TermSearch

theorem Piece.values_group (separator vacant : String) (parts : List (List Piece)) :
    values (group separator vacant parts) = parts.flatMap values := by
  match parts with
  | [] => rfl
  | [p] => simp [group]
  | p :: q :: rest => simp [group, values, values_joined]

@[simp] theorem Column.values_pieces (c : Column) : Piece.values c.pieces = [] := rfl

@[simp] theorem TextView.values_pieces (d : Dialect) (v : TextView) :
    Piece.values (v.pieces d) = [] := by
  cases v <;> rfl

@[simp] theorem TextView.values_likePieces (d : Dialect) (v : TextView) (pattern : String) :
    Piece.values (v.likePieces d pattern) = [.text pattern] := by
  simp [likePieces, Piece.values]

namespace Condition

mutual

theorem values_pieces (d : Dialect) (c : Condition) : Piece.values (c.pieces d) = c.values := by
  cases c with
  | like view pattern => exact TextView.values_likePieces d view pattern
  | equal column value => rfl
  | all parts => rw [pieces, Piece.values_group, values, values_piecesOfAll]
  | any parts => rw [pieces, Piece.values_group, values, values_piecesOfAll]
  | negation part => simp [pieces, Piece.values, values, values_pieces d part]
  | linked link filter => simp [pieces, Piece.values, values, values_pieces d filter]

theorem values_piecesOfAll (d : Dialect) (cs : List Condition) :
    (piecesOfAll d cs).flatMap Piece.values = valuesOfAll cs := by
  cases cs with
  | nil => rfl
  | cons c cs =>
    rw [piecesOfAll, List.flatMap_cons, valuesOfAll, values_pieces d c, values_piecesOfAll d cs]

end

end Condition

theorem Score.values_pieces (d : Dialect) (s : Score) : Piece.values (s.pieces d) = s.values := by
  obtain ⟨column, branches⟩ := s
  cases branches with
  | nil => rfl
  | cons b rest =>
    have h (b : Branch) : Piece.values (b.pieces d) = [.text b.pattern] := by
      simp [Branch.pieces, Piece.values]
    have hm : (b :: rest).flatMap (fun b => Piece.values (b.pieces d)) =
        (b :: rest).map fun b => .text b.pattern := by
      simp only [h]
      exact List.map_eq_flatMap.symm
    rw [pieces, values, ← hm, ← List.flatMap_map, ← Piece.values_joined " + "]
    simp [Piece.values]

theorem OrderClause.values_pieces (d : Dialect) (o : OrderClause) :
    Piece.values (o.pieces d) = o.values := by
  obtain ⟨key, direction⟩ := o
  cases key with
  | column c => rfl
  | greatest scores =>
    simp [pieces, OrderKey.pieces, values, Piece.values, Piece.values_joined,
      Score.values_pieces, List.flatMap_map]

theorem Select.values_clausePieces (head separator : String) (parts : List (List Piece)) :
    Piece.values (clausePieces head separator parts) = parts.flatMap Piece.values := by
  cases parts with
  | nil => rfl
  | cons p rest => simp only [clausePieces, Piece.values, Piece.values_joined]

@[simp] theorem Select.values_projectionPieces (q : Select) :
    Piece.values q.projectionPieces = [] := by
  rw [projectionPieces]; cases q.projection <;> rfl

@[simp] theorem Select.values_limitPieces (q : Select) : Piece.values q.limitPieces = [] := by
  rw [limitPieces]; cases q.limit <;> rfl

/-- A statement carries the values of its query, in their order. -/
theorem Select.values_statement (q : Select) : q.statement.values = q.values := by
  simp [statement, Statement.ofPieces, pieces, Piece.values, filterPieces, orderPieces,
    values_clausePieces, Condition.values_piecesOfAll, values, List.flatMap_map,
    OrderClause.values_pieces]

end TermSearch
