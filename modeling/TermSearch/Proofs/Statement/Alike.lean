import Mathlib.Data.List.Forall2
import TermSearch.Statement.RenderingValues

/-! Queries that differ in their values alone. They are written as the same text, and their values
correspond place by place. -/

namespace TermSearch

variable {R : Value → Value → Prop}

inductive Piece.Alike (R : Value → Value → Prop) : Piece → Piece → Prop where
  | fixed (s : String) : Alike R (.fixed s) (.fixed s)
  | name (s : String) : Alike R (.name s) (.name s)
  | value {v w : Value} (h : R v w) : Alike R (.value v) (.value w)

inductive Condition.Alike (R : Value → Value → Prop) : Condition → Condition → Prop where
  | like (view : TextView) {p p' : String} (h : R (.text p) (.text p')) :
    Alike R (.like view p) (.like view p')
  | equal (column : Column) {v v' : Value} (h : R v v') :
    Alike R (.equal column v) (.equal column v')
  | all {cs cs' : List Condition} (h : List.Forall₂ (Alike R) cs cs') : Alike R (.all cs) (.all cs')
  | any {cs cs' : List Condition} (h : List.Forall₂ (Alike R) cs cs') : Alike R (.any cs) (.any cs')
  | negation {c c' : Condition} (h : Alike R c c') : Alike R (.negation c) (.negation c')
  | linked (link : Link) {c c' : Condition} (h : Alike R c c') :
    Alike R (.linked link c) (.linked link c')

structure Branch.Alike (R : Value → Value → Prop) (b b' : Branch) : Prop where
  view : b.view = b'.view
  weight : b.weight = b'.weight
  pattern : R (.text b.pattern) (.text b'.pattern)

structure Score.Alike (R : Value → Value → Prop) (s s' : Score) : Prop where
  column : s.column = s'.column
  branches : List.Forall₂ (Branch.Alike R) s.branches s'.branches

inductive OrderClause.Alike (R : Value → Value → Prop) : OrderClause → OrderClause → Prop where
  | column (c : Column) (direction : Direction) :
    Alike R ⟨.column c, direction⟩ ⟨.column c, direction⟩
  | greatest {scores scores' : List Score} (direction : Direction)
    (h : List.Forall₂ (Score.Alike R) scores scores') :
    Alike R ⟨.greatest scores, direction⟩ ⟨.greatest scores', direction⟩

structure Select.Alike (R : Value → Value → Prop) (q q' : Select) : Prop where
  table : q.table = q'.table
  dialect : q.dialect = q'.dialect
  projection : q.projection = q'.projection
  filters : List.Forall₂ (Condition.Alike R) q.filters q'.filters
  order : List.Forall₂ (OrderClause.Alike R) q.order q'.order
  limit : q.limit = q'.limit

namespace Piece

theorem write_eq_of_alike {ps ps' : List Piece} (h : List.Forall₂ (Alike R) ps ps') (d : Dialect)
    (n : Nat) : write d n ps = write d n ps' := by
  induction h generalizing n with
  | nil => rfl
  | cons hp _ ih =>
    cases hp with
    | fixed s | name s => simp only [write, ih]
    | value => simp only [write, ih]

theorem values_alike {ps ps' : List Piece} (h : List.Forall₂ (Alike R) ps ps') :
    List.Forall₂ R (values ps) (values ps') := by
  induction h with
  | nil => exact .nil
  | cons hp _ ih =>
    cases hp with
    | fixed s | name s => exact ih
    | value hv => exact .cons hv ih

theorem alike_of_values_eq_nil {ps : List Piece} (h : values ps = []) :
    List.Forall₂ (Alike R) ps ps := by
  induction ps with
  | nil => exact .nil
  | cons p ps ih =>
    cases p with
    | fixed s => exact .cons (.fixed s) (ih h)
    | name s => exact .cons (.name s) (ih h)
    | value v => exact absurd h (List.cons_ne_nil v _)

theorem joined_alike (separator : String) {parts parts' : List (List Piece)}
    (h : List.Forall₂ (List.Forall₂ (Alike R)) parts parts') :
    List.Forall₂ (Alike R) (joined separator parts) (joined separator parts') := by
  induction h with
  | nil => exact .nil
  | cons hp hrest ih =>
    cases hrest with
    | nil => rwa [joined_singleton, joined_singleton]
    | cons hq hrest =>
      rw [joined_cons_cons, joined_cons_cons]
      exact List.rel_append hp (.cons (.fixed separator) ih)

theorem group_alike (separator vacant : String) {parts parts' : List (List Piece)}
    (h : List.Forall₂ (List.Forall₂ (Alike R)) parts parts') :
    List.Forall₂ (Alike R) (group separator vacant parts) (group separator vacant parts') := by
  have hjoined := joined_alike separator h
  match h with
  | .nil => exact .cons (.fixed vacant) .nil
  | .cons hp .nil => exact hp
  | .cons _ (.cons _ _) =>
    exact .cons (.fixed "(") (List.rel_append hjoined (.cons (.fixed ")") .nil))

end Piece

section Pieces

variable (d : Dialect)

theorem TextView.pieces_alike (v : TextView) :
    List.Forall₂ (Piece.Alike R) (v.pieces d) (v.pieces d) :=
  Piece.alike_of_values_eq_nil (v.values_pieces d)

theorem TextView.likePieces_alike (v : TextView) {p p' : String} (h : R (.text p) (.text p')) :
    List.Forall₂ (Piece.Alike R) (v.likePieces d p) (v.likePieces d p') :=
  List.rel_append (v.pieces_alike d) (.cons (.fixed _) (.cons (.value h) .nil))

theorem Column.pieces_alike (c : Column) : List.Forall₂ (Piece.Alike R) c.pieces c.pieces :=
  Piece.alike_of_values_eq_nil c.values_pieces

namespace Condition

mutual

theorem pieces_alike {c c' : Condition} (h : Alike R c c') :
    List.Forall₂ (Piece.Alike R) (c.pieces d) (c'.pieces d) := by
  cases h with
  | like view h => exact view.likePieces_alike d h
  | equal column h =>
    exact List.rel_append column.pieces_alike (.cons (.fixed " = ") (.cons (.value h) .nil))
  | all h => exact Piece.group_alike " AND " "1=1" (piecesOfAll_alike h)
  | any h => exact Piece.group_alike " OR " "1=0" (piecesOfAll_alike h)
  | negation h =>
    exact .cons (.fixed "NOT (") (List.rel_append (pieces_alike h) (.cons (.fixed ")") .nil))
  | linked link h =>
    -- Up to its filter a subquery holds names only.
    have hkeys : Piece.values ([.fixed "EXISTS (SELECT 1 FROM ", .name link.table, .fixed " AS ",
        .name link.innerName, .fixed " WHERE "] ++ link.innerKey.pieces ++
        .fixed " = " :: link.outerKey.pieces) = [] := rfl
    exact List.rel_append (List.rel_append (Piece.alike_of_values_eq_nil hkeys)
      (.cons (.fixed " AND (") (pieces_alike h))) (.cons (.fixed "))") .nil)

theorem piecesOfAll_alike {cs cs' : List Condition} (h : List.Forall₂ (Alike R) cs cs') :
    List.Forall₂ (List.Forall₂ (Piece.Alike R)) (piecesOfAll d cs) (piecesOfAll d cs') := by
  cases h with
  | nil => exact .nil
  | cons h hs => exact .cons (pieces_alike h) (piecesOfAll_alike hs)

end

end Condition

theorem Branch.pieces_alike {b b' : Branch} (h : b.Alike R b') :
    List.Forall₂ (Piece.Alike R) (b.pieces d) (b'.pieces d) := by
  have hlike := b.view.likePieces_alike d h.pattern
  rw [pieces, pieces, ← h.view, ← h.weight]
  exact .cons (.fixed "CASE WHEN ") (List.rel_append hlike (.cons (.fixed _) .nil))

theorem Score.pieces_alike {s s' : Score} (h : s.Alike R s') :
    List.Forall₂ (Piece.Alike R) (s.pieces d) (s'.pieces d) := by
  have hbranches : List.Forall₂ (List.Forall₂ (Piece.Alike R)) (s.branches.map (Branch.pieces d))
      (s'.branches.map (Branch.pieces d)) :=
    List.rel_map (fun _ _ hb => Branch.pieces_alike d hb) h.branches
  have hjoined := Piece.joined_alike " + " hbranches
  obtain ⟨column, branches⟩ := s
  obtain ⟨column', branches'⟩ := s'
  cases h.branches with
  | nil => exact .cons (.fixed "0") .nil
  | cons _ _ => exact .cons (.fixed "(") (List.rel_append hjoined (.cons (.fixed ")") .nil))

theorem OrderClause.pieces_alike {o o' : OrderClause} (h : o.Alike R o') :
    List.Forall₂ (Piece.Alike R) (o.pieces d) (o'.pieces d) := by
  cases h with
  | column c direction => exact List.rel_append c.pieces_alike (.cons (.fixed _) .nil)
  | greatest direction h =>
    have hjoined := Piece.joined_alike ", " (List.rel_map (fun _ _ hs => Score.pieces_alike d hs) h)
    exact List.rel_append (.cons (.fixed "GREATEST(") (List.rel_append hjoined
      (.cons (.fixed ")") .nil))) (.cons (.fixed _) .nil)

end Pieces

namespace Select

variable {q q' : Select}

theorem clausePieces_alike (head separator : String) {parts parts' : List (List Piece)}
    (h : List.Forall₂ (List.Forall₂ (Piece.Alike R)) parts parts') :
    List.Forall₂ (Piece.Alike R) (clausePieces head separator parts)
      (clausePieces head separator parts') := by
  have hjoined := Piece.joined_alike separator h
  cases h with
  | nil => exact .nil
  | cons _ _ => exact .cons (.fixed head) hjoined

theorem pieces_alike (h : q.Alike R q') : List.Forall₂ (Piece.Alike R) q.pieces q'.pieces := by
  have hprojection : q.projectionPieces = q'.projectionPieces := by
    rw [projectionPieces, projectionPieces, h.table, h.dialect, h.projection]
  have hlimit : q.limitPieces = q'.limitPieces := by rw [limitPieces, limitPieces, h.limit]
  have hsource : Piece.values
      (.fixed "SELECT " :: q'.projectionPieces ++ [.fixed " FROM ", .name q'.table]) = [] := by
    simp [Piece.values]
  have hfilters := clausePieces_alike " WHERE " " AND "
    (Condition.piecesOfAll_alike q'.dialect h.filters)
  have horder := clausePieces_alike " ORDER BY " ", "
    (List.rel_map (fun _ _ ho => OrderClause.pieces_alike q'.dialect ho) h.order)
  rw [pieces, pieces, hprojection, hlimit, h.table, filterPieces, orderPieces, h.dialect]
  exact List.rel_append (List.rel_append (List.rel_append
    (Piece.alike_of_values_eq_nil hsource) hfilters) horder)
    (Piece.alike_of_values_eq_nil q'.values_limitPieces)

theorem statement_alike (h : q.Alike R q') :
    q.statement.sql = q'.statement.sql ∧
      List.Forall₂ R q.statement.values q'.statement.values := by
  have hpieces := pieces_alike h
  rw [statement, statement, ← h.dialect]
  exact ⟨congrArg String.ofList (Piece.write_eq_of_alike hpieces q.dialect 0),
    Piece.values_alike hpieces⟩

end Select

end TermSearch
