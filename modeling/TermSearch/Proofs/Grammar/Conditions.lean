import Mathlib.Data.List.Forall2
import TermSearch.Proofs.Grammar.Parser
import TermSearch.Proofs.Grammar.Statements

/-! What a written condition is read as: the condition itself, where groups of one part are that
part, and groups of none are constants. -/

namespace TermSearch

def Grammar.Clause.group (vacant : Clause) (many : List Clause → Clause) : List Clause → Clause
  | [] => vacant
  | [c] => c
  | cs => many cs

namespace Condition

open Grammar

mutual

def collapse : Condition → Clause
  | .like view pattern => .like view (.text pattern)
  | .equal column value => .equal column value
  | .all parts => .group (.numbers 1 1) .all (collapseAll parts)
  | .any parts => .group (.numbers 1 0) .any (collapseAll parts)
  | .negation part => .negation part.collapse
  | .linked link filter => .linked link filter.collapse

def collapseAll : List Condition → List Clause
  | [] => []
  | c :: rest => c.collapse :: collapseAll rest

end

theorem collapseAll_eq_map (cs : List Condition) : collapseAll cs = cs.map collapse := by
  induction cs with
  | nil => rfl
  | cons c cs ih => rw [collapseAll, ih, List.map_cons]

end Condition

namespace Grammar

variable {d : Dialect}

theorem bound_column (d : Dialect) (c : Column) : bound d c.pieces = columnTokens c := by
  cases d <;> rfl

theorem bound_cast (d : Dialect) (c : Column) : bound d (c.castPieces d) = castTokens d c := by
  have hopen : lex d "CAST(".toList = [.keyword .CAST, .mark '('] := by cases d <;> decide
  have hclose : bound d [.fixed (" AS " ++ d.textType ++ ")")] =
      [.keyword .AS, .word d.textType, .mark ')'] := by
    cases d <;> decide
  rw [Column.castPieces, bound_append, bound, hopen, bound_column, hclose]
  rfl

theorem bound_view (d : Dialect) (v : TextView) : bound d (v.pieces d) = viewTokens d v := by
  cases v with
  | cast c => exact bound_cast d c
  | stripped c =>
    have hopen : lex d "REGEXP_REPLACE(".toList = [.word "REGEXP_REPLACE", .mark '('] := by
      cases d <;> decide
    have hclose : bound d [.fixed ", '[^a-zA-Z0-9]', '', 'g')"] =
        [.mark ',', .text "[^a-zA-Z0-9]", .mark ',', .text "", .mark ',', .text "g", .mark ')'] := by
      cases d <;> decide
    rw [TextView.pieces, bound_append, bound, hopen, bound_cast, hclose]
    rfl

theorem bound_like (d : Dialect) (v : TextView) (pattern : String) :
    bound d (v.likePieces d pattern) =
      viewTokens d v ++ [.word d.likeWord, .value (.text pattern)] := by
  have hword : bound d [.fixed (" " ++ d.likeWord ++ " "), .value (.text pattern)] =
      [.word d.likeWord, .value (.text pattern)] := by cases d <;> rfl
  rw [TextView.likePieces, bound_append, bound_view, hword]

def Operands (d : Dialect) : List (List Piece) → List Clause → Prop :=
  List.Forall₂ fun part c => Derives d .operand (bound d part) [c]

theorem derives_joined {rank : Rank} {separator : String} {k : Keyword}
    (hk : lex d separator.toList = [.keyword k])
    (hone : ∀ {ts c}, Derives d .operand ts [c] → Derives d rank ts [c])
    (hmore : ∀ {ts us c cs}, Derives d .operand ts [c] → Derives d rank us cs →
      Derives d rank (ts ++ .keyword k :: us) (c :: cs))
    {parts : List (List Piece)} {cs : List Clause} (h : Operands d parts cs) (hne : parts ≠ []) :
    Derives d rank (bound d (Piece.joined separator parts)) cs := by
  induction h with
  | nil => exact absurd rfl hne
  | @cons part c rest cs hc hrest ih =>
    cases hrest with
    | nil =>
      rw [Piece.joined_singleton]
      exact hone hc
    | cons hd hrest =>
      have hcs := ih (List.cons_ne_nil _ _)
      rw [Piece.joined_cons_cons, bound_append, bound, hk]
      exact hmore hc hcs

theorem derives_joined_and {parts : List (List Piece)} {cs : List Clause}
    (h : Operands d parts cs) (hne : parts ≠ []) :
    Derives d .conjunction (bound d (Piece.joined " AND " parts)) cs := by
  have hand : lex d " AND ".toList = [.keyword .AND] := by cases d <;> decide
  exact derives_joined hand .conjunct .and h hne

theorem derives_joined_or {parts : List (List Piece)} {cs : List Clause}
    (h : Operands d parts cs) (hne : parts ≠ []) :
    Derives d .disjunction (bound d (Piece.joined " OR " parts)) cs := by
  have hor : lex d " OR ".toList = [.keyword .OR] := by cases d <;> decide
  refine derives_joined hor ?_ ?_ h hne
  · intro ts c hc
    exact .disjunct (.conjunct hc)
  · intro ts us c cs hc hcs
    exact .or (.conjunct hc) hcs

theorem derives_parenthesized {ps : List Piece} {cs : List Clause}
    (h : Derives d .disjunction (bound d ps) cs) :
    Derives d .operand (bound d (.fixed "(" :: ps ++ [.fixed ")"])) [.anyOf cs] := by
  have hopen : lex d "(".toList = [.mark '('] := by cases d <;> decide
  have hclose : bound d [.fixed ")"] = [.mark ')'] := by cases d <;> decide
  rw [bound_append, bound, hopen, hclose]
  exact .group h

theorem derives_group {separator vacant : String} {m n : Nat} {many : List Clause → Clause}
    (hvacant : bound d [.fixed vacant] = [.number m, .mark '=', .number n])
    (hmany : ∀ parts c c' cs, Operands d parts (c :: c' :: cs) →
      ∃ ds, Derives d .disjunction (bound d (Piece.joined separator parts)) ds ∧
        .anyOf ds = many (c :: c' :: cs))
    {parts : List (List Piece)} {cs : List Clause} (h : Operands d parts cs) :
    Derives d .operand (bound d (Piece.group separator vacant parts))
      [.group (.numbers m n) many cs] := by
  match parts, cs, h with
  | [], [], _ =>
    rw [Piece.group, hvacant]
    exact .atom (.numbers m n)
  | [_], [_], .cons hc .nil => exact hc
  | part :: part' :: parts, c :: c' :: cs, h =>
    obtain ⟨ds, hds, heq⟩ := hmany _ c c' cs h
    have hgroup := derives_parenthesized hds
    rw [heq] at hgroup
    exact hgroup

theorem derives_group_and {parts : List (List Piece)} {cs : List Clause}
    (h : Operands d parts cs) :
    Derives d .operand (bound d (Piece.group " AND " "1=1" parts))
      [.group (.numbers 1 1) .all cs] := by
  have hvacant : bound d [.fixed "1=1"] = [.number 1, .mark '=', .number 1] := by
    cases d <;> decide
  refine derives_group hvacant ?_ h
  intro parts c c' cs h
  have hne : parts ≠ [] := fun he => by cases he ▸ h
  exact ⟨_, .disjunct (derives_joined_and h hne), rfl⟩

theorem derives_group_or {parts : List (List Piece)} {cs : List Clause}
    (h : Operands d parts cs) :
    Derives d .operand (bound d (Piece.group " OR " "1=0" parts))
      [.group (.numbers 1 0) .any cs] := by
  have hvacant : bound d [.fixed "1=0"] = [.number 1, .mark '=', .number 0] := by
    cases d <;> decide
  refine derives_group hvacant ?_ h
  intro parts c c' cs h
  have hne : parts ≠ [] := fun he => by cases he ▸ h
  exact ⟨_, derives_joined_or h hne, rfl⟩

theorem derives_negation {ps : List Piece} {c : Clause} (h : Derives d .operand (bound d ps) [c]) :
    Derives d .operand (bound d (.fixed "NOT (" :: ps ++ [.fixed ")"])) [.negation c] := by
  have hopen : lex d "NOT (".toList = [.keyword .NOT, .mark '('] := by cases d <;> decide
  have hclose : bound d [.fixed ")"] = [.mark ')'] := by cases d <;> decide
  rw [bound_append, bound, hopen, hclose]
  exact .negation (.group (.disjunct (.conjunct h)))

theorem derives_linked (link : Link) {ps : List Piece} {c : Clause}
    (h : Derives d .operand (bound d ps) [c]) :
    Derives d .operand (bound d ([.fixed "EXISTS (SELECT 1 FROM ", .name link.table, .fixed " AS ",
        .name link.innerName, .fixed " WHERE "] ++ link.innerKey.pieces ++
        .fixed " = " :: link.outerKey.pieces ++ .fixed " AND (" :: ps ++ [.fixed "))"]))
      [.linked link c] := by
  have hlink : bound d [.fixed "EXISTS (SELECT 1 FROM ", .name link.table, .fixed " AS ",
      .name link.innerName, .fixed " WHERE "] = linkTokens link.table link.innerName := by
    cases d <;> rfl
  have houter : bound d (.fixed " = " :: link.outerKey.pieces) =
      .mark '=' :: columnTokens link.outerKey := by
    cases d <;> rfl
  have hopen : bound d (.fixed " AND (" :: ps) = .keyword .AND :: .mark '(' :: bound d ps := by
    have hand : lex d " AND (".toList = [.keyword .AND, .mark '('] := by cases d <;> decide
    rw [bound, hand]
    rfl
  have hclose : bound d [.fixed "))"] = [.mark ')', .mark ')'] := by cases d <;> decide
  -- The keys and the filter are the two operands of the subquery's own conjunction.
  have hkeys : Derives d .operand (columnTokens link.innerKey ++ .mark '=' ::
      columnTokens link.outerKey) [.columns link.innerKey link.outerKey] :=
    .atom (.columns _ _)
  have hfilter : Derives d .operand (.mark '(' :: bound d ps ++ [.mark ')']) [c] :=
    .group (.disjunct (.conjunct h))
  have hlinked := Derives.linked link (.disjunct (.and hkeys (.conjunct hfilter)))
  rw [bound_append, bound_append, bound_append, bound_append, hlink, bound_column, houter, hopen,
    hclose]
  simpa only [List.append_assoc, List.cons_append, List.nil_append] using hlinked

mutual

theorem derives_pieces (d : Dialect) (c : Condition) :
    Derives d .operand (bound d (c.pieces d)) [c.collapse] := by
  cases c with
  | like view pattern =>
    rw [Condition.pieces, bound_like, Condition.collapse]
    exact .atom (.like view _)
  | equal column value =>
    have heq : bound d [.fixed " = ", .value value] = [.mark '=', .value value] := by
      cases d <;> rfl
    rw [Condition.pieces, bound_append, bound_column, heq, Condition.collapse]
    exact .atom (.equal column value)
  | all parts =>
    rw [Condition.pieces, Condition.collapse]
    exact derives_group_and (derives_piecesOfAll d parts)
  | any parts =>
    rw [Condition.pieces, Condition.collapse]
    exact derives_group_or (derives_piecesOfAll d parts)
  | negation part =>
    rw [Condition.pieces, Condition.collapse]
    exact derives_negation (derives_pieces d part)
  | linked link filter =>
    rw [Condition.pieces, Condition.collapse]
    exact derives_linked link (derives_pieces d filter)

theorem derives_piecesOfAll (d : Dialect) (cs : List Condition) :
    Operands d (Condition.piecesOfAll d cs) (Condition.collapseAll cs) := by
  cases cs with
  | nil => exact .nil
  | cons c rest => exact .cons (derives_pieces d c) (derives_piecesOfAll d rest)

end

theorem reads_statement_iff (d : Dialect) (c : Condition) (x : Clause) :
    Reads d (statementTokens d (c.statement d)) x ↔ x = c.collapse := by
  have hc : Reads d (statementTokens d (c.statement d)) c.collapse := by
    rw [statementTokens_condition]
    exact ⟨[c.collapse], .disjunct (.conjunct (derives_pieces d c)), rfl⟩
  constructor
  · intro hx
    exact reads_unique hx hc
  · intro hx
    exact hx ▸ hc

end Grammar

end TermSearch
