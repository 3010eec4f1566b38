import Mathlib.Algebra.GroupWithZero.Nat
import TermSearch.Proofs.Grammar.Statements
import TermSearch.Statement.RenderingValues

/-! The placeholders of a statement against its values. Names and literals are read as single tokens,
so what looks like a placeholder inside them is none. -/

namespace TermSearch

namespace Condition

theorem valueCountOfAll_eq_sum (cs : List Condition) :
    valueCountOfAll cs = (cs.map valueCount).sum := by
  induction cs with
  | nil => rfl
  | cons c cs ih => rw [valueCountOfAll, ih, List.map_cons, List.sum_cons]

end Condition

def OrderClause.branches (o : OrderClause) : List Branch :=
  match o.key with
  | .column _ => []
  | .greatest scores => scores.flatMap Score.branches

theorem OrderClause.values_eq_map_branches (o : OrderClause) :
    o.values = o.branches.map fun b => .text b.pattern := by
  obtain ⟨key, direction⟩ := o
  cases key with
  | column c => rfl
  | greatest scores => exact List.map_flatMap.symm

theorem Select.values_eq_branches (q : Select) :
    q.values = q.filters.flatMap Condition.values ++
      (q.order.flatMap OrderClause.branches).map fun b => .text b.pattern := by
  have horder : OrderClause.values = fun o => o.branches.map fun b => .text b.pattern :=
    funext OrderClause.values_eq_map_branches
  rw [values, Condition.valuesOfAll_eq_flatMap, List.map_flatMap, horder]

theorem Select.length_values (q : Select) :
    q.values.length =
      (q.filters.map Condition.valueCount).sum + (q.order.flatMap OrderClause.branches).length := by
  have hfilters := Condition.length_valuesOfAll q.filters
  rw [Condition.valuesOfAll_eq_flatMap, Condition.valueCountOfAll_eq_sum] at hfilters
  rw [values_eq_branches, List.length_append, hfilters, List.length_map]

namespace Grammar

def placeholders (d : Dialect) (s : List Char) : List Token :=
  (lex d s).filter Token.isPlaceholder

section Pieces

variable {d : Dialect} {ps : List Piece}

theorem isPlaceholder_placeholderToken (d : Dialect) (n : Nat) :
    (placeholderToken d n).isPlaceholder = true := by
  cases d <;> rfl

theorem filter_isPlaceholder_of_plain {ts : List Token}
    (h : ∀ token ∈ ts, token.isPlaceholder = false) : ts.filter Token.isPlaceholder = [] := by
  rw [List.filter_eq_nil_iff]
  intro token ht
  rw [h token ht]
  exact Bool.false_ne_true

theorem filter_isPlaceholder_tokens
    (h : ∀ s, .fixed s ∈ ps → ∀ token ∈ lex d s.toList, token.isPlaceholder = false) (n : Nat) :
    (tokens d n ps).filter Token.isPlaceholder =
      (List.range' (n + 1) (Piece.values ps).length).map (placeholderToken d) := by
  induction ps generalizing n with
  | nil => rfl
  | cons p ps ih =>
    have hps := ih fun s hs => h s (List.mem_cons_of_mem _ hs)
    cases p with
    | fixed s =>
      have hs := filter_isPlaceholder_of_plain (h s (List.mem_cons_self ..))
      rw [tokens, List.filter_append, hs, List.nil_append, hps, Piece.values]
    | name s =>
      have hname : (Token.name s).isPlaceholder = false := rfl
      rw [tokens, List.filter_cons, hname, if_neg Bool.false_ne_true, hps, Piece.values]
    | value v =>
      rw [tokens, List.filter_cons_of_pos (isPlaceholder_placeholderToken d _), hps, Piece.values,
        List.length_cons, List.range'_succ, List.map_cons]

theorem placeholders_ofPieces (h : Lexes d ps) :
    placeholders d (Statement.ofPieces d ps).sql.toList =
      (List.range' 1 (Statement.ofPieces d ps).values.length).map (placeholderToken d) := by
  rw [placeholders, Statement.ofPieces, String.toList_ofList, h.lex_write]
  exact filter_isPlaceholder_tokens h.plain 0

end Pieces

end Grammar

open Grammar

/-- A statement has one placeholder for each of its values, numbered from 1 where the dialect numbers
them. The values are those of the filters and then the patterns of the order, each in the order in
which it is written. -/
theorem placeholders_statement (q : Select) :
    placeholders q.dialect q.statement.sql.toList =
      (List.range' 1 q.statement.values.length).map (placeholderToken q.dialect) ∧
    q.statement.values = q.filters.flatMap Condition.values ++
      (q.order.flatMap OrderClause.branches).map (fun b => .text b.pattern) ∧
    q.statement.values.length =
      (q.filters.map Condition.valueCount).sum + (q.order.flatMap OrderClause.branches).length := by
  refine ⟨placeholders_ofPieces (lexes_select q), ?_, ?_⟩
  · rw [q.values_statement, q.values_eq_branches]
  · rw [q.values_statement, q.length_values]

example : placeholders .postgres "\"a\"\"$1?\" = $1 AND b ILIKE $2".toList =
    [.placeholder (some 1), .placeholder (some 2)] := by decide

end TermSearch
