import TermSearch.Proofs.Grammar.Conditions

/-! The condition of a whole statement: what stands between its WHERE and its order or limit. -/

namespace TermSearch

namespace Grammar

def endsCondition (token : Token) : Bool :=
  token = .keyword .ORDER ∨ token = .keyword .LIMIT

def afterSource? (ts : List Token) : Option (List Token) :=
  match ts.dropWhile (· ≠ .keyword .FROM) with
  | .keyword .FROM :: .name _ :: rest => some rest
  | _ => none

def whereTokens? (ts : List Token) : Option (List Token) :=
  match afterSource? ts with
  | some (.keyword .WHERE :: rest) => some (rest.takeWhile (! endsCondition ·))
  | _ => none

theorem endsCondition_of_atom {ts : List Token} {c : Clause} (h : Atom d ts c) :
    ∀ token ∈ ts, endsCondition token = false := by
  cases h with
  | like view pattern =>
    cases view <;> simp [viewTokens, castTokens, columnTokens, endsCondition]
  | equal column value => simp [columnTokens, endsCondition]
  | columns a b => simp [columnTokens, endsCondition]
  | numbers m n => simp [endsCondition]

theorem endsCondition_of_derives {rank : Rank} {ts : List Token} {cs : List Clause}
    (h : Derives d rank ts cs) : ∀ token ∈ ts, endsCondition token = false := by
  have hmark (c : Char) : endsCondition (.mark c) = false := rfl
  induction h with
  | atom h => exact endsCondition_of_atom h
  | negation _ ih => exact List.forall_mem_cons.2 ⟨rfl, ih⟩
  | group _ ih =>
    exact List.forall_mem_append.2 ⟨List.forall_mem_cons.2 ⟨rfl, ih⟩, by simp [hmark]⟩
  | linked link _ ih =>
    refine List.forall_mem_append.2 ⟨List.forall_mem_append.2 ⟨?_, ih⟩, by simp [hmark]⟩
    simp [linkTokens, endsCondition]
  | conjunct _ ih => exact ih
  | and _ _ ih ihs => exact List.forall_mem_append.2 ⟨ih, List.forall_mem_cons.2 ⟨rfl, ihs⟩⟩
  | disjunct _ ih => exact ih
  | or _ _ ih ihs => exact List.forall_mem_append.2 ⟨ih, List.forall_mem_cons.2 ⟨rfl, ihs⟩⟩

def projectionTokens (q : Select) : List Token :=
  match q.projection with
  | .all => [.name q.table, .mark '.', .mark '*']
  | .text c => castTokens q.dialect c ++ [.keyword .AS, .word "value"]

theorem bound_projection (q : Select) : bound q.dialect q.projectionPieces = projectionTokens q := by
  have hstar : lex q.dialect ".*".toList = [.mark '.', .mark '*'] := by
    cases q.dialect <;> decide
  have hvalue : bound q.dialect [.fixed " AS value"] = [.keyword .AS, .word "value"] := by
    cases q.dialect <;> decide
  unfold Select.projectionPieces projectionTokens
  cases q.projection with
  | all =>
    rw [bound, bound, hstar]
    rfl
  | text c => rw [bound_append, bound_cast, hvalue]

theorem afterSource?_projection (q : Select) (rest : List Token) :
    afterSource? (.keyword .SELECT :: projectionTokens q ++ .keyword .FROM :: .name q.table :: rest) =
      some rest := by
  unfold projectionTokens
  split <;> rfl

theorem endsCondition_head? (q : Select) :
    ∀ token ∈ (bound q.dialect q.orderPieces ++ bound q.dialect q.limitPieces).head?,
      endsCondition token = true := by
  have horder : lex q.dialect " ORDER BY ".toList = [.keyword .ORDER, .word "BY"] := by
    cases q.dialect <;> decide
  have hlimit (n : Nat) : lex q.dialect (" LIMIT " ++ String.ofList (Text.numeral n)).toList =
      [.keyword .LIMIT, .number n] := by
    have hfirst : lex q.dialect " LIMIT ".toList = [.keyword .LIMIT] := by
      cases q.dialect <;> decide
    have hcloses : Closes q.dialect " LIMIT " := by cases q.dialect <;> decide
    have hbreak : BreakLed "".toList := by decide
    have hnumber := lex_fixed_numeral n hcloses hbreak
    rw [String.append_empty, hfirst] at hnumber
    exact hnumber
  intro token ht
  rw [Select.orderPieces] at ht
  cases ho : q.order.map (OrderClause.pieces q.dialect) with
  | cons part rest =>
    rw [ho, Select.clausePieces_cons, bound, horder] at ht
    obtain rfl := Option.some.inj ht
    rfl
  | nil =>
    rw [ho, Select.clausePieces, bound, List.nil_append, Select.limitPieces] at ht
    split at ht
    · cases ht
    · rw [bound, hlimit] at ht
      obtain rfl := Option.some.inj ht
      rfl

theorem takeWhile_endsCondition {ts rest : List Token}
    (h : ∀ token ∈ ts, endsCondition token = false)
    (hr : ∀ token ∈ rest.head?, endsCondition token = true) :
    (ts ++ rest).takeWhile (! endsCondition ·) = ts := by
  have hts : ∀ token ∈ ts, (! endsCondition token) = true := by
    intro token ht
    rw [h token ht]
    rfl
  rw [List.takeWhile_append_of_pos hts]
  cases rest with
  | nil => rw [List.takeWhile_nil, List.append_nil]
  | cons token rest =>
    have htoken : endsCondition token = true := hr token rfl
    rw [List.takeWhile_cons, htoken]
    exact List.append_nil ts

theorem bound_select (q : Select) : bound q.dialect q.pieces =
    .keyword .SELECT :: projectionTokens q ++ .keyword .FROM :: .name q.table ::
      (bound q.dialect q.filterPieces ++
        (bound q.dialect q.orderPieces ++ bound q.dialect q.limitPieces)) := by
  have hselect : lex q.dialect "SELECT ".toList = [.keyword .SELECT] := by
    cases q.dialect <;> decide
  have hfrom : bound q.dialect [.fixed " FROM ", .name q.table] =
      [.keyword .FROM, .name q.table] := by
    cases q.dialect <;> rfl
  rw [Select.pieces, bound_append, bound_append, bound_append, bound_append, bound, hselect,
    bound_projection, hfrom]
  simp only [List.append_assoc, List.cons_append, List.nil_append]

theorem whereTokens?_of_no_filters (q : Select) (h : q.filters = []) :
    whereTokens? (statementTokens q.dialect q.statement) = none := by
  have hfilters : bound q.dialect q.filterPieces = [] := by
    rw [Select.filterPieces, h]
    rfl
  rw [statementTokens_select, bound_select, whereTokens?, afterSource?_projection, hfilters,
    List.nil_append]
  cases hrest : bound q.dialect q.orderPieces ++ bound q.dialect q.limitPieces with
  | nil => rfl
  | cons token rest =>
    -- A WHERE is not among the tokens that may follow the source here.
    have hends : endsCondition token = true := by
      apply endsCondition_head? q token
      rw [hrest]
      rfl
    split
    next hw =>
      obtain ⟨rfl, -⟩ := List.cons.inj (Option.some.inj hw)
      exact nomatch hends
    next => rfl

theorem whereTokens?_select (q : Select) (h : q.filters ≠ []) :
    ∃ ts, whereTokens? (statementTokens q.dialect q.statement) = some ts ∧
      Derives q.dialect .conjunction ts (Condition.collapseAll q.filters) := by
  have hparts : Condition.piecesOfAll q.dialect q.filters ≠ [] := by
    cases hf : q.filters with
    | nil => exact absurd hf h
    | cons c rest => exact List.cons_ne_nil _ _
  have hderives := derives_joined_and (derives_piecesOfAll q.dialect q.filters) hparts
  have hwhere : lex q.dialect " WHERE ".toList = [.keyword .WHERE] := by
    cases q.dialect <;> decide
  have hfilters : bound q.dialect q.filterPieces = .keyword .WHERE ::
      bound q.dialect (Piece.joined " AND " (Condition.piecesOfAll q.dialect q.filters)) := by
    rw [Select.filterPieces]
    cases hp : Condition.piecesOfAll q.dialect q.filters with
    | nil => exact absurd hp hparts
    | cons part rest =>
      rw [Select.clausePieces_cons, bound, hwhere]
      rfl
  refine ⟨_, ?_, hderives⟩
  rw [statementTokens_select, bound_select, whereTokens?, afterSource?_projection, hfilters]
  exact congrArg some
    (takeWhile_endsCondition (endsCondition_of_derives hderives) (endsCondition_head? q))

end Grammar

open Grammar

/-- A written condition has one reading, which is the condition itself up to its groups of less than
two parts; and a statement keeps the rows that meet each of its filters. -/
theorem statement_reads_collapse :
    (∀ (d : Dialect) (c : Condition),
      parse? d (statementTokens d (c.statement d)) = some c.collapse ∧
      ∀ x, Reads d (statementTokens d (c.statement d)) x ↔ x = c.collapse) ∧
    (∀ (d : Dialect) (a b : Condition), a.statement d = b.statement d → a.collapse = b.collapse) ∧
    (∀ q : Select, q.filters = [] →
      whereTokens? (statementTokens q.dialect q.statement) = none) ∧
    (∀ q : Select, q.filters ≠ [] →
      ∃ ts, whereTokens? (statementTokens q.dialect q.statement) = some ts ∧
        parse? q.dialect ts = some (.allOf (q.filters.map Condition.collapse)) ∧
        ∀ x, Reads q.dialect ts x ↔ x = .allOf (q.filters.map Condition.collapse)) := by
  have hreads (d : Dialect) (c : Condition) :
      Reads d (statementTokens d (c.statement d)) c.collapse :=
    (reads_statement_iff d c c.collapse).2 rfl
  refine ⟨?_, ?_, whereTokens?_of_no_filters, ?_⟩
  · intro d c
    exact ⟨parse?_of_reads (hreads d c), reads_statement_iff d c⟩
  · intro d a b hab
    have ha := hreads d a
    rw [hab] at ha
    exact reads_unique ha (hreads d b)
  · intro q hq
    obtain ⟨ts, hts, hderives⟩ := whereTokens?_select q hq
    rw [Condition.collapseAll_eq_map] at hderives
    have hts' : Reads q.dialect ts (.allOf (q.filters.map Condition.collapse)) :=
      ⟨_, .disjunct hderives, rfl⟩
    refine ⟨ts, hts, parse?_of_reads hts', fun x => ⟨?_, ?_⟩⟩
    · intro hx
      exact reads_unique hx hts'
    · intro hx
      exact hx ▸ hts'

end TermSearch
