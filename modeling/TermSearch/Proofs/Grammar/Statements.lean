import TermSearch.Proofs.Grammar.Lexing

/-! Whole statements as tokens, each value in the place of its placeholder. -/

namespace TermSearch.Grammar

section Numerals

variable {d : Dialect}

theorem isWhole_pendingAfter_of_breakLed {p : Pending} {t : List Char} (hp : p.isWhole = true)
    (hb : BreakLed t) (ht : (pendingAfter d .rest t).isWhole = true) :
    (pendingAfter d p t).isWhole = true := by
  cases t with
  | nil => exact hp
  | cons c t =>
    have hc : p.extend? d c = none := stops_of_breakLed hp hb c rfl
    rw [pendingAfter, hc, Option.getD_none]
    exact ht

theorem toList_numeral (first last : String) (n : Nat) :
    (first ++ String.ofList (Text.numeral n) ++ last).toList =
      first.toList ++ (Text.numeral n ++ last.toList) := by
  simp only [String.toList_append, String.toList_ofList, List.append_assoc]

theorem lex_fixed_numeral {first last : String} (n : Nat) (hf : Closes d first)
    (hb : BreakLed last.toList) :
    lex d (first ++ String.ofList (Text.numeral n) ++ last).toList =
      lex d first.toList ++ .number n :: lex d last.toList := by
  have hfirst : (pendingAfter d .rest first.toList).Stops d (Text.numeral n ++ last.toList) := by
    rw [hf.rest]
    exact fun _ _ => rfl
  have hnumber : (pendingAfter d .rest (Text.numeral n)).Stops d last.toList := by
    rw [(oneToken_numeral n).pending]
    exact stops_of_breakLed rfl hb
  rw [toList_numeral, lex_append hfirst, lex_append hnumber, lex_numeral]
  rfl

theorem ends_numeral {first last : String} (n : Nat) (hf : Closes d first)
    (hb : BreakLed last.toList) (hl : Ends d last) :
    Ends d (first ++ String.ofList (Text.numeral n) ++ last) := by
  constructor
  · rw [toList_numeral, pendingAfter_append, hf.rest, pendingAfter_append,
      (oneToken_numeral n).pending]
    exact isWhole_pendingAfter_of_breakLed rfl hb hl.whole
  · intro token ht
    rw [lex_fixed_numeral n hf hb] at ht
    rcases List.mem_append.1 ht with ht | ht
    · exact hf.plain token ht
    · rcases List.mem_cons.1 ht with rfl | ht
      · rfl
      · exact hl.plain token ht

end Numerals

section Clauses

variable (d : Dialect)

theorem lexes_branch (b : Branch) : Lexes d (b.pieces d) := by
  have hcase : Closes d "CASE WHEN " := by cases d <;> decide
  have hthen : Closes d " THEN " := by cases d <;> decide
  have helse : Ends d " ELSE 0 END" := by cases d <;> decide
  have hend : Ends d (" THEN " ++ String.ofList (Text.numeral b.weight.toNat) ++ " ELSE 0 END") :=
    ends_numeral _ hthen (by decide) helse
  have hlead : Leads
      [.fixed (" THEN " ++ String.ofList (Text.numeral b.weight.toNat) ++ " ELSE 0 END")] :=
    leads_fixed_of_breaks ⟨' ', by decide, by simp⟩ _
  exact lexes_closed hcase (lexes_append (lexes_like d b.view b.pattern) hlead
    (lexes_fixed hend leads_nil lexes_nil))

theorem lexes_score (s : Score) : Lexes d (s.pieces d) := by
  have hzero : Ends d "0" := by cases d <;> decide
  have hopen : Closes d "(" := by cases d <;> decide
  have hplus : Closes d " + " := by cases d <;> decide
  rw [Score.pieces]
  split
  · exact lexes_fixed hzero leads_nil lexes_nil
  · apply lexes_parenthesized hopen
    apply lexes_joined hplus ⟨' ', by decide, rfl⟩
    intro part hm
    obtain ⟨b, -, rfl⟩ := List.mem_map.1 hm
    exact lexes_branch d b

theorem lexes_order (o : OrderClause) : Lexes d (o.pieces d) := by
  have hopen : Closes d "GREATEST(" := by cases d <;> decide
  have hcomma : Closes d ", " := by cases d <;> decide
  have hword : Ends d (" " ++ o.direction.word) := by cases o.direction <;> cases d <;> decide
  have hlead : Leads [.fixed (" " ++ o.direction.word)] := by
    cases o.direction <;> exact leads_fixed rfl (by decide) _
  have hkey : Lexes d (o.key.pieces d) := by
    cases o.key with
    | column c => exact lexes_column d c
    | greatest scores =>
      apply lexes_parenthesized hopen
      apply lexes_joined hcomma ⟨',', by decide, rfl⟩
      intro part hm
      obtain ⟨s, -, rfl⟩ := List.mem_map.1 hm
      exact lexes_score d s
  exact lexes_append hkey hlead (lexes_fixed hword leads_nil lexes_nil)

theorem leads_clause {head separator : String} {parts : List (List Piece)}
    (hb : ∃ c ∈ breaks, head.toList.head? = some c) :
    Leads (Select.clausePieces head separator parts) := by
  cases parts with
  | nil => exact leads_nil
  | cons part rest => exact leads_fixed_of_breaks hb _

theorem lexes_clause {head separator : String} {parts : List (List Piece)} (hh : Closes d head)
    (hs : Closes d separator) (hb : ∃ c ∈ breaks, separator.toList.head? = some c)
    (h : ∀ part ∈ parts, Lexes d part) : Lexes d (Select.clausePieces head separator parts) := by
  cases parts with
  | nil => exact lexes_nil
  | cons part rest => exact lexes_closed hh (lexes_joined hs hb h)

theorem lexes_projection (q : Select) : Lexes q.dialect q.projectionPieces := by
  have hstar : Closes q.dialect ".*" := by cases q.dialect <;> decide
  have hvalue : Ends q.dialect " AS value" := by cases q.dialect <;> decide
  rw [Select.projectionPieces]
  split
  · exact lexes_name _ (leads_fixed rfl (by decide) _) (lexes_closed hstar lexes_nil)
  · exact lexes_append (lexes_cast q.dialect _) (leads_fixed rfl (by decide) _)
      (lexes_fixed hvalue leads_nil lexes_nil)

theorem leads_limit (q : Select) : Leads q.limitPieces := by
  rw [Select.limitPieces]
  split
  · exact leads_nil
  · exact leads_fixed_of_breaks ⟨' ', by decide, by simp⟩ _

theorem lexes_limit (q : Select) : Lexes d q.limitPieces := by
  have hlimit : Closes d " LIMIT " := by cases d <;> decide
  have hnone : Ends d "" := by cases d <;> decide
  rw [Select.limitPieces]
  split
  next => exact lexes_nil
  next n hn =>
    have hend := ends_numeral n.toNat hlimit (by decide) hnone
    rw [String.append_empty] at hend
    exact lexes_fixed hend leads_nil lexes_nil

theorem lexes_filters (cs : List Condition) :
    Lexes d (Select.clausePieces " WHERE " " AND " (Condition.piecesOfAll d cs)) := by
  have hwhere : Closes d " WHERE " := by cases d <;> decide
  have hand : Closes d " AND " := by cases d <;> decide
  exact lexes_clause d hwhere hand ⟨' ', by decide, rfl⟩ (lexes_conditions d cs)

theorem lexes_orders (os : List OrderClause) :
    Lexes d (Select.clausePieces " ORDER BY " ", " (os.map (OrderClause.pieces d))) := by
  have horder : Closes d " ORDER BY " := by cases d <;> decide
  have hcomma : Closes d ", " := by cases d <;> decide
  apply lexes_clause d horder hcomma ⟨',', by decide, rfl⟩
  intro part hm
  obtain ⟨o, -, rfl⟩ := List.mem_map.1 hm
  exact lexes_order d o

theorem lexes_select (q : Select) : Lexes q.dialect q.pieces := by
  have hselect : Closes q.dialect "SELECT " := by cases q.dialect <;> decide
  have hfrom : Closes q.dialect " FROM " := by cases q.dialect <;> decide
  have hsource : Lexes q.dialect
      (.fixed "SELECT " :: q.projectionPieces ++ [.fixed " FROM ", .name q.table]) :=
    lexes_append (lexes_closed hselect (lexes_projection q)) (leads_fixed rfl (by decide) _)
      (lexes_closed hfrom (lexes_name _ leads_nil lexes_nil))
  have hfiltered : Lexes q.dialect (.fixed "SELECT " :: q.projectionPieces ++
      [.fixed " FROM ", .name q.table] ++ q.filterPieces) :=
    lexes_append hsource (leads_clause ⟨' ', by decide, rfl⟩) (lexes_filters _ q.filters)
  have hordered : Lexes q.dialect (.fixed "SELECT " :: q.projectionPieces ++
      [.fixed " FROM ", .name q.table] ++ q.filterPieces ++ q.orderPieces) :=
    lexes_append hfiltered (leads_clause ⟨' ', by decide, rfl⟩) (lexes_orders _ q.order)
  exact lexes_append hordered (leads_limit q) (lexes_limit _ q)

end Clauses

def valueAt? (values : List Value) : Nat → Option Value
  | 0 => none
  | n + 1 => values[n]?

/-- Each placeholder gives way to its value: the one that it numbers or, where it has no number, the
one that stands in its own place among the placeholders. -/
def bind (values : List Value) : Nat → List Token → List Token
  | _, [] => []
  | n, .placeholder number :: rest =>
    ((valueAt? values (number.getD (n + 1))).map Token.value).getD (.placeholder number) ::
      bind values (n + 1) rest
  | n, token :: rest => token :: bind values n rest

def statementTokens (d : Dialect) (s : Statement) : List Token :=
  bind s.values 0 (lex d s.sql.toList)

def bound (d : Dialect) : List Piece → List Token
  | [] => []
  | .fixed s :: rest => lex d s.toList ++ bound d rest
  | .name s :: rest => .name s :: bound d rest
  | .value v :: rest => .value v :: bound d rest

section Binding

variable {d : Dialect} {ps : List Piece}

@[simp] theorem bound_append (d : Dialect) (ps qs : List Piece) :
    bound d (ps ++ qs) = bound d ps ++ bound d qs := by
  induction ps with
  | nil => rfl
  | cons p ps ih =>
    cases p with
    | fixed s => simp only [List.cons_append, bound, ih, List.append_assoc]
    | name s => simp only [List.cons_append, bound, ih]
    | value v => simp only [List.cons_append, bound, ih]

theorem bind_cons_of_plain (values : List Value) (n : Nat) {token : Token}
    (h : token.isPlaceholder = false) (rest : List Token) :
    bind values n (token :: rest) = token :: bind values n rest := by
  cases token with
  | placeholder number => exact nomatch h
  | keyword | word | number | name | text | value | mark | unclosed => rfl

theorem bind_append_of_plain (values : List Value) (n : Nat) {ts : List Token}
    (h : ∀ token ∈ ts, token.isPlaceholder = false) (rest : List Token) :
    bind values n (ts ++ rest) = ts ++ bind values n rest := by
  induction ts with
  | nil => rfl
  | cons token ts ih =>
    have ht : token.isPlaceholder = false := h token (List.mem_cons_self ..)
    have hts := ih fun other hm => h other (List.mem_cons_of_mem _ hm)
    rw [List.cons_append, bind_cons_of_plain values n ht, hts, List.cons_append]

theorem bind_placeholderToken (d : Dialect) (values : List Value) (n : Nat) (rest : List Token) :
    bind values n (placeholderToken d (n + 1) :: rest) =
      ((valueAt? values (n + 1)).map Token.value).getD (placeholderToken d (n + 1)) ::
        bind values (n + 1) rest := by
  cases d <;> rfl

theorem bind_tokens
    (h : ∀ s, .fixed s ∈ ps → ∀ token ∈ lex d s.toList, token.isPlaceholder = false)
    (before : List Value) :
    bind (before ++ Piece.values ps) before.length (tokens d before.length ps) = bound d ps := by
  induction ps generalizing before with
  | nil => rfl
  | cons p ps ih =>
    have hps : ∀ s, .fixed s ∈ ps → ∀ token ∈ lex d s.toList, token.isPlaceholder = false :=
      fun s hs => h s (List.mem_cons_of_mem _ hs)
    cases p with
    | fixed s =>
      have hs := h s (List.mem_cons_self ..)
      rw [tokens, Piece.values, bind_append_of_plain _ _ hs, ih hps, bound]
    | name s => rw [tokens, Piece.values, bind_cons_of_plain _ _ rfl, ih hps, bound]
    | value v =>
      -- The values before this one are those of the earlier pieces, so the counter points at it.
      have hv : valueAt? (before ++ v :: Piece.values ps) (before.length + 1) = some v := by
        rw [valueAt?, List.getElem?_append_right (Nat.le_refl _), Nat.sub_self]
        rfl
      have hrest := ih hps (before ++ [v])
      rw [List.append_assoc, List.length_append] at hrest
      rw [tokens, Piece.values, bind_placeholderToken, hv, bound]
      exact congrArg _ hrest

theorem statementTokens_ofPieces (h : Lexes d ps) :
    statementTokens d (.ofPieces d ps) = bound d ps := by
  rw [statementTokens, Statement.ofPieces, String.toList_ofList, h.lex_write]
  exact bind_tokens h.plain []

theorem statementTokens_condition (d : Dialect) (c : Condition) :
    statementTokens d (c.statement d) = bound d (c.pieces d) :=
  statementTokens_ofPieces (lexes_condition d c)

theorem statementTokens_select (q : Select) :
    statementTokens q.dialect q.statement = bound q.dialect q.pieces :=
  statementTokens_ofPieces (lexes_select q)

end Binding

end TermSearch.Grammar
