import TermSearch.Proofs.Grammar.Placeholders

/-! Conditions by themselves and inside a statement. The placeholders of a filter are numbered after
those of the filters before it, and the rest of its text is what it is by itself. -/

namespace TermSearch

namespace Grammar

/-- What is written where a token ends; the digits of a placeholder are held back until then. -/
def Pending.renumbered (k : Nat) : Pending → List Char
  | .placeholder (c :: cs) => Text.numeral (Text.numeralValue (c :: cs) + k)
  | _ => []

def renumberFrom (d : Dialect) (k : Nat) : Pending → List Char → List Char
  | p, [] => p.renumbered k
  | p, c :: rest =>
    match p.extend? d c with
    | some (.placeholder cs) => renumberFrom d k (.placeholder cs) rest
    | some q => c :: renumberFrom d k q rest
    | none => p.renumbered k ++ c :: renumberFrom d k (start d c).2 rest

def renumber (d : Dialect) (k : Nat) (s : List Char) : List Char :=
  renumberFrom d k .rest s

def Token.shifted (k : Nat) : Token → Token
  | .placeholder (some n) => .placeholder (some (n + k))
  | token => token

section Texts

variable {d : Dialect} {k : Nat} {p : Pending} {s t : List Char}

theorem renumberFrom_of_stops (h : p.Stops d t) :
    renumberFrom d k p t = p.renumbered k ++ renumber d k t := by
  cases t with
  | nil => exact (List.append_nil _).symm
  | cons c t =>
    have hc : p.extend? d c = none := h c rfl
    rw [renumberFrom, hc]
    rfl

theorem renumberFrom_append (h : (pendingAfter d p s).Stops d t) :
    renumberFrom d k p (s ++ t) = renumberFrom d k p s ++ renumber d k t := by
  induction s generalizing p with
  | nil => exact renumberFrom_of_stops h
  | cons c s ih =>
    rw [pendingAfter] at h
    rw [List.cons_append, renumberFrom, renumberFrom]
    cases he : p.extend? d c with
    | some q =>
      rw [he, Option.getD_some] at h
      cases q with
      | placeholder cs => exact ih h
      | rest | word | number | name | text => exact congrArg (c :: ·) (ih h)
    | none =>
      rw [he, Option.getD_none] at h
      simp only [ih h, List.append_assoc, List.cons_append]

theorem splits_renumber (d : Dialect) (k : Nat) : Splits d (renumber d k) :=
  ⟨rfl, fun _ _ => renumberFrom_append⟩

theorem renumberFrom_digits {ds : List Char} (h : ∀ c ∈ ds, c.isDigit = true) (cs : List Char) :
    renumberFrom d k (.placeholder cs) ds = (Pending.placeholder (cs ++ ds)).renumbered k := by
  induction ds generalizing cs with
  | nil => rw [List.append_nil]; rfl
  | cons c ds ih =>
    obtain ⟨hc, hds⟩ := List.forall_mem_cons.1 h
    rw [renumberFrom, Pending.extend?, if_pos hc]
    exact (ih hds (cs ++ [c])).trans (by rw [List.append_assoc]; rfl)

theorem renumber_placeholder (d : Dialect) (k n : Nat) :
    renumber d k (d.placeholderChars n) = d.placeholderChars (n + k) := by
  cases d with
  | postgres =>
    have hdigits : renumberFrom .postgres k (.placeholder []) (Text.numeral n) =
        (Pending.placeholder (Text.numeral n)).renumbered k :=
      renumberFrom_digits (fun _ => isDigit_of_mem_numeral) []
    obtain ⟨c, cs, hn⟩ := List.exists_cons_of_ne_nil (numeral_ne_nil n)
    have hvalue : (Pending.placeholder (Text.numeral n)).renumbered k = Text.numeral (n + k) := by
      rw [hn, Pending.renumbered, ← hn, Text.numeralValue_numeral]
    exact congrArg ('$' :: ·) (hdigits.trans hvalue)
  | sqlite | mysql => rfl

theorem exists_placeholder_of_pending (d : Dialect) (cs s : List Char) :
    ∃ token ∈ lexFrom d (.placeholder cs) s, token.isPlaceholder = true := by
  induction s generalizing cs with
  | nil => exact ⟨_, List.mem_singleton.2 rfl, rfl⟩
  | cons c s ih =>
    rw [lexFrom, Pending.extend?]
    cases c.isDigit with
    | true => exact ih (cs ++ [c])
    | false => exact ⟨_, List.mem_append_left _ (List.mem_singleton.2 rfl), rfl⟩

theorem renumbered_of_plain (h : ∀ token ∈ p.tokens, token.isPlaceholder = false) :
    p.renumbered k = [] := by
  cases p with
  | placeholder cs => cases h _ (List.mem_singleton.2 rfl)
  | rest | word | number | name | text => rfl

theorem renumberFrom_of_plain (h : ∀ token ∈ lexFrom d p s, token.isPlaceholder = false) :
    renumberFrom d k p s = s := by
  induction s generalizing p with
  | nil => exact renumbered_of_plain h
  | cons c s ih =>
    rw [lexFrom] at h
    rw [renumberFrom]
    cases he : p.extend? d c with
    | some q =>
      rw [he] at h
      cases q with
      | placeholder cs =>
        obtain ⟨token, ht, hp⟩ := exists_placeholder_of_pending d cs s
        cases (h token ht).symm.trans hp
      | rest | word | number | name | text => exact congrArg (c :: ·) (ih h)
    | none =>
      rw [he] at h
      obtain ⟨hp, hrest⟩ := List.forall_mem_append.1 h
      have hs := ih (List.forall_mem_append.1 hrest).2
      simp only [renumbered_of_plain hp, hs, List.nil_append]

theorem renumber_of_plain (k : Nat) (h : ∀ token ∈ lex d s, token.isPlaceholder = false) :
    renumber d k s = s :=
  renumberFrom_of_plain h

end Texts

section Pieces

variable {d : Dialect} {ps : List Piece}

theorem renumber_texts (h : Lexes d ps) (n k : Nat) :
    (texts d (fun n _ => d.placeholderChars n) n ps).flatMap (renumber d k) =
      (texts d (fun n _ => d.placeholderChars n) (n + k) ps).flatten := by
  induction ps generalizing n with
  | nil => rfl
  | cons p ps ih =>
    obtain ⟨-, hends, hps⟩ := lexes_cons_iff.1 h
    have hp : renumber d k (text d (fun n _ => d.placeholderChars n) n p) =
        text d (fun n _ => d.placeholderChars n) (n + k) p := by
      cases p with
      | fixed s => exact renumber_of_plain k (hends s rfl).plain
      | name s =>
        apply renumber_of_plain
        rw [text, (oneToken_quotedName _).tokens]
        exact List.forall_mem_singleton.2 rfl
      | value v => rw [text, text, renumber_placeholder, Nat.add_right_comm]
    rw [texts, texts, List.flatMap_cons, List.flatten_cons, hp, ih hps, Nat.add_right_comm]

theorem Lexes.renumber_write (h : Lexes d ps) (n k : Nat) :
    renumber d k (Piece.write d n ps) = Piece.write d (n + k) ps := by
  rw [write_eq_flatten_texts,
    h.flatten_texts (splits_renumber d k) (wholeValues_placeholders d), renumber_texts h,
    write_eq_flatten_texts]

theorem shifted_placeholderToken (d : Dialect) (n k : Nat) :
    (placeholderToken d n).shifted k = placeholderToken d (n + k) := by
  cases d <;> rfl

theorem shifted_of_plain (k : Nat) {token : Token} (h : token.isPlaceholder = false) :
    token.shifted k = token := by
  cases token with
  | placeholder number => cases h
  | keyword | word | number | name | text | value | mark | unclosed => rfl

theorem map_shifted_tokens (h : Lexes d ps) (n k : Nat) :
    (tokens d n ps).map (Token.shifted k) = tokens d (n + k) ps := by
  induction ps generalizing n with
  | nil => rfl
  | cons p ps ih =>
    obtain ⟨-, hends, hps⟩ := lexes_cons_iff.1 h
    cases p with
    | fixed s =>
      have hs : (lex d s.toList).map (Token.shifted k) = lex d s.toList :=
        (List.map_congr_left fun token ht => shifted_of_plain k ((hends s rfl).plain token ht)).trans
          (List.map_id _)
      rw [tokens, tokens, List.map_append, ih hps, hs]
    | name s => rw [tokens, tokens, List.map_cons, ih hps]; rfl
    | value v =>
      rw [tokens, tokens, List.map_cons, ih hps, shifted_placeholderToken, Nat.add_right_comm]

theorem Lexes.lex_renumber (h : Lexes d ps) (k : Nat) :
    lex d (renumber d k (Statement.ofPieces d ps).sql.toList) =
      (lex d (Statement.ofPieces d ps).sql.toList).map (Token.shifted k) := by
  rw [Statement.ofPieces, String.toList_ofList, h.renumber_write, h.lex_write, h.lex_write,
    map_shifted_tokens h]

end Pieces

end Grammar

open Grammar

namespace Condition

theorem write_joined_piecesOfAll (d : Dialect) (separator : String) (n : Nat)
    (cs : List Condition) :
    Piece.write d n (Piece.joined separator (piecesOfAll d cs)) =
      separator.toList.intercalate
        (cs.mapIdx fun i c => Piece.write d (n + ((cs.take i).map valueCount).sum) (c.pieces d)) := by
  induction cs generalizing n with
  | nil => rfl
  | cons c cs ih =>
    have hc : (Piece.values (c.pieces d)).length = c.valueCount := by
      rw [values_pieces, length_values]
    have hrest := ih (n + c.valueCount)
    rw [List.mapIdx_cons, piecesOfAll]
    simp only [List.take_succ_cons, List.map_cons, List.sum_cons, ← Nat.add_assoc]
    cases cs with
    | nil =>
      rw [piecesOfAll, Piece.joined_singleton, List.mapIdx_nil, List.intercalate_singleton]
      rfl
    | cons e cs =>
      rw [piecesOfAll] at hrest ⊢
      rw [Piece.joined_cons_cons, Piece.write_append, Piece.write, hc, hrest, List.mapIdx_cons,
        List.intercalate_cons_cons, List.append_assoc]
      rfl

end Condition

namespace Select

def unfiltered (q : Select) : Select :=
  { q with filters := [] }

def bare (q : Select) : Select :=
  { q with filters := [], order := [], limit := none }

def sourcePieces (q : Select) : List Piece :=
  .fixed "SELECT " :: q.projectionPieces ++ [.fixed " FROM ", .name q.table]

theorem pieces_eq_append (q : Select) :
    q.pieces = q.sourcePieces ++ (q.filterPieces ++ (q.orderPieces ++ q.limitPieces)) := by
  rw [pieces, sourcePieces]
  simp only [List.append_assoc]

theorem values_sourcePieces (q : Select) : Piece.values q.sourcePieces = [] := by
  simp [sourcePieces, Piece.values]

theorem pieces_bare (q : Select) : q.bare.pieces = q.sourcePieces := by
  rw [pieces_eq_append]
  exact List.append_nil _

theorem pieces_unfiltered (q : Select) :
    q.unfiltered.pieces = q.sourcePieces ++ (q.orderPieces ++ q.limitPieces) := by
  rw [pieces_eq_append]
  rfl

theorem length_values_filterPieces (q : Select) :
    (Piece.values q.filterPieces).length = (q.filters.map Condition.valueCount).sum := by
  rw [filterPieces, values_clausePieces, Condition.values_piecesOfAll,
    Condition.length_valuesOfAll, Condition.valueCountOfAll_eq_sum]

theorem lexes_tail (q : Select) : Lexes q.dialect (q.orderPieces ++ q.limitPieces) :=
  lexes_append (lexes_orders _ q.order) (leads_limit q) (lexes_limit _ q)

theorem write_filterPieces {q : Select} (h : q.filters ≠ []) :
    Piece.write q.dialect 0 q.filterPieces =
      " WHERE ".toList ++ " AND ".toList.intercalate (q.filters.mapIdx fun i c =>
        renumber q.dialect ((q.filters.take i).map Condition.valueCount).sum
          (c.statement q.dialect).sql.toList) := by
  have hparts : Select.clausePieces " WHERE " " AND " (Condition.piecesOfAll q.dialect q.filters) =
      .fixed " WHERE " ::
        Piece.joined " AND " (Condition.piecesOfAll q.dialect q.filters) := by
    cases hf : q.filters with
    | nil => exact absurd hf h
    | cons c cs => rfl
  have hfilter (c : Condition) (k : Nat) :
      renumber q.dialect k (c.statement q.dialect).sql.toList =
        Piece.write q.dialect (0 + k) (c.pieces q.dialect) := by
    rw [Condition.statement, Statement.ofPieces, String.toList_ofList,
      (lexes_condition q.dialect c).renumber_write]
  rw [filterPieces, hparts, Piece.write, Condition.write_joined_piecesOfAll]
  simp only [hfilter]

end Select

/-- The condition of a statement is made of the texts of its filters by themselves, in which the
numbers of the placeholders are moved past those of the filters before; the rest of the statement
is that of the query without filters, moved past all of them. -/
theorem filters_renumbered (q : Select) :
    (∃ tail : List Char,
      q.unfiltered.statement.sql.toList = q.bare.statement.sql.toList ++ tail ∧
      (q.filters ≠ [] →
        q.statement.sql.toList = q.bare.statement.sql.toList ++ " WHERE ".toList ++
          " AND ".toList.intercalate (q.filters.mapIdx fun i c =>
            renumber q.dialect ((q.filters.take i).map Condition.valueCount).sum
              (c.statement q.dialect).sql.toList) ++
          renumber q.dialect (q.filters.map Condition.valueCount).sum tail)) ∧
    q.statement.values =
      q.filters.flatMap (fun c => (c.statement q.dialect).values) ++ q.unfiltered.statement.values ∧
    (∀ (c : Condition) (k : Nat),
      lex q.dialect (renumber q.dialect k (c.statement q.dialect).sql.toList) =
        (lex q.dialect (c.statement q.dialect).sql.toList).map (Token.shifted k)) ∧
    (∀ (s : List Char) (k : Nat),
      (∀ token ∈ lex q.dialect s, token.isPlaceholder = false) → renumber q.dialect k s = s) := by
  refine ⟨⟨Piece.write q.dialect 0 (q.orderPieces ++ q.limitPieces), ?_, ?_⟩, ?_,
    fun c => (lexes_condition q.dialect c).lex_renumber, fun s k => renumber_of_plain k⟩
  · rw [Select.statement, Select.statement, Statement.ofPieces, Statement.ofPieces,
      String.toList_ofList, String.toList_ofList, q.pieces_unfiltered, q.pieces_bare,
      Piece.write_append, q.values_sourcePieces]
    rfl
  · intro h
    rw [Select.statement, Select.statement, Statement.ofPieces, Statement.ofPieces,
      String.toList_ofList, String.toList_ofList, q.pieces_eq_append, q.pieces_bare,
      Piece.write_append, q.values_sourcePieces, List.length_nil, Nat.add_zero,
      Piece.write_append, Select.write_filterPieces h, q.length_values_filterPieces,
      q.lexes_tail.renumber_write]
    simp only [List.append_assoc]
    rfl
  · have hvalues (c : Condition) : (c.statement q.dialect).values = c.values :=
      c.values_pieces q.dialect
    rw [q.values_statement, q.unfiltered.values_statement, Select.values, Select.values,
      Condition.valuesOfAll_eq_flatMap]
    simp only [hvalues]
    rfl

example : renumber .postgres 2 "\"a$1\" = $1 OR b".toList = "\"a$1\" = $3 OR b".toList := by cbv

end TermSearch
