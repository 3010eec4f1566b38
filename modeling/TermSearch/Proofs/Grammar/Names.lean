import TermSearch.Proofs.Grammar.Skeleton
import TermSearch.Proofs.Text.Quotation

/-! Names in statements. A name between its quotes is read back as it is, wherever it stands, and the
text after it is read as if the name were not there. -/

namespace TermSearch

namespace Grammar

variable {d : Dialect} {s t rest : List Char} {before after : List Piece} {name : String}

theorem head?_ne_quote_of_breakLed (h : BreakLed t) (d : Dialect) : t.head? ≠ some d.quote :=
  fun he => (ne_of_mem_breaks (h d.quote he) d).2 rfl

theorem breakLed_write (h : Leads after) (d : Dialect) (n : Nat) :
    BreakLed (Piece.write d n after) := by
  rw [write_eq_flatten_texts]
  exact breakLed_texts h n

theorem breakLed_writeLiteral (h : Leads after) (d : Dialect) :
    BreakLed (Piece.writeLiteral d after) := by
  rw [writeLiteral_eq_flatten_texts d 0]
  exact breakLed_texts h 0

theorem Lexes.leads_of_name (h : Lexes d (before ++ .name name :: after)) : Leads after := by
  obtain ⟨-, hname⟩ := h.of_append
  rcases (lexes_cons_iff.1 hname).1 with hclosed | hleads
  · exact hclosed.elim
  · exact hleads

theorem lex_of_readQuoted (h : Text.readQuoted d.quote t = some (s, rest)) :
    lex d t = .name (String.ofList s) :: lex d rest := by
  obtain ⟨rfl, hrest⟩ := Text.readQuoted_eq_some_iff.1 h
  have hstop : (pendingAfter d .rest (Text.quoted d.quote s)).Stops d rest := by
    rw [(oneToken_quotedName s).pending]
    intro c hc
    have hquote : c ≠ d.quote := fun he => hrest (he ▸ hc)
    rw [Pending.extend?, extendQuoted?, if_neg hquote]
    rfl
  rw [lex_append hstop, (oneToken_quotedName s).tokens]
  rfl

end Grammar

open Grammar

@[simp] theorem Dialect.toList_quoteName (d : Dialect) (name : String) :
    (d.quoteName name).toList = Text.quoted d.quote name.toList :=
  String.toList_ofList

theorem Dialect.readQuoted_quoteName (d : Dialect) (name : String) {rest : List Char}
    (h : rest.head? ≠ some d.quote) :
    Text.readQuoted d.quote ((d.quoteName name).toList ++ rest) = some (name.toList, rest) := by
  rw [toList_quoteName]
  exact Text.readQuoted_eq_some_iff.2 ⟨rfl, h⟩

theorem Column.write_pieces (d : Dialect) (n : Nat) (c : Column) :
    Piece.write d n c.pieces = (d.quoteName c.table).toList ++ '.' :: (d.quoteName c.name).toList := by
  simp [pieces, Piece.write]

theorem Column.write_pieces_injective (d : Dialect) (n : Nat) :
    Function.Injective fun c : Column => Piece.write d n c.pieces := by
  intro c c' h
  have hquote : '.' ≠ d.quote := (ne_of_mem_breaks (by decide) d).2
  have hdot (cs : List Char) : ('.' :: cs).head? ≠ some d.quote := fun he =>
    hquote (Option.some.inj he)
  have hend : ([] : List Char).head? ≠ some d.quote := nofun
  simp only [write_pieces, Dialect.toList_quoteName] at h
  obtain ⟨htable, hrest⟩ := Text.quoted_append_inj (hdot _) (hdot _) h
  have hquoted : Text.quoted d.quote c.name.toList ++ [] =
      Text.quoted d.quote c'.name.toList ++ [] := congrArg (· ++ []) (List.cons.inj hrest).2
  obtain ⟨hname, -⟩ := Text.quoted_append_inj hend hend hquoted
  cases c
  cases c'
  rw [Column.mk.injEq]
  exact ⟨String.toList_inj.1 htable, String.toList_inj.1 hname⟩

/-- After `before`, a text goes on with a quoted name, which is read there as it is and up to its own
last quote. -/
def NameStands (d : Dialect) (before : List Char) (name : String) (text : List Char) : Prop :=
  ∃ rest, text = before ++ ((d.quoteName name).toList ++ rest) ∧
    Text.readQuoted d.quote ((d.quoteName name).toList ++ rest) = some (name.toList, rest)

section Standing

variable {d : Dialect} {before after : List Piece} {name : String}

theorem Grammar.Lexes.nameStands_write (h : Lexes d (before ++ .name name :: after)) (n : Nat) :
    NameStands d (Piece.write d n before) name
      (Piece.write d n (before ++ .name name :: after)) := by
  have hrest := head?_ne_quote_of_breakLed
    (breakLed_write h.leads_of_name d (n + (Piece.values before).length)) d
  refine ⟨_, ?_, d.readQuoted_quoteName name hrest⟩
  rw [Piece.write_append, Piece.write, Dialect.toList_quoteName]

theorem Grammar.Lexes.nameStands_writeLiteral (h : Lexes d (before ++ .name name :: after)) :
    NameStands d (Piece.writeLiteral d before) name
      (Piece.writeLiteral d (before ++ .name name :: after)) := by
  have hrest := head?_ne_quote_of_breakLed (breakLed_writeLiteral h.leads_of_name d) d
  refine ⟨_, ?_, d.readQuoted_quoteName name hrest⟩
  rw [Piece.writeLiteral_append, Piece.writeLiteral, Dialect.toList_quoteName]

end Standing

/-- A quoted name is read as the name, and nothing of what follows it is lost or added. So the text of
a column is that of no other column, and each name of a statement or of a condition ends where its
own last quote stands. -/
theorem names_stay_quoted :
    (∀ (d : Dialect) (name : String) (rest : List Char), rest.head? ≠ some d.quote →
      Text.readQuoted d.quote ((d.quoteName name).toList ++ rest) = some (name.toList, rest) ∧
      lex d ((d.quoteName name).toList ++ rest) = .name name :: lex d rest) ∧
    (∀ (d : Dialect) (n : Nat), Function.Injective fun c : Column => Piece.write d n c.pieces) ∧
    (∀ (q : Select) (before after : List Piece) (name : String),
      q.pieces = before ++ .name name :: after →
      NameStands q.dialect (Piece.write q.dialect 0 before) name q.statement.sql.toList ∧
      NameStands q.dialect (Piece.writeLiteral q.dialect before) name q.literalText.toList) ∧
    ∀ (d : Dialect) (c : Condition) (before after : List Piece) (name : String),
      c.pieces d = before ++ .name name :: after →
      NameStands d (Piece.write d 0 before) name (c.statement d).sql.toList := by
  refine ⟨?_, Column.write_pieces_injective, ?_, ?_⟩
  · intro d name rest hrest
    have hread := d.readQuoted_quoteName name hrest
    refine ⟨hread, ?_⟩
    rw [lex_of_readQuoted hread, String.ofList_toList]
  · intro q before after name hpieces
    have hlexes : Lexes q.dialect (before ++ .name name :: after) := hpieces ▸ lexes_select q
    rw [Select.statement, Statement.ofPieces, String.toList_ofList, Select.literalText,
      String.toList_ofList, hpieces]
    exact ⟨hlexes.nameStands_write 0, hlexes.nameStands_writeLiteral⟩
  · intro d c before after name hpieces
    have hlexes : Lexes d (before ++ .name name :: after) := hpieces ▸ lexes_condition d c
    rw [Condition.statement, Statement.ofPieces, String.toList_ofList, hpieces]
    exact hlexes.nameStands_write 0

def hostile : Select :=
  .ofTable "a\".* FROM b; --" .postgres

theorem names_stay_quoted_hostile :
    ".*".toList.head? ≠ some Dialect.postgres.quote ∧
    Text.readQuoted Dialect.postgres.quote
        ((Dialect.postgres.quoteName hostile.table).toList ++ ".*".toList) =
      some (hostile.table.toList, ".*".toList) ∧
    Piece.write .mysql 0 (Column.mk "a`.`b" "c").pieces ≠
      Piece.write .mysql 0 (Column.mk "a" "b`.`c").pieces ∧
    hostile.pieces =
      [.fixed "SELECT "] ++ .name hostile.table :: [.fixed ".*", .fixed " FROM ", .name hostile.table] ∧
    NameStands .postgres "SELECT ".toList hostile.table hostile.statement.sql.toList ∧
    (Condition.equal ⟨"a", "b"⟩ (.boolean true)).pieces .sqlite =
      [.name "a", .fixed "."] ++ .name "b" :: [.fixed " = ", .value (.boolean true)] ∧
    NameStands .sqlite "\"a\".".toList "b"
      ((Condition.equal ⟨"a", "b"⟩ (.boolean true)).statement .sqlite).sql.toList := by
  obtain ⟨hread, hinjective, hselect, hcondition⟩ := names_stay_quoted
  have hrest : ".*".toList.head? ≠ some Dialect.postgres.quote := by decide
  have hcolumns : Column.mk "a`.`b" "c" ≠ Column.mk "a" "b`.`c" := by decide
  refine ⟨hrest, (hread _ hostile.table _ hrest).1, ?_, rfl, ?_, rfl, ?_⟩
  · exact fun he => hcolumns (hinjective .mysql 0 he)
  · exact (hselect hostile [.fixed "SELECT "] _ hostile.table rfl).1
  · exact hcondition .sqlite _ [.name "a", .fixed "."] _ "b" rfl

end TermSearch
