import TermSearch.Proofs.Grammar.Statements
import TermSearch.Proofs.Statement.Alike

/-! The text of a statement between its values. It is the same whether the statement is to be run or
has its values in place, and in the latter a text value is read as one token, whatever is in it. -/

namespace TermSearch

namespace Piece

def segments (d : Dialect) : List Piece → List (List Char)
  | [] => [[]]
  | .fixed s :: rest => (segments d rest).modifyHead (s.toList ++ ·)
  | .name s :: rest => (segments d rest).modifyHead (Text.quoted d.quote s.toList ++ ·)
  | .value _ :: rest => [] :: segments d rest

def filled : List (List Char) → List (List Char) → List Char
  | [], _ => []
  | s :: segments, [] => s ++ filled segments []
  | s :: segments, gap :: gaps => s ++ gap ++ filled segments gaps

theorem length_segments (d : Dialect) (ps : List Piece) :
    (segments d ps).length = (values ps).length + 1 := by
  induction ps with
  | nil => rfl
  | cons p ps ih =>
    cases p with
    | fixed s | name s => rw [segments, List.length_modifyHead, ih, values]
    | value v => rw [segments, List.length_cons, ih, values, List.length_cons]

theorem exists_segments_eq_cons (d : Dialect) (ps : List Piece) :
    ∃ s rest, segments d ps = s :: rest := by
  apply List.exists_cons_of_length_pos
  rw [length_segments]
  exact Nat.succ_pos _

theorem filled_modifyHead (u : List Char) (d : Dialect) (ps : List Piece) (gaps : List (List Char)) :
    filled ((segments d ps).modifyHead (u ++ ·)) gaps = u ++ filled (segments d ps) gaps := by
  obtain ⟨s, rest, hs⟩ := exists_segments_eq_cons d ps
  rw [hs, List.modifyHead_cons]
  cases gaps with
  | nil => simp only [filled, List.append_assoc]
  | cons gap gaps => simp only [filled, List.append_assoc]

theorem write_eq_filled (d : Dialect) (n : Nat) (ps : List Piece) :
    write d n ps =
      filled (segments d ps) ((List.range' (n + 1) (values ps).length).map d.placeholderChars) := by
  induction ps generalizing n with
  | nil => rfl
  | cons p ps ih =>
    cases p with
    | fixed s | name s => rw [write, segments, filled_modifyHead, ih, values]
    | value v =>
      rw [write, segments, ih, values, List.length_cons, List.range'_succ, List.map_cons, filled,
        List.nil_append]

theorem writeLiteral_eq_filled (d : Dialect) (ps : List Piece) :
    writeLiteral d ps = filled (segments d ps) ((values ps).map Value.literal) := by
  induction ps with
  | nil => rfl
  | cons p ps ih =>
    cases p with
    | fixed s | name s => rw [writeLiteral, segments, filled_modifyHead, ih, values]
    | value v => rw [writeLiteral, segments, ih, values, List.map_cons, filled, List.nil_append]

theorem segments_append_value (d : Dialect) (ps qs : List Piece) (v : Value) :
    segments d (ps ++ .value v :: qs) = segments d ps ++ segments d qs := by
  have hhead (f : List Char → List Char) (rs : List Piece) :
      (segments d rs ++ segments d qs).modifyHead f =
        (segments d rs).modifyHead f ++ segments d qs := by
    obtain ⟨s, rest, hs⟩ := exists_segments_eq_cons d rs
    rw [hs]
    rfl
  induction ps with
  | nil => rfl
  | cons p ps ih =>
    cases p with
    | fixed s | name s => rw [List.cons_append, segments, segments, ih, hhead]
    | value w => rw [List.cons_append, segments, segments, ih, List.cons_append]

theorem exists_of_values_eq_append {ps : List Piece} {before after : List Value} {v : Value}
    (h : values ps = before ++ v :: after) :
    ∃ qs rs, ps = qs ++ .value v :: rs ∧ values qs = before ∧ values rs = after := by
  induction ps generalizing before with
  | nil => exact absurd h.symm (List.append_ne_nil_of_right_ne_nil _ (List.cons_ne_nil _ _))
  | cons p ps ih =>
    cases p with
    | fixed s | name s =>
      obtain ⟨qs, rs, rfl, hq, hr⟩ := ih h
      exact ⟨_ :: qs, rs, rfl, hq, hr⟩
    | value w =>
      cases before with
      | nil =>
        obtain ⟨rfl, hrest⟩ := List.cons.inj h
        exact ⟨[], ps, rfl, rfl, hrest⟩
      | cons b before =>
        obtain ⟨rfl, hrest⟩ := List.cons.inj h
        obtain ⟨qs, rs, rfl, rfl, hr⟩ := ih hrest
        exact ⟨.value w :: qs, rs, rfl, rfl, hr⟩

theorem segments_eq_of_alike {R : Value → Value → Prop} {ps ps' : List Piece}
    (h : List.Forall₂ (Alike R) ps ps') (d : Dialect) : segments d ps = segments d ps' := by
  induction h with
  | nil => rfl
  | cons hp _ ih =>
    cases hp with
    | fixed s | name s => rw [segments, segments, ih]
    | value => rw [segments, segments, ih]

end Piece

namespace Grammar

section Literals

variable {d : Dialect}

def isNumberChar (c : Char) : Bool :=
  c.isAlphanum || c == '-' || c == '.'

def Unquoted (s : List Char) : Prop :=
  ∀ c ∈ s, isNumberChar c = true

theorem unquoted_numeral (n : Nat) : Unquoted (Text.numeral n) := by
  intro c hc
  have hdigit : c.isDigit = true := isDigit_of_mem_numeral hc
  rw [isNumberChar, Char.isAlphanum, hdigit, Bool.or_true]
  rfl

theorem unquoted_append {s t : List Char} (hs : Unquoted s) (ht : Unquoted t) :
    Unquoted (s ++ t) :=
  List.forall_mem_append.2 ⟨hs, ht⟩

theorem unquoted_zeros (n : Nat) : Unquoted (List.replicate n '0') := by
  intro c hc
  obtain rfl := List.eq_of_mem_replicate hc
  rfl

theorem unquoted_negated {s : List Char} (h : Unquoted s) : Unquoted ('-' :: s) :=
  List.forall_mem_cons.2 ⟨rfl, h⟩

theorem unquoted_withPoint {ds : List Char} (h : Unquoted ds) (p : Int) :
    Unquoted (Decimal.withPoint [] ds p) := by
  have hpoint {s : List Char} (hs : Unquoted s) : Unquoted ('.' :: s) :=
    List.forall_mem_cons.2 ⟨rfl, hs⟩
  rw [Decimal.withPoint]
  split
  · exact List.forall_mem_cons.2 ⟨rfl, hpoint (unquoted_append (unquoted_zeros _) h)⟩
  · split
    · rw [List.append_nil]
      exact unquoted_append h (unquoted_zeros _)
    · exact unquoted_append (fun c hc => h c (List.mem_of_mem_take hc))
        (hpoint fun c hc => h c (List.mem_of_mem_drop hc))

theorem unquoted_real (x : Decimal.Binary64) : Unquoted (x.write .literal) := by
  have hsigned (negative : Bool) {s : List Char} (h : Unquoted s) :
      Unquoted (if negative then '-' :: s else s) := by
    cases negative with
    | false => exact h
    | true => exact unquoted_negated h
  simp only [Decimal.Binary64.write]
  split
  · exact List.all_eq_true.1 (by decide)
  · exact hsigned _ (List.all_eq_true.1 (by decide))
  · exact hsigned _ (List.all_eq_true.1 (by decide))
  · exact hsigned _ (unquoted_withPoint (unquoted_numeral _) _)

theorem ne_quotes_of_isNumberChar {c : Char} (h : isNumberChar c = true) :
    c ≠ '\'' ∧ c ≠ d.quote := by
  constructor
  · rintro rfl
    exact absurd h (by decide)
  · rintro rfl
    cases d <;> exact absurd h (by decide)

theorem isWhole_start {c : Char} (hapostrophe : c ≠ '\'') (hquote : c ≠ d.quote) :
    (start d c).2.isWhole = true := by
  unfold start
  split_ifs <;> rfl

theorem isWhole_pendingAfter_of_unquoted {p : Pending} (hp : p.isWhole = true) {s : List Char}
    (hs : Unquoted s) : (pendingAfter d p s).isWhole = true := by
  induction s generalizing p with
  | nil => exact hp
  | cons c s ih =>
    obtain ⟨hc, hrest⟩ := List.forall_mem_cons.1 hs
    obtain ⟨hapostrophe, hquote⟩ := ne_quotes_of_isNumberChar (d := d) hc
    have hstart : (start d c).2.isWhole = true := isWhole_start hapostrophe hquote
    refine ih ?_ hrest
    cases p with
    | rest => exact hstart
    | word | number | placeholder =>
      rw [Pending.extend?]
      split
      · rfl
      · exact hstart
    | name cs closing =>
      obtain rfl : closing = true := hp
      rw [Pending.extend?, extendQuoted?, if_neg hquote]
      exact hstart
    | text cs closing =>
      obtain rfl : closing = true := hp
      rw [Pending.extend?, extendQuoted?, if_neg hapostrophe]
      exact hstart

theorem isWhole_literal (d : Dialect) (v : Value) :
    (pendingAfter d .rest v.literal).isWhole = true := by
  cases v with
  | text s =>
    have hs : (pendingAfter d .rest (Value.text s).literal) = .text s.toList true :=
      (oneToken_quotedText s.toList).pending
    rw [hs]
    rfl
  | integer n =>
    have hn : (Value.integer n).literal = Text.signedNumeral n.toInt := rfl
    rw [hn, Text.signedNumeral]
    split
    · exact isWhole_pendingAfter_of_unquoted rfl (unquoted_negated (unquoted_numeral _))
    · exact isWhole_pendingAfter_of_unquoted rfl (unquoted_numeral _)
  | real x => exact isWhole_pendingAfter_of_unquoted rfl (unquoted_real x)
  | boolean b => cases b <;> cases d <;> decide

theorem wholeValues_literals (d : Dialect) : WholeValues d fun _ v => v.literal :=
  fun _ v => isWhole_literal d v

end Literals

section Texts

variable {d : Dialect} {ps qs : List Piece}

theorem writeLiteral_eq_flatten_texts (d : Dialect) (n : Nat) (ps : List Piece) :
    Piece.writeLiteral d ps = (texts d (fun _ v => v.literal) n ps).flatten := by
  induction ps generalizing n with
  | nil => rfl
  | cons p ps ih =>
    cases p with
    | fixed s | name s => exact congrArg _ (ih n)
    | value v => exact congrArg _ (ih (n + 1))

theorem texts_append (d : Dialect) (value : Nat → Value → List Char) (n : Nat)
    (ps qs : List Piece) :
    texts d value n (ps ++ qs) =
      texts d value n ps ++ texts d value (n + (Piece.values ps).length) qs := by
  induction ps generalizing n with
  | nil => rfl
  | cons p ps ih =>
    have hn : (Piece.values (p :: ps)).length =
        (Piece.values [p]).length + (Piece.values ps).length := by
      rw [← List.length_append, ← Piece.values_append]
      rfl
    rw [List.cons_append, texts, texts, ih, hn, List.cons_append, Nat.add_assoc]

theorem lex_writeLiteral_text {x : String} (h : Lexes d (ps ++ .value (.text x) :: qs)) :
    lex d (Piece.writeLiteral d (ps ++ .value (.text x) :: qs)) =
      lex d (Piece.writeLiteral d ps) ++ .text x :: lex d (Piece.writeLiteral d qs) := by
  obtain ⟨hps, hrest⟩ := h.of_append
  obtain ⟨-, -, hqs⟩ := lexes_cons_iff.1 hrest
  have hlex {rs : List Piece} (hrs : Lexes d rs) (n : Nat) : lex d (Piece.writeLiteral d rs) =
      (texts d (fun _ v => v.literal) n rs).flatMap (lex d) := by
    rw [writeLiteral_eq_flatten_texts d n, hrs.flatten_texts (splits_lex d) (wholeValues_literals d)]
  -- The literal is a token by itself, so that what follows it is read afresh.
  have htext : lex d (Value.text x).literal = [.text x] := by
    refine (oneToken_quotedText x.toList).tokens.trans ?_
    rw [Pending.tokens, String.ofList_toList]
  rw [hlex h 0, hlex hps 0, hlex hqs, texts_append, List.flatMap_append, texts, List.flatMap_cons,
    text, htext]
  rfl

end Texts

end Grammar

open Grammar

namespace Select

def segments (q : Select) : List (List Char) :=
  Piece.segments q.dialect q.pieces

theorem segments_eq_of_alike {R : Value → Value → Prop} {q q' : Select} (h : q.Alike R q') :
    q.segments = q'.segments := by
  rw [segments, segments, Piece.segments_eq_of_alike (pieces_alike h), h.dialect]

end Select

/-- The statement that is run and the one that is shown fill the same segments, one with placeholders
and one with literals. The literal of a text is one token, which is the text; the segments are those
of every query that differs in its values alone. -/
theorem statement_skeleton (q : Select) :
    q.segments.length = q.statement.values.length + 1 ∧
    q.statement.sql = String.ofList (Piece.filled q.segments
      ((List.range' 1 q.statement.values.length).map q.dialect.placeholderChars)) ∧
    q.literalText =
      String.ofList (Piece.filled q.segments (q.statement.values.map Value.literal)) ∧
    (∀ before x after, q.statement.values = before ++ .text x :: after →
      ∃ first last, q.segments = first ++ last ∧ first.length = before.length + 1 ∧
        q.literalText.toList =
          Piece.filled first (before.map Value.literal) ++ Text.quoted '\'' x.toList ++
            Piece.filled last (after.map Value.literal) ∧
        lex q.dialect q.literalText.toList =
          lex q.dialect (Piece.filled first (before.map Value.literal)) ++ .text x ::
            lex q.dialect (Piece.filled last (after.map Value.literal))) ∧
    ∀ (R : Value → Value → Prop) (q' : Select), q.Alike R q' → q'.segments = q.segments := by
  refine ⟨Piece.length_segments q.dialect q.pieces, ?_, ?_, ?_,
    fun R q' h => (Select.segments_eq_of_alike h).symm⟩
  · exact congrArg String.ofList (Piece.write_eq_filled q.dialect 0 q.pieces)
  · exact congrArg String.ofList (Piece.writeLiteral_eq_filled q.dialect q.pieces)
  · intro before x after h
    obtain ⟨ps, qs, hp, rfl, rfl⟩ := Piece.exists_of_values_eq_append h
    have hlexes : Lexes q.dialect (ps ++ .value (.text x) :: qs) := hp ▸ lexes_select q
    refine ⟨Piece.segments q.dialect ps, Piece.segments q.dialect qs, ?_,
      Piece.length_segments q.dialect ps, ?_, ?_⟩
    · rw [Select.segments, hp, Piece.segments_append_value]
    · rw [Select.literalText, String.toList_ofList, hp, Piece.writeLiteral_append,
        Piece.writeLiteral, ← Piece.writeLiteral_eq_filled, ← Piece.writeLiteral_eq_filled,
        List.append_assoc]
      rfl
    · rw [Select.literalText, String.toList_ofList, hp, lex_writeLiteral_text hlexes,
        Piece.writeLiteral_eq_filled, Piece.writeLiteral_eq_filled]

end TermSearch
