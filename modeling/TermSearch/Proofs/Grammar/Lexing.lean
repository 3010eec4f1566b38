import Mathlib.Data.List.Chain
import TermSearch.Proofs.Grammar.Lexer
import TermSearch.Statement.Rendering

/-! The tokens of written pieces. No piece runs into the next one: either it ends by itself, as a
parenthesis does, or a blank or a mark follows it. -/

namespace TermSearch.Grammar

def Token.isPlaceholder : Token → Bool
  | .placeholder _ => true
  | _ => false

def tokens (d : Dialect) (n : Nat) : List Piece → List Token
  | [] => []
  | .fixed s :: rest => lex d s.toList ++ tokens d n rest
  | .name s :: rest => .name s :: tokens d n rest
  | .value _ :: rest => placeholderToken d (n + 1) :: tokens d (n + 1) rest

def breaks : List Char :=
  [' ', ')', ',', '.']

def BreakLed (t : List Char) : Prop :=
  ∀ c ∈ t.head?, c ∈ breaks

def Pending.isWhole : Pending → Bool
  | .name _ closing | .text _ closing => closing
  | _ => true

instance : (t : List Char) → Decidable (BreakLed t)
  | [] => .isTrue fun _ h => nomatch h
  | c :: _ => decidable_of_iff (c ∈ breaks)
    ⟨fun hc _ he => Option.some.inj he ▸ hc, fun h => h c rfl⟩

theorem isDigit_of_mem_breaks {c : Char} (h : c ∈ breaks) : c.isDigit = false := by
  have hall : breaks.all (! ·.isDigit) = true := by decide
  simpa using List.all_eq_true.1 hall c h

theorem isWordChar_of_mem_breaks {c : Char} (h : c ∈ breaks) : isWordChar c = false := by
  have hall : breaks.all (! isWordChar ·) = true := by decide
  simpa using List.all_eq_true.1 hall c h

theorem ne_of_mem_breaks {c : Char} (h : c ∈ breaks) (d : Dialect) : c ≠ '\'' ∧ c ≠ d.quote := by
  have hquote : d.quote ∉ breaks := by cases d <;> decide
  have hapostrophe : '\'' ∉ breaks := by decide
  exact ⟨fun he => hapostrophe (he ▸ h), fun he => hquote (he ▸ h)⟩

theorem stops_of_breakLed {d : Dialect} {p : Pending} {t : List Char} (hp : p.isWhole = true)
    (ht : BreakLed t) : p.Stops d t := by
  intro c hc
  have hb : c ∈ breaks := ht c hc
  obtain ⟨hapostrophe, hquote⟩ := ne_of_mem_breaks hb d
  cases p with
  | rest => rfl
  | word cs => rw [Pending.extend?, isWordChar_of_mem_breaks hb]; rfl
  | number cs => rw [Pending.extend?, isDigit_of_mem_breaks hb]; rfl
  | placeholder cs => rw [Pending.extend?, isDigit_of_mem_breaks hb]; rfl
  | name cs closing =>
    obtain rfl : closing = true := hp
    rw [Pending.extend?, extendQuoted?, if_neg hquote]
    rfl
  | text cs closing =>
    obtain rfl : closing = true := hp
    rw [Pending.extend?, extendQuoted?, if_neg hapostrophe]
    rfl

/-- Fixed text that is whole when a break follows it, and that holds no placeholder of its own. -/
structure Ends (d : Dialect) (s : String) : Prop where
  whole : (pendingAfter d .rest s.toList).isWhole = true
  plain : ∀ token ∈ lex d s.toList, token.isPlaceholder = false

structure Closes (d : Dialect) (s : String) : Prop where
  rest : pendingAfter d .rest s.toList = .rest
  plain : ∀ token ∈ lex d s.toList, token.isPlaceholder = false

instance (d : Dialect) (s : String) : Decidable (Ends d s) :=
  decidable_of_iff ((pendingAfter d .rest s.toList).isWhole = true ∧
    ∀ token ∈ lex d s.toList, token.isPlaceholder = false)
    ⟨fun h => ⟨h.1, h.2⟩, fun h => ⟨h.whole, h.plain⟩⟩

instance (d : Dialect) (s : String) : Decidable (Closes d s) :=
  decidable_of_iff (pendingAfter d .rest s.toList = .rest ∧
    ∀ token ∈ lex d s.toList, token.isPlaceholder = false)
    ⟨fun h => ⟨h.1, h.2⟩, fun h => ⟨h.rest, h.plain⟩⟩

theorem Closes.ends {d : Dialect} {s : String} (h : Closes d s) : Ends d s where
  whole := by rw [h.rest]; rfl
  plain := h.plain

def Closed (d : Dialect) : Piece → Prop
  | .fixed s => Closes d s
  | .name _ | .value _ => False

def Led : Piece → Prop
  | .fixed s => ∃ c ∈ breaks, s.toList.head? = some c
  | .name _ | .value _ => False

def Leads (ps : List Piece) : Prop :=
  ∀ p ∈ ps.head?, Led p

/-- Pieces that are read one by one where a break follows them, since none runs into the next. -/
structure Lexes (d : Dialect) (ps : List Piece) : Prop where
  apart : ps.IsChain fun p q => Closed d p ∨ Led q
  ends : ∀ s, .fixed s ∈ ps → Ends d s

section Pieces

variable {d : Dialect} {p : Piece} {ps qs : List Piece} {s : String}

theorem leads_nil : Leads [] :=
  fun _ h => nomatch h

theorem leads_fixed_of_breaks (h : ∃ c ∈ breaks, s.toList.head? = some c) (ps : List Piece) :
    Leads (.fixed s :: ps) := by
  intro p hp
  obtain rfl := Option.some.inj hp
  exact h

theorem leads_fixed {c : Char} (hs : s.toList.head? = some c) (hc : c ∈ breaks) (ps : List Piece) :
    Leads (.fixed s :: ps) :=
  leads_fixed_of_breaks ⟨c, hc, hs⟩ ps

theorem Lexes.plain (h : Lexes d ps) (s : String) (hs : .fixed s ∈ ps) :
    ∀ token ∈ lex d s.toList, token.isPlaceholder = false :=
  (h.ends s hs).plain

theorem lexes_nil : Lexes d [] :=
  ⟨.nil, fun _ h => absurd h List.not_mem_nil⟩

theorem lexes_cons_iff : Lexes d (p :: ps) ↔
    (Closed d p ∨ Leads ps) ∧ (∀ s, .fixed s = p → Ends d s) ∧ Lexes d ps := by
  have hapart : (∀ q ∈ ps.head?, Closed d p ∨ Led q) ↔ Closed d p ∨ Leads ps := by
    cases ps with
    | nil => simp [Leads]
    | cons q ps => simp [Leads]
  constructor
  · rintro ⟨hchain, hends⟩
    obtain ⟨hhead, htail⟩ := List.isChain_cons.1 hchain
    exact ⟨hapart.1 hhead, fun s hs => hends s (hs ▸ List.mem_cons_self ..), htail,
      fun s hs => hends s (List.mem_cons_of_mem _ hs)⟩
  · rintro ⟨hhead, hp, hps⟩
    refine ⟨List.isChain_cons.2 ⟨hapart.2 hhead, hps.apart⟩, fun s hs => ?_⟩
    rcases List.mem_cons.1 hs with hs | hs
    · exact hp s hs
    · exact hps.ends s hs

theorem lexes_closed (hs : Closes d s) (h : Lexes d ps) : Lexes d (.fixed s :: ps) := by
  refine lexes_cons_iff.2 ⟨.inl hs, ?_, h⟩
  rintro _ ⟨⟩
  exact hs.ends

theorem lexes_fixed (hs : Ends d s) (hl : Leads ps) (h : Lexes d ps) :
    Lexes d (.fixed s :: ps) := by
  refine lexes_cons_iff.2 ⟨.inr hl, ?_, h⟩
  rintro _ ⟨⟩
  exact hs

theorem lexes_name (s : String) (hl : Leads ps) (h : Lexes d ps) : Lexes d (.name s :: ps) :=
  lexes_cons_iff.2 ⟨.inr hl, (fun _ he => nomatch he), h⟩

theorem lexes_value (v : Value) (hl : Leads ps) (h : Lexes d ps) : Lexes d (.value v :: ps) :=
  lexes_cons_iff.2 ⟨.inr hl, (fun _ he => nomatch he), h⟩

theorem lexes_append (hp : Lexes d ps) (hl : Leads qs) (hq : Lexes d qs) : Lexes d (ps ++ qs) := by
  constructor
  · exact hp.apart.append hq.apart fun _ _ q hm => .inr (hl q hm)
  · intro s hs
    rcases List.mem_append.1 hs with hs | hs
    · exact hp.ends s hs
    · exact hq.ends s hs

theorem Lexes.of_append (h : Lexes d (ps ++ qs)) : Lexes d ps ∧ Lexes d qs := by
  obtain ⟨hp, hq, -⟩ := List.isChain_append.1 h.apart
  exact ⟨⟨hp, fun s hs => h.ends s (List.mem_append_left _ hs)⟩,
    ⟨hq, fun s hs => h.ends s (List.mem_append_right _ hs)⟩⟩

end Pieces

section Writing

variable {d : Dialect} {value : Nat → Value → List Char} {p : Piece} {ps : List Piece}

def text (d : Dialect) (value : Nat → Value → List Char) (n : Nat) : Piece → List Char
  | .fixed s => s.toList
  | .name s => Text.quoted d.quote s.toList
  | .value v => value (n + 1) v

def texts (d : Dialect) (value : Nat → Value → List Char) (n : Nat) : List Piece → List (List Char)
  | [] => []
  | p :: rest => text d value n p :: texts d value (n + (Piece.values [p]).length) rest

theorem write_eq_flatten_texts (d : Dialect) (n : Nat) (ps : List Piece) :
    Piece.write d n ps = (texts d (fun n _ => d.placeholderChars n) n ps).flatten := by
  induction ps generalizing n with
  | nil => rfl
  | cons p ps ih =>
    cases p with
    | fixed s | name s => exact congrArg _ (ih n)
    | value v => exact congrArg _ (ih (n + 1))

def WholeValues (d : Dialect) (value : Nat → Value → List Char) : Prop :=
  ∀ n v, (pendingAfter d .rest (value n v)).isWhole = true

theorem wholeValues_placeholders (d : Dialect) : WholeValues d fun n _ => d.placeholderChars n := by
  intro n _
  cases d with
  | postgres => rw [(oneToken_placeholder n).pending]; rfl
  | sqlite | mysql => rfl

theorem isWhole_text (hv : WholeValues d value) (hp : ∀ s, .fixed s = p → Ends d s) (n : Nat) :
    (pendingAfter d .rest (text d value n p)).isWhole = true := by
  cases p with
  | fixed s => exact (hp s rfl).whole
  | name s => rw [text, (oneToken_quotedName _).pending]; rfl
  | value v => exact hv (n + 1) v

theorem breakLed_texts (h : Leads ps) (n : Nat) : BreakLed (texts d value n ps).flatten := by
  cases ps with
  | nil => exact fun c hc => nomatch hc
  | cons p ps =>
    have hp : Led p := h p rfl
    cases p with
    | fixed s =>
      obtain ⟨c, hc, hs⟩ := hp
      intro e he
      rw [texts, List.flatten_cons, text, List.head?_append, hs] at he
      obtain rfl := Option.some.inj he
      exact hc
    | name | value => exact hp.elim

/-- What is found in a text is found in its parts, where no token goes from one into the other. -/
structure Splits {α : Type} (d : Dialect) (g : List Char → List α) : Prop where
  nil : g [] = []
  append : ∀ s t, (pendingAfter d .rest s).Stops d t → g (s ++ t) = g s ++ g t

theorem splits_lex (d : Dialect) : Splits d (lex d) :=
  ⟨rfl, fun _ _ => lex_append⟩

theorem Lexes.flatten_texts {α : Type} {g : List Char → List α} (h : Lexes d ps)
    (hg : Splits d g) (hv : WholeValues d value) (n : Nat) :
    g (texts d value n ps).flatten = (texts d value n ps).flatMap g := by
  induction ps generalizing n with
  | nil => exact hg.nil
  | cons p ps ih =>
    obtain ⟨hboundary, hends, hps⟩ := lexes_cons_iff.1 h
    have hstop : (pendingAfter d .rest (text d value n p)).Stops d
        (texts d value (n + (Piece.values [p]).length) ps).flatten := by
      rcases hboundary with hclosed | hl
      · cases p with
        | fixed s =>
          rw [text, hclosed.rest]
          exact fun _ _ => rfl
        | name | value => exact hclosed.elim
      · exact stops_of_breakLed (isWhole_text hv hends n) (breakLed_texts hl _)
    rw [texts, List.flatten_cons, hg.append _ _ hstop, ih hps, List.flatMap_cons]

theorem flatMap_lex_texts (d : Dialect) (n : Nat) (ps : List Piece) :
    (texts d (fun n _ => d.placeholderChars n) n ps).flatMap (lex d) = tokens d n ps := by
  induction ps generalizing n with
  | nil => rfl
  | cons p ps ih =>
    rw [texts, List.flatMap_cons, ih]
    cases p with
    | fixed s => rfl
    | name s =>
      rw [text, (oneToken_quotedName _).tokens, Pending.tokens, String.ofList_toList]
      rfl
    | value v =>
      rw [text, lex_placeholder]
      rfl

theorem Lexes.lex_write (h : Lexes d ps) (n : Nat) :
    lex d (Piece.write d n ps) = tokens d n ps := by
  rw [write_eq_flatten_texts, h.flatten_texts (splits_lex d) (wholeValues_placeholders d),
    flatMap_lex_texts]

end Writing

section Conditions

variable (d : Dialect)

theorem lexes_column (c : Column) : Lexes d c.pieces := by
  have hdot : Closes d "." := by cases d <;> decide
  exact lexes_name _ (leads_fixed rfl (by decide) _)
    (lexes_closed hdot (lexes_name _ leads_nil lexes_nil))

theorem lexes_cast (c : Column) : Lexes d (c.castPieces d) := by
  have hopen : Closes d "CAST(" := by cases d <;> decide
  have hclose : Closes d (" AS " ++ d.textType ++ ")") := by cases d <;> decide
  have hlead : Leads [.fixed (" AS " ++ d.textType ++ ")")] := by
    cases d <;> exact leads_fixed rfl (by decide) _
  exact lexes_closed hopen (lexes_append (lexes_column d c) hlead (lexes_closed hclose lexes_nil))

theorem lexes_view (v : TextView) : Lexes d (v.pieces d) := by
  cases v with
  | cast c => exact lexes_cast d c
  | stripped c =>
    have hopen : Closes d "REGEXP_REPLACE(" := by cases d <;> decide
    have hclose : Closes d ", '[^a-zA-Z0-9]', '', 'g')" := by cases d <;> decide
    have hlead : Leads [.fixed ", '[^a-zA-Z0-9]', '', 'g')"] := leads_fixed rfl (by decide) _
    exact lexes_closed hopen (lexes_append (lexes_cast d c) hlead (lexes_closed hclose lexes_nil))

theorem lexes_like (v : TextView) (pattern : String) : Lexes d (v.likePieces d pattern) := by
  have hword : Closes d (" " ++ d.likeWord ++ " ") := by cases d <;> decide
  have hlead : Leads [.fixed (" " ++ d.likeWord ++ " "), .value (.text pattern)] := by
    cases d <;> exact leads_fixed rfl (by decide) _
  exact lexes_append (lexes_view d v) hlead
    (lexes_closed hword (lexes_value _ leads_nil lexes_nil))

variable {d}

theorem lexes_joined {separator : String} {parts : List (List Piece)} (hs : Closes d separator)
    (hb : ∃ c ∈ breaks, separator.toList.head? = some c) (h : ∀ part ∈ parts, Lexes d part) :
    Lexes d (Piece.joined separator parts) := by
  induction parts with
  | nil => exact lexes_nil
  | cons p rest ih =>
    have hp : Lexes d p := h p (List.mem_cons_self ..)
    have hrest := ih fun part hm => h part (List.mem_cons_of_mem _ hm)
    cases rest with
    | nil => rwa [Piece.joined_singleton]
    | cons q rest =>
      rw [Piece.joined_cons_cons]
      exact lexes_append hp (leads_fixed_of_breaks hb _) (lexes_closed hs hrest)

theorem lexes_parenthesized {first : String} {ps : List Piece} (hf : Closes d first)
    (h : Lexes d ps) : Lexes d (.fixed first :: ps ++ [.fixed ")"]) := by
  have hclose : Closes d ")" := by cases d <;> decide
  exact lexes_closed hf (lexes_append h (leads_fixed rfl (by decide) _)
    (lexes_closed hclose lexes_nil))

theorem lexes_group {separator vacant : String} {parts : List (List Piece)}
    (hs : Closes d separator) (hb : ∃ c ∈ breaks, separator.toList.head? = some c)
    (hv : Ends d vacant) (h : ∀ part ∈ parts, Lexes d part) :
    Lexes d (Piece.group separator vacant parts) := by
  have hopen : Closes d "(" := by cases d <;> decide
  match parts with
  | [] => exact lexes_fixed hv leads_nil lexes_nil
  | [part] => exact h part (List.mem_cons_self ..)
  | _ :: _ :: _ => exact lexes_parenthesized hopen (lexes_joined hs hb h)

variable (d)

mutual

theorem lexes_condition (c : Condition) : Lexes d (c.pieces d) := by
  cases c with
  | like view pattern => exact lexes_like d view pattern
  | equal column value =>
    have heq : Closes d " = " := by cases d <;> decide
    exact lexes_append (lexes_column d column) (leads_fixed rfl (by decide) _)
      (lexes_closed heq (lexes_value value leads_nil lexes_nil))
  | all parts =>
    have hand : Closes d " AND " := by cases d <;> decide
    have hvacant : Ends d "1=1" := by cases d <;> decide
    exact lexes_group hand ⟨' ', by decide, rfl⟩ hvacant (lexes_conditions parts)
  | any parts =>
    have hor : Closes d " OR " := by cases d <;> decide
    have hvacant : Ends d "1=0" := by cases d <;> decide
    exact lexes_group hor ⟨' ', by decide, rfl⟩ hvacant (lexes_conditions parts)
  | negation part =>
    have hnot : Closes d "NOT (" := by cases d <;> decide
    exact lexes_parenthesized hnot (lexes_condition part)
  | linked link filter =>
    have hexists : Closes d "EXISTS (SELECT 1 FROM " := by cases d <;> decide
    have has : Closes d " AS " := by cases d <;> decide
    have hwhere : Closes d " WHERE " := by cases d <;> decide
    have heq : Closes d " = " := by cases d <;> decide
    have hand : Closes d " AND (" := by cases d <;> decide
    have hclose : Closes d "))" := by cases d <;> decide
    have hfilter : Lexes d (filter.pieces d ++ [.fixed "))"]) :=
      lexes_append (lexes_condition filter) (leads_fixed rfl (by decide) _)
        (lexes_closed hclose lexes_nil)
    have hkeys : Lexes d (link.innerKey.pieces ++ .fixed " = " :: link.outerKey.pieces ++
        .fixed " AND (" :: (filter.pieces d ++ [.fixed "))"])) :=
      lexes_append (lexes_append (lexes_column d _) (leads_fixed rfl (by decide) _)
        (lexes_closed heq (lexes_column d _))) (leads_fixed rfl (by decide) _)
        (lexes_closed hand hfilter)
    -- The pieces in the order in which they are read, each before all that follows it.
    have hlinked : (Condition.linked link filter).pieces d =
        .fixed "EXISTS (SELECT 1 FROM " :: .name link.table :: .fixed " AS " ::
          .name link.innerName :: .fixed " WHERE " ::
          (link.innerKey.pieces ++ .fixed " = " :: link.outerKey.pieces ++
            .fixed " AND (" :: (filter.pieces d ++ [.fixed "))"])) := by
      simp [Condition.pieces]
    rw [hlinked]
    exact lexes_closed hexists (lexes_name _ (leads_fixed rfl (by decide) _)
      (lexes_closed has (lexes_name _ (leads_fixed rfl (by decide) _)
        (lexes_closed hwhere hkeys))))

theorem lexes_conditions (cs : List Condition) :
    ∀ part ∈ Condition.piecesOfAll d cs, Lexes d part := by
  cases cs with
  | nil => exact fun _ h => absurd h List.not_mem_nil
  | cons c rest =>
    intro part hm
    rcases List.mem_cons.1 hm with rfl | hm
    · exact lexes_condition c
    · exact lexes_conditions rest part hm

end

end Conditions

end TermSearch.Grammar
