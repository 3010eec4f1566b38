import TermSearch.Statement.Dialect
import TermSearch.Statement.Value

/-! The tokens of a statement. A character either belongs to the token that is being read, or ends
it and begins the next one. -/

namespace TermSearch.Grammar

inductive Keyword where
  | AND | OR | NOT | EXISTS | SELECT | FROM | WHERE | AS | CAST | ORDER | LIMIT
deriving DecidableEq

def Keyword.ofChars? : List Char → Option Keyword
  | ['A', 'N', 'D'] => some .AND
  | ['O', 'R'] => some .OR
  | ['N', 'O', 'T'] => some .NOT
  | ['E', 'X', 'I', 'S', 'T', 'S'] => some .EXISTS
  | ['S', 'E', 'L', 'E', 'C', 'T'] => some .SELECT
  | ['F', 'R', 'O', 'M'] => some .FROM
  | ['W', 'H', 'E', 'R', 'E'] => some .WHERE
  | ['A', 'S'] => some .AS
  | ['C', 'A', 'S', 'T'] => some .CAST
  | ['O', 'R', 'D', 'E', 'R'] => some .ORDER
  | ['L', 'I', 'M', 'I', 'T'] => some .LIMIT
  | _ => none

inductive Token where
  | keyword (k : Keyword)
  | word (s : String)
  | number (n : Nat)
  | name (s : String)
  | text (s : String)
  | placeholder (n : Option Nat)
  | value (v : Value)
  | mark (c : Char)
  | unclosed
deriving DecidableEq

/-- The token being read. Between quotes, `closing` says that the last character was a quote, which
either ends the token or is the first of two. -/
inductive Pending where
  | rest
  | word (cs : List Char)
  | number (cs : List Char)
  | placeholder (cs : List Char)
  | name (cs : List Char) (closing : Bool)
  | text (cs : List Char) (closing : Bool)
deriving DecidableEq

def isWordChar (c : Char) : Bool :=
  c.isAlphanum || c == '_'

def extendQuoted? (quote : Char) (cs : List Char) (closing : Bool) (c : Char) :
    Option (List Char × Bool) :=
  if c = quote then (if closing then some (cs ++ [c], false) else some (cs, true))
  else (if closing then none else some (cs ++ [c], false))

namespace Pending

def extend? (d : Dialect) : Pending → Char → Option Pending
  | .rest, _ => none
  | .word cs, c => if isWordChar c then some (.word (cs ++ [c])) else none
  | .number cs, c => if c.isDigit then some (.number (cs ++ [c])) else none
  | .placeholder cs, c => if c.isDigit then some (.placeholder (cs ++ [c])) else none
  | .name cs closing, c => (extendQuoted? d.quote cs closing c).map fun q => .name q.1 q.2
  | .text cs closing, c => (extendQuoted? '\'' cs closing c).map fun q => .text q.1 q.2

def tokens : Pending → List Token
  | .rest => []
  | .word cs => [((Keyword.ofChars? cs).map Token.keyword).getD (.word (String.ofList cs))]
  | .number cs => [.number (Text.numeralValue cs)]
  | .placeholder cs => [.placeholder (some (Text.numeralValue cs))]
  | .name cs true => [.name (String.ofList cs)]
  | .text cs true => [.text (String.ofList cs)]
  | .name _ false | .text _ false => [.unclosed]

end Pending

def start (d : Dialect) (c : Char) : List Token × Pending :=
  if c.isWhitespace then ([], .rest)
  else if c = d.quote then ([], .name [] false)
  else if c = '\'' then ([], .text [] false)
  else if c.isDigit then ([], .number [c])
  else if isWordChar c then ([], .word [c])
  else if c = '$' ∧ d = .postgres then ([], .placeholder [])
  else if c = '?' ∧ d ≠ .postgres then ([.placeholder none], .rest)
  else ([.mark c], .rest)

def lexFrom (d : Dialect) : Pending → List Char → List Token
  | p, [] => p.tokens
  | p, c :: rest =>
    match p.extend? d c with
    | some q => lexFrom d q rest
    | none => p.tokens ++ ((start d c).1 ++ lexFrom d (start d c).2 rest)

def pendingAfter (d : Dialect) : Pending → List Char → Pending
  | p, [] => p
  | p, c :: rest => pendingAfter d ((p.extend? d c).getD (start d c).2) rest

def lex (d : Dialect) (s : List Char) : List Token :=
  lexFrom d .rest s

section Appending

variable {d : Dialect} {p q : Pending} {s t : List Char}

theorem lexFrom_rest_cons (d : Dialect) (c : Char) (t : List Char) :
    lexFrom d .rest (c :: t) = (start d c).1 ++ lexFrom d (start d c).2 t := rfl

def Pending.Stops (d : Dialect) (p : Pending) (t : List Char) : Prop :=
  ∀ c ∈ t.head?, p.extend? d c = none

theorem lexFrom_of_stops (h : p.Stops d t) : lexFrom d p t = p.tokens ++ lex d t := by
  cases t with
  | nil => exact (List.append_nil _).symm
  | cons c t =>
    have hc : p.extend? d c = none := h c rfl
    rw [lexFrom, hc, lex, lexFrom_rest_cons]

theorem lexFrom_append (h : (pendingAfter d p s).Stops d t) :
    lexFrom d p (s ++ t) = lexFrom d p s ++ lex d t := by
  induction s generalizing p with
  | nil => exact lexFrom_of_stops h
  | cons c s ih =>
    rw [pendingAfter] at h
    rw [List.cons_append, lexFrom, lexFrom]
    cases he : p.extend? d c with
    | some q =>
      rw [he, Option.getD_some] at h
      exact ih h
    | none =>
      rw [he, Option.getD_none] at h
      simp only [ih h, List.append_assoc]

theorem lex_append (h : (pendingAfter d .rest s).Stops d t) : lex d (s ++ t) = lex d s ++ lex d t :=
  lexFrom_append h

inductive Extends (d : Dialect) : Pending → List Char → Pending → Prop where
  | nil (p : Pending) : Extends d p [] p
  | cons {p q r : Pending} {c : Char} {s : List Char} (hc : p.extend? d c = some q)
      (hs : Extends d q s r) : Extends d p (c :: s) r

theorem lexFrom_of_extends (h : Extends d p s q) (t : List Char) :
    lexFrom d p (s ++ t) = lexFrom d q t := by
  induction h with
  | nil => rfl
  | cons hc _ ih =>
    rw [List.cons_append, lexFrom, hc]
    exact ih

theorem pendingAfter_of_extends (h : Extends d p s q) : pendingAfter d p s = q := by
  induction h with
  | nil => rfl
  | cons hc _ ih => rw [pendingAfter, hc, Option.getD_some, ih]

theorem pendingAfter_append (d : Dialect) (p : Pending) (s t : List Char) :
    pendingAfter d p (s ++ t) = pendingAfter d (pendingAfter d p s) t := by
  induction s generalizing p with
  | nil => rfl
  | cons c s ih =>
    rw [List.cons_append, pendingAfter, pendingAfter]
    exact ih _

end Appending

section Digits

variable {d : Dialect} {f : List Char → Pending}

theorem isDigit_digitChar {n : Nat} (h : n < 10) : (Text.digitChar n).isDigit = true := by
  match n, h with
  | 0, _ | 1, _ | 2, _ | 3, _ | 4, _ | 5, _ | 6, _ | 7, _ | 8, _ | 9, _ => rfl

theorem numeral_ne_nil (n : Nat) : Text.numeral n ≠ [] := by
  rw [Text.numeral]
  split
  · exact List.cons_ne_nil _ _
  · exact List.append_ne_nil_of_right_ne_nil _ (List.cons_ne_nil _ _)

theorem exists_digit_of_mem_numeral {n : Nat} {c : Char} (h : c ∈ Text.numeral n) :
    ∃ k, k < 10 ∧ c = Text.digitChar k := by
  induction n using Nat.strongRecOn with
  | ind n ih =>
    rw [Text.numeral] at h
    split at h
    next hn => exact ⟨n, hn, List.mem_singleton.1 h⟩
    next hn =>
      rcases List.mem_append.1 h with h | h
      · exact ih (n / 10) (by omega) h
      · exact ⟨n % 10, by omega, List.mem_singleton.1 h⟩

theorem isDigit_of_mem_numeral {n : Nat} {c : Char} (h : c ∈ Text.numeral n) :
    c.isDigit = true := by
  obtain ⟨k, hk, rfl⟩ := exists_digit_of_mem_numeral h
  exact isDigit_digitChar hk

theorem extends_digits
    (hf : ∀ cs c, (f cs).extend? d c = if c.isDigit then some (f (cs ++ [c])) else none)
    {ds : List Char} (h : ∀ c ∈ ds, c.isDigit = true) (cs : List Char) :
    Extends d (f cs) ds (f (cs ++ ds)) := by
  induction ds generalizing cs with
  | nil =>
    rw [List.append_nil]
    exact .nil _
  | cons c ds ih =>
    have hc : (f cs).extend? d c = some (f (cs ++ [c])) := by
      rw [hf, if_pos (h c (List.mem_cons_self ..))]
    have hds := ih (fun e he => h e (List.mem_cons_of_mem _ he)) (cs ++ [c])
    rw [List.append_assoc] at hds
    exact .cons hc hds

end Digits

section Quotes

variable {d : Dialect} {quote : Char} {f : List Char → Bool → Pending}

theorem extends_doubled
    (hf : ∀ cs b c, (f cs b).extend? d c = (extendQuoted? quote cs b c).map fun q => f q.1 q.2)
    (s cs : List Char) :
    Extends d (f cs false) (Text.doubled quote s ++ [quote]) (f (cs ++ s) true) := by
  induction s generalizing cs with
  | nil =>
    have hq : (f cs false).extend? d quote = some (f cs true) := by simp [hf, extendQuoted?]
    rw [List.append_nil]
    exact .cons hq (.nil _)
  | cons c s ih =>
    have hs := ih (cs ++ [c])
    rw [List.append_assoc] at hs
    by_cases hc : c = quote
    -- The first of two quotes seems to close the token, and the second one opens it again.
    · have hq : (f cs false).extend? d c = some (f cs true) := by simp [hf, extendQuoted?, hc]
      have hqq : (f cs true).extend? d c = some (f (cs ++ [c]) false) := by
        simp [hf, extendQuoted?, hc]
      rw [← hc] at hs ⊢
      rw [Text.doubled_cons_self]
      exact .cons hq (.cons hqq hs)
    · have hq : (f cs false).extend? d c = some (f (cs ++ [c]) false) := by
        simp [hf, extendQuoted?, hc]
      rw [Text.doubled_cons_of_ne hc]
      exact .cons hq hs

end Quotes

section Tokens

variable {d : Dialect}

structure OneToken (d : Dialect) (s : List Char) (q : Pending) : Prop where
  tokens : lex d s = q.tokens
  pending : pendingAfter d .rest s = q

theorem oneToken_cons {c : Char} {p q : Pending} {s : List Char} (hc : start d c = ([], p))
    (hs : Extends d p s q) : OneToken d (c :: s) q := by
  constructor
  · have hq := lexFrom_of_extends hs []
    rw [List.append_nil] at hq
    rw [lex, lexFrom_rest_cons, hc, hq]
    rfl
  · rw [pendingAfter, Pending.extend?, Option.getD_none, hc]
    exact pendingAfter_of_extends hs

theorem oneToken_quotedName (s : List Char) : OneToken d (Text.quoted d.quote s) (.name s true) := by
  have hq : start d d.quote = ([], .name [] false) := by cases d <;> rfl
  exact oneToken_cons hq (extends_doubled (fun _ _ _ => rfl) s [])

theorem oneToken_quotedText (s : List Char) : OneToken d (Text.quoted '\'' s) (.text s true) := by
  have hq : start d '\'' = ([], .text [] false) := by cases d <;> rfl
  exact oneToken_cons hq (extends_doubled (fun _ _ _ => rfl) s [])

theorem start_digitChar {k : Nat} (h : k < 10) :
    start d (Text.digitChar k) = ([], .number [Text.digitChar k]) := by
  match k, h with
  | 0, _ | 1, _ | 2, _ | 3, _ | 4, _ | 5, _ | 6, _ | 7, _ | 8, _ | 9, _ => cases d <;> rfl

theorem oneToken_numeral (n : Nat) : OneToken d (Text.numeral n) (.number (Text.numeral n)) := by
  have hdigit : ∀ e ∈ Text.numeral n, e.isDigit = true := fun _ => isDigit_of_mem_numeral
  obtain ⟨c, ds, hn⟩ := List.exists_cons_of_ne_nil (numeral_ne_nil n)
  have hmem : c ∈ Text.numeral n := hn ▸ List.mem_cons_self ..
  obtain ⟨k, hk, rfl⟩ := exists_digit_of_mem_numeral hmem
  rw [hn] at hdigit ⊢
  exact oneToken_cons (start_digitChar hk) (extends_digits (f := .number) (fun _ _ => rfl)
    (fun e he => hdigit e (List.mem_cons_of_mem _ he)) [_])

theorem lex_numeral (n : Nat) : lex d (Text.numeral n) = [.number n] := by
  rw [(oneToken_numeral n).tokens, Pending.tokens, Text.numeralValue_numeral]

def placeholderToken (d : Dialect) (n : Nat) : Token :=
  match d with
  | .postgres => .placeholder (some n)
  | .sqlite | .mysql => .placeholder none

theorem oneToken_placeholder (n : Nat) :
    OneToken .postgres (Dialect.postgres.placeholderChars n) (.placeholder (Text.numeral n)) :=
  oneToken_cons rfl (extends_digits (f := .placeholder) (fun _ _ => rfl)
    (fun _ => isDigit_of_mem_numeral) [])

theorem lex_placeholder (n : Nat) : lex d (d.placeholderChars n) = [placeholderToken d n] := by
  cases d with
  | postgres =>
    rw [(oneToken_placeholder n).tokens, Pending.tokens, Text.numeralValue_numeral]
    rfl
  | sqlite | mysql => rfl

end Tokens

end TermSearch.Grammar
