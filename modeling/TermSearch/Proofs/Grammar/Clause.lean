import TermSearch.Proofs.Grammar.Lexer
import TermSearch.Statement.Condition

/-! The grammar of conditions. NOT binds tighter than AND, and AND tighter than OR; parentheses stand
around whole disjunctions. -/

namespace TermSearch.Grammar

inductive Clause where
  | like (view : TextView) (pattern : Value)
  | equal (column : Column) (value : Value)
  | columns (a b : Column)
  | numbers (m n : Nat)
  | all (parts : List Clause)
  | any (parts : List Clause)
  | negation (part : Clause)
  | linked (link : Link) (filter : Clause)

namespace Clause

def allOf : List Clause → Clause
  | [c] => c
  | cs => .all cs

def anyOf : List Clause → Clause
  | [c] => c
  | cs => .any cs

end Clause

def columnTokens (c : Column) : List Token :=
  [.name c.table, .mark '.', .name c.name]

def castTokens (d : Dialect) (c : Column) : List Token :=
  .keyword .CAST :: .mark '(' :: columnTokens c ++ [.keyword .AS, .word d.textType, .mark ')']

def viewTokens (d : Dialect) : TextView → List Token
  | .cast c => castTokens d c
  | .stripped c =>
    .word "REGEXP_REPLACE" :: .mark '(' :: castTokens d c ++
      [.mark ',', .text "[^a-zA-Z0-9]", .mark ',', .text "", .mark ',', .text "g", .mark ')']

def linkTokens (table innerName : String) : List Token :=
  [.keyword .EXISTS, .mark '(', .keyword .SELECT, .number 1, .keyword .FROM, .name table, .keyword .AS,
    .name innerName, .keyword .WHERE]

inductive Atom (d : Dialect) : List Token → Clause → Prop where
  | like (view : TextView) (pattern : Value) :
    Atom d (viewTokens d view ++ [.word d.likeWord, .value pattern]) (.like view pattern)
  | equal (column : Column) (value : Value) :
    Atom d (columnTokens column ++ [.mark '=', .value value]) (.equal column value)
  | columns (a b : Column) : Atom d (columnTokens a ++ .mark '=' :: columnTokens b) (.columns a b)
  | numbers (m n : Nat) : Atom d [.number m, .mark '=', .number n] (.numbers m n)

inductive Rank where
  | operand
  | conjunction
  | disjunction

/-- The tokens of each rank, with the parts that they stand for: an operand stands for one clause, a
conjunction and a disjunction for their operands in order. -/
inductive Derives (d : Dialect) : Rank → List Token → List Clause → Prop where
  | atom {ts : List Token} {c : Clause} (h : Atom d ts c) : Derives d .operand ts [c]
  | negation {ts : List Token} {c : Clause} (h : Derives d .operand ts [c]) :
    Derives d .operand (.keyword .NOT :: ts) [.negation c]
  | group {ts : List Token} {cs : List Clause} (h : Derives d .disjunction ts cs) :
    Derives d .operand (.mark '(' :: ts ++ [.mark ')']) [.anyOf cs]
  | linked {ts : List Token} {filter : Clause} (link : Link)
    (h : Derives d .disjunction ts [.all [.columns link.innerKey link.outerKey, filter]]) :
    Derives d .operand (linkTokens link.table link.innerName ++ ts ++ [.mark ')'])
      [.linked link filter]
  | conjunct {ts : List Token} {c : Clause} (h : Derives d .operand ts [c]) :
    Derives d .conjunction ts [c]
  | and {ts us : List Token} {c : Clause} {cs : List Clause} (h : Derives d .operand ts [c])
    (hs : Derives d .conjunction us cs) :
    Derives d .conjunction (ts ++ .keyword .AND :: us) (c :: cs)
  | disjunct {ts : List Token} {cs : List Clause} (h : Derives d .conjunction ts cs) :
    Derives d .disjunction ts [.allOf cs]
  | or {ts us : List Token} {cs ds : List Clause} (h : Derives d .conjunction ts cs)
    (hs : Derives d .disjunction us ds) :
    Derives d .disjunction (ts ++ .keyword .OR :: us) (.allOf cs :: ds)

def Reads (d : Dialect) (ts : List Token) (c : Clause) : Prop :=
  ∃ cs, Derives d .disjunction ts cs ∧ c = .anyOf cs

end TermSearch.Grammar
