import TermSearch.Proofs.Grammar.Clause

/-! A parser for conditions that goes through the tokens once and keeps what is open on a stack. It
finds every reading that the grammar has, so that the grammar has at most one. -/

namespace TermSearch.Grammar

/-- One depth of parentheses: the disjuncts that are complete, the operands of the last one so far,
and the negations of the operand that comes next. -/
structure Level where
  alternatives : List Clause := []
  conjuncts : List Clause := []
  negations : Nat := 0

inductive Opening where
  | group
  | subquery (table innerName : String)

/-- What the parser waits for. `seen` are the tokens so far of an atom, or of a subquery before its
condition. -/
inductive State where
  | operand (stack : List (Opening × Level)) (level : Level) (seen : List Token)
  | operator (stack : List (Opening × Level)) (level : Level)

def Clause.negated : Nat → Clause → Clause
  | 0, c => c
  | n + 1, c => negated n (.negation c)

namespace Level

def add (l : Level) (c : Clause) : Level :=
  ⟨l.alternatives, l.conjuncts ++ [c.negated l.negations], 0⟩

def disjuncts (l : Level) : List Clause :=
  l.alternatives ++ [.allOf l.conjuncts]

end Level

def Opening.close? : Opening → Clause → Option Clause
  | .group, c => some c
  | .subquery table innerName, .all [.columns innerKey outerKey, filter] =>
    some (.linked ⟨table, innerName, innerKey, outerKey⟩ filter)
  | .subquery .., _ => none

def subquery? : List Token → Option (String × String)
  | [.keyword .EXISTS, .mark '(', .keyword .SELECT, .number 1, .keyword .FROM, .name table, .keyword .AS,
      .name innerName, .keyword .WHERE] => some (table, innerName)
  | _ => none

def atom? (d : Dialect) : List Token → Option Clause
  | [.number m, .mark '=', .number n] => some (.numbers m n)
  | [.name t, .mark '.', .name c, .mark '=', .value v] => some (.equal ⟨t, c⟩ v)
  | [.name t, .mark '.', .name c, .mark '=', .name u, .mark '.', .name e] =>
    some (.columns ⟨t, c⟩ ⟨u, e⟩)
  | [.keyword .CAST, .mark '(', .name t, .mark '.', .name c, .keyword .AS, .word type, .mark ')',
      .word word, .value v] =>
    if type = d.textType ∧ word = d.likeWord then some (.like (.cast ⟨t, c⟩) v) else none
  | [.word function, .mark '(', .keyword .CAST, .mark '(', .name t, .mark '.', .name c,
      .keyword .AS, .word type, .mark ')', .mark ',', .text set, .mark ',', .text new, .mark ',',
      .text flags, .mark ')', .word word, .value v] =>
    if function = "REGEXP_REPLACE" ∧ type = d.textType ∧ set = "[^a-zA-Z0-9]" ∧ new = "" ∧
        flags = "g" ∧ word = d.likeWord then
      some (.like (.stripped ⟨t, c⟩) v)
    else none
  | _ => none

namespace State

def collect (d : Dialect) (stack : List (Opening × Level)) (level : Level) (seen : List Token) :
    State :=
  match subquery? seen with
  | some names => .operand ((.subquery names.1 names.2, level) :: stack) {} []
  | none =>
    match atom? d seen with
    | some c => .operator stack (level.add c)
    | none => .operand stack level seen

def step (d : Dialect) : State → Token → Option State
  | .operand stack level [], .mark '(' => some (.operand ((.group, level) :: stack) {} [])
  | .operand stack level [], .keyword .NOT =>
    some (.operand stack { level with negations := level.negations + 1 } [])
  | .operand stack level seen, token => some (collect d stack level (seen ++ [token]))
  | .operator stack level, .keyword .AND => some (.operand stack level [])
  | .operator stack level, .keyword .OR => some (.operand stack ⟨level.disjuncts, [], 0⟩ [])
  | .operator ((opening, outer) :: stack) level, .mark ')' =>
    (opening.close? (.anyOf level.disjuncts)).map fun c => .operator stack (outer.add c)
  | .operator .., _ => none

def clause? : State → Option Clause
  | .operator [] level => some (.anyOf level.disjuncts)
  | _ => none

end State

def parse? (d : Dialect) (ts : List Token) : Option Clause :=
  (ts.foldlM (State.step d) (.operand [] {} [])).bind State.clause?

section Completeness

variable {d : Dialect}

theorem foldlM_append_of_eq {s s' : State} {ts us : List Token}
    (h : ts.foldlM (State.step d) s = some s') :
    (ts ++ us).foldlM (State.step d) s = us.foldlM (State.step d) s' := by
  rw [List.foldlM_append, h]
  rfl

theorem foldlM_viewTokens (view : TextView) (stack : List (Opening × Level)) (level : Level) :
    (viewTokens d view).foldlM (State.step d) (.operand stack level []) =
      some (.operand stack level (viewTokens d view)) := by
  cases view with
  | cast c => rfl
  | stripped c =>
    -- The cast inside is collected first; to evaluate all at once is far slower.
    have hcast : (.word "REGEXP_REPLACE" :: .mark '(' :: castTokens d c).foldlM (State.step d)
        (.operand stack level []) =
        some (.operand stack level (.word "REGEXP_REPLACE" :: .mark '(' :: castTokens d c)) := rfl
    rw [viewTokens, foldlM_append_of_eq hcast]
    rfl

theorem foldlM_atom {ts : List Token} {c : Clause} (h : Atom d ts c)
    (stack : List (Opening × Level)) (level : Level) :
    ts.foldlM (State.step d) (.operand stack level []) = some (.operator stack (level.add c)) := by
  cases h with
  | like view pattern =>
    rw [foldlM_append_of_eq (foldlM_viewTokens view stack level)]
    cases view <;> cases d <;> rfl
  | equal column value => rfl
  | columns a b => rfl
  | numbers m n => rfl

theorem foldlM_linkTokens (table innerName : String) (stack : List (Opening × Level))
    (level : Level) :
    (linkTokens table innerName).foldlM (State.step d) (.operand stack level []) =
      some (.operand ((.subquery table innerName, level) :: stack) {} []) := rfl

def Parses (d : Dialect) (ts : List Token) (cs : List Clause) : Rank → Prop
  | .operand => ∀ c, cs = [c] → ∀ stack level,
    ts.foldlM (State.step d) (.operand stack level []) = some (.operator stack (level.add c))
  | .conjunction => ∀ stack level, level.negations = 0 →
    ts.foldlM (State.step d) (.operand stack level []) =
      some (.operator stack ⟨level.alternatives, level.conjuncts ++ cs, 0⟩)
  | .disjunction => ∀ stack alternatives, ∃ level,
    ts.foldlM (State.step d) (.operand stack ⟨alternatives, [], 0⟩ []) =
      some (.operator stack level) ∧
    level.disjuncts = alternatives ++ cs

theorem parses_of_derives {rank : Rank} {ts : List Token} {cs : List Clause}
    (h : Derives d rank ts cs) : Parses d ts cs rank := by
  -- The stack and the level are arbitrary throughout: what is open around the tokens stays as it is.
  induction h with
  | atom h =>
    intro c hc stack level
    obtain rfl := List.singleton_inj.1 hc
    exact foldlM_atom h stack level
  | @negation ts c _ ih =>
    intro c' hc stack level
    obtain rfl := List.singleton_inj.1 hc
    -- The negation is kept until its operand is complete, and applied to that alone.
    exact ih c rfl stack { level with negations := level.negations + 1 }
  | @group ts cs _ ih =>
    intro c hc stack level
    obtain rfl := List.singleton_inj.1 hc
    obtain ⟨inner, hts, hinner⟩ := ih ((.group, level) :: stack) []
    have hclose : State.step d (.operator ((.group, level) :: stack) inner) (.mark ')') =
        some (.operator stack (level.add (.anyOf cs))) := by
      rw [State.step, hinner, List.nil_append]
      rfl
    have hopen : ((.mark '(' :: ts) : List Token).foldlM (State.step d) (.operand stack level []) =
        some (.operator ((.group, level) :: stack) inner) := hts
    rw [foldlM_append_of_eq hopen, List.foldlM_cons, hclose]
    rfl
  | @linked ts filter link _ ih =>
    intro c hc stack level
    obtain rfl := List.singleton_inj.1 hc
    obtain ⟨inner, hts, hinner⟩ := ih ((.subquery link.table link.innerName, level) :: stack) []
    have hclose : State.step d
        (.operator ((.subquery link.table link.innerName, level) :: stack) inner) (.mark ')') =
        some (.operator stack (level.add (.linked link filter))) := by
      rw [State.step, hinner, List.nil_append]
      rfl
    rw [List.append_assoc, foldlM_append_of_eq (foldlM_linkTokens _ _ stack level),
      foldlM_append_of_eq hts, List.foldlM_cons, hclose]
    rfl
  | @conjunct ts c _ ih =>
    intro stack level hn
    rw [ih c rfl stack level, Level.add, hn]
    rfl
  | @and ts us c cs _ _ ih ihs =>
    intro stack level hn
    have hadd : level.add c = ⟨level.alternatives, level.conjuncts ++ [c], 0⟩ := by
      rw [Level.add, hn]
      rfl
    have hrest := ihs stack ⟨level.alternatives, level.conjuncts ++ [c], 0⟩ rfl
    rw [List.append_assoc] at hrest
    rw [foldlM_append_of_eq (ih c rfl stack level), hadd, List.foldlM_cons]
    exact hrest
  | @disjunct ts cs _ ih =>
    intro stack alternatives
    exact ⟨_, ih stack ⟨alternatives, [], 0⟩ rfl, rfl⟩
  | @or ts us cs ds _ _ ih ihs =>
    intro stack alternatives
    obtain ⟨level, hus, hlevel⟩ := ihs stack (alternatives ++ [.allOf cs])
    refine ⟨level, ?_, ?_⟩
    -- OR closes the conjunction before it, and the rest is read after one more disjunct.
    · rw [foldlM_append_of_eq (ih stack ⟨alternatives, [], 0⟩ rfl), List.foldlM_cons]
      exact hus
    · rw [hlevel, List.append_assoc]
      rfl

theorem parse?_of_reads {ts : List Token} {c : Clause} (h : Reads d ts c) :
    parse? d ts = some c := by
  obtain ⟨cs, hd, rfl⟩ := h
  obtain ⟨level, hts, hlevel⟩ := parses_of_derives hd [] []
  have hstart : ts.foldlM (State.step d) (.operand [] {} []) = some (.operator [] level) := hts
  unfold parse?
  rw [hstart, Option.bind_some, State.clause?, hlevel]
  rfl

example : parse? .postgres (lex .postgres "1=0 OR NOT 1=1 AND 1=2".toList) =
    some (.any [.numbers 1 0, .all [.negation (.numbers 1 1), .numbers 1 2]]) := rfl

theorem reads_unique {ts : List Token} {a b : Clause} (ha : Reads d ts a) (hb : Reads d ts b) :
    a = b :=
  Option.some.inj ((parse?_of_reads ha).symm.trans (parse?_of_reads hb))

end Completeness

end TermSearch.Grammar
