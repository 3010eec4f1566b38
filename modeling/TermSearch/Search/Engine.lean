import TermSearch.Statement.Score
import TermSearch.Term
import TermSearch.Text.Pattern

/-! How a single column is matched with a term, and how well it matches. -/

namespace TermSearch

structure Engine where
  condition : Column → Term → Rules → Condition
  score : Column → Term → Rules → Score

def rawWeight : UInt32 := 100

def normalizedWeight : UInt32 := 50

def tokenWeight : UInt32 := 10

def TextView.contains (v : TextView) (s : String) : Condition :=
  .like v (Text.containing s)

def TextView.branch (v : TextView) (s : String) (weight : UInt32) : Branch :=
  ⟨v, Text.containing s, weight⟩

namespace Engine

/-- The whole term matches as it is typed or, with normalization on, in stripped form. Tokens are
compared with stripped text, so they match only with normalization on. -/
def clauses (c : Column) (t : Term) (r : Rules) : List Condition :=
  let tokens := t.matchTokens r
  (TextView.cast c).contains t.raw ::
    (if r.normalize then
      (TextView.stripped c).contains t.normalized ::
        if tokens.isEmpty then [] else [.any (tokens.map (TextView.stripped c).contains)]
    else [])

def branches (c : Column) (t : Term) (r : Rules) : List Branch :=
  (TextView.cast c).branch t.raw rawWeight ::
    (if r.normalize then [(TextView.stripped c).branch t.normalized normalizedWeight] else []) ++
    (t.matchTokens r).map fun token => (TextView.stripped c).branch token tokenWeight

end Engine

def Condition.anyOf : List Condition → Condition
  | [c] => c
  | cs => .any cs

def Engine.ilike : Engine where
  condition c t r := .anyOf (clauses c t r)
  score c t r := ⟨c, branches c t r⟩

def EngineKind.engine : EngineKind → Engine
  | .ilike => .ilike

end TermSearch
