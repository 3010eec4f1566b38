import TermSearch.Statement.Condition

/-! Relevance scores, and the order of a statement's rows. -/

namespace TermSearch

structure Branch where
  view : TextView
  pattern : String
  weight : UInt32
deriving DecidableEq

structure Score where
  column : Column
  branches : List Branch
deriving DecidableEq

namespace Score

def highest (s : Score) : UInt32 :=
  (s.branches.map (·.weight)).foldl (· + ·) 0

def values (s : Score) : List Value :=
  s.branches.map fun b => .text b.pattern

end Score

inductive Direction where
  | ascending
  | descending
deriving DecidableEq

inductive OrderKey where
  | column (c : Column)
  | greatest (scores : List Score)
deriving DecidableEq

structure OrderClause where
  key : OrderKey
  direction : Direction
deriving DecidableEq

def OrderClause.values (o : OrderClause) : List Value :=
  match o.key with
  | .column _ => []
  | .greatest scores => scores.flatMap Score.values

end TermSearch
