import TermSearch.Catalog.Column
import TermSearch.Statement.Value

/-! Conditions on the rows of a table. -/

namespace TermSearch

inductive TextView where
  | cast (column : Column)
  | stripped (column : Column)
deriving DecidableEq

def TextView.column : TextView → Column
  | .cast c => c
  | .stripped c => c

/-- A subquery's table, the name it is read under, and the keys that tie its rows to the outer
row; the inner key is named through `innerName`, so that the outer table stays visible. -/
structure Link where
  table : String
  innerName : String
  innerKey : Column
  outerKey : Column
deriving DecidableEq

inductive Condition where
  | like (view : TextView) (pattern : String)
  | equal (column : Column) (value : Value)
  | all (parts : List Condition)
  | any (parts : List Condition)
  | negation (part : Condition)
  | linked (link : Link) (filter : Condition)

namespace Condition

/-- Adds to an alternative that is already there, and else begins one. -/
def or (a b : Condition) : Condition :=
  match a with
  | .any parts => .any (parts ++ [b])
  | a => .any [a, b]

def and (a b : Condition) : Condition :=
  match a with
  | .all parts => .all (parts ++ [b])
  | a => .all [a, b]

mutual

def values : Condition → List Value
  | .like _ pattern => [.text pattern]
  | .equal _ value => [value]
  | .all parts => valuesOfAll parts
  | .any parts => valuesOfAll parts
  | .negation part => part.values
  | .linked _ filter => filter.values

def valuesOfAll : List Condition → List Value
  | [] => []
  | c :: rest => c.values ++ valuesOfAll rest

end

mutual

def valueCount : Condition → Nat
  | .like .. => 1
  | .equal .. => 1
  | .all parts => valueCountOfAll parts
  | .any parts => valueCountOfAll parts
  | .negation part => part.valueCount
  | .linked _ filter => filter.valueCount

def valueCountOfAll : List Condition → Nat
  | [] => 0
  | c :: rest => c.valueCount + valueCountOfAll rest

end

mutual

def same : Condition → Condition → Bool
  | .like v p, .like w q => v == w && p == q
  | .equal c v, .equal d w => c == d && v.same w
  | .all as, .all bs => sameAll as bs
  | .any as, .any bs => sameAll as bs
  | .negation a, .negation b => a.same b
  | .linked k a, .linked l b => k == l && a.same b
  | _, _ => false

def sameAll : List Condition → List Condition → Bool
  | [], [] => true
  | a :: as, b :: bs => a.same b && sameAll as bs
  | _, _ => false

end

mutual

theorem length_values (c : Condition) : c.values.length = c.valueCount := by
  cases c with
  | like | equal => rfl
  | all parts => exact length_valuesOfAll parts
  | any parts => exact length_valuesOfAll parts
  | negation part => exact length_values part
  | linked _ filter => exact length_values filter

theorem length_valuesOfAll (cs : List Condition) :
    (valuesOfAll cs).length = valueCountOfAll cs := by
  cases cs with
  | nil => rfl
  | cons c cs =>
    rw [valuesOfAll, valueCountOfAll, List.length_append, length_values c, length_valuesOfAll cs]

end

theorem valuesOfAll_eq_flatMap (cs : List Condition) : valuesOfAll cs = cs.flatMap values := by
  induction cs with
  | nil => rfl
  | cons c cs ih => rw [valuesOfAll, ih, List.flatMap_cons]

end Condition

end TermSearch
