import TermSearch.Statement.Dialect
import TermSearch.Statement.Value

/-! Statements as sequences of pieces. Fixed text, names and values are told apart until the
statement is written, so that only quoting stands between a name and the text, and no value is
looked at before then. -/

namespace TermSearch

inductive Piece where
  | fixed (s : String)
  | name (s : String)
  | value (v : Value)
deriving DecidableEq

namespace Piece

/-- The pieces with a placeholder for each value; the first one has the number `n + 1`. -/
def write (d : Dialect) (n : Nat) : List Piece → List Char
  | [] => []
  | .fixed s :: rest => s.toList ++ write d n rest
  | .name s :: rest => Text.quoted d.quote s.toList ++ write d n rest
  | .value _ :: rest => d.placeholderChars (n + 1) ++ write d (n + 1) rest

def writeLiteral (d : Dialect) : List Piece → List Char
  | [] => []
  | .fixed s :: rest => s.toList ++ writeLiteral d rest
  | .name s :: rest => Text.quoted d.quote s.toList ++ writeLiteral d rest
  | .value v :: rest => v.literal ++ writeLiteral d rest

def values : List Piece → List Value
  | [] => []
  | .fixed _ :: rest => values rest
  | .name _ :: rest => values rest
  | .value v :: rest => v :: values rest

def joined (separator : String) (parts : List (List Piece)) : List Piece :=
  List.intercalate [.fixed separator] parts

@[simp] theorem values_append (ps qs : List Piece) : values (ps ++ qs) = values ps ++ values qs := by
  induction ps with
  | nil => rfl
  | cons p ps ih => cases p <;> simp [values, ih]

theorem write_append (d : Dialect) (n : Nat) (ps qs : List Piece) :
    write d n (ps ++ qs) = write d n ps ++ write d (n + (values ps).length) qs := by
  induction ps generalizing n with
  | nil => rfl
  | cons p ps ih => cases p <;> simp [write, values, ih, Nat.add_assoc, Nat.add_comm]

theorem joined_singleton (separator : String) (part : List Piece) :
    joined separator [part] = part := by
  simp [joined, List.intercalate, List.intersperse]

theorem joined_cons_cons (separator : String) (p q : List Piece) (rest : List (List Piece)) :
    joined separator (p :: q :: rest) = p ++ .fixed separator :: joined separator (q :: rest) := by
  simp [joined, List.intercalate, List.intersperse]

theorem values_joined (separator : String) (parts : List (List Piece)) :
    values (joined separator parts) = parts.flatMap values := by
  induction parts with
  | nil => rfl
  | cons p rest ih =>
    cases rest with
    | nil => simp [joined_singleton]
    | cons q rest =>
      rw [joined_cons_cons, values_append, values, ih]
      simp only [List.flatMap_cons]

theorem writeLiteral_append (d : Dialect) (ps qs : List Piece) :
    writeLiteral d (ps ++ qs) = writeLiteral d ps ++ writeLiteral d qs := by
  induction ps with
  | nil => rfl
  | cons p ps ih => cases p <;> simp [writeLiteral, ih]

end Piece

end TermSearch
