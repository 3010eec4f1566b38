/-! Text between quotes, where a quote inside is written twice. -/

namespace TermSearch.Text

def doubled (quote : Char) (s : List Char) : List Char :=
  s.flatMap fun c => if c = quote then [c, c] else [c]

def quoted (quote : Char) (s : List Char) : List Char :=
  quote :: doubled quote s ++ [quote]

@[simp] theorem doubled_cons_self (quote : Char) (s : List Char) :
    doubled quote (quote :: s) = quote :: quote :: doubled quote s := by
  rw [doubled, List.flatMap_cons, if_pos rfl]
  rfl

theorem doubled_cons_of_ne {quote c : Char} (h : c ≠ quote) (s : List Char) :
    doubled quote (c :: s) = c :: doubled quote s := by
  rw [doubled, List.flatMap_cons, if_neg h]
  rfl

end TermSearch.Text
