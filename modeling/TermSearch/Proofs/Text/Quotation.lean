import TermSearch.Text.Quoted

/-! Quoted text read back. With two quotes in a row taken for one of the text, it ends where it was
made to end, unless what follows begins with a quote. -/

namespace TermSearch.Text

def readClosing (quote : Char) : List Char → Option (List Char × List Char)
  | [] => none
  | c :: rest =>
    if c = quote then
      match rest with
      | [] => some ([], [])
      | d :: tail =>
        if d = quote then (readClosing quote tail).map fun r => (quote :: r.1, r.2)
        else some ([], d :: tail)
    else (readClosing quote rest).map fun r => (c :: r.1, r.2)

def readQuoted (quote : Char) : List Char → Option (List Char × List Char)
  | [] => none
  | c :: rest => if c = quote then readClosing quote rest else none

section Reading

variable {quote : Char} {s t rest : List Char}

theorem readClosing_quotes (quote : Char) (t : List Char) :
    readClosing quote (quote :: quote :: t) =
      (readClosing quote t).map fun r => (quote :: r.1, r.2) := by
  rw [readClosing, if_pos rfl, if_pos rfl]

theorem readClosing_quote (h : rest.head? ≠ some quote) :
    readClosing quote (quote :: rest) = some ([], rest) := by
  cases rest with
  | nil => rw [readClosing, if_pos rfl]
  | cons d tail =>
    have hd : d ≠ quote := fun he => h (congrArg some he)
    rw [readClosing, if_pos rfl, if_neg hd]

theorem readClosing_of_ne {c : Char} (h : c ≠ quote) (t : List Char) :
    readClosing quote (c :: t) = (readClosing quote t).map fun r => (c :: r.1, r.2) := by
  rw [readClosing.eq_def]
  exact if_neg h

theorem readClosing_doubled (h : rest.head? ≠ some quote) (s : List Char) :
    readClosing quote (doubled quote s ++ quote :: rest) = some (s, rest) := by
  induction s with
  | nil => exact readClosing_quote h
  | cons c s ih =>
    by_cases hc : c = quote
    · rw [hc, doubled_cons_self, List.cons_append, List.cons_append, readClosing_quotes, ih]
      rfl
    · rw [doubled_cons_of_ne hc, List.cons_append, readClosing_of_ne hc, ih]
      rfl

theorem quoted_append (quote : Char) (s rest : List Char) :
    quoted quote s ++ rest = quote :: (doubled quote s ++ quote :: rest) := by
  rw [quoted, List.cons_append, List.cons_append, List.append_assoc]
  rfl

theorem eq_doubled_of_readClosing (h : readClosing quote t = some (s, rest)) :
    t = doubled quote s ++ quote :: rest ∧ rest.head? ≠ some quote := by
  fun_induction readClosing quote t generalizing s with
  | case1 => exact nomatch h
  | case2 =>
    obtain ⟨rfl, rfl⟩ := Prod.mk.inj (Option.some.inj h)
    exact ⟨rfl, nofun⟩
  | case3 tail ih =>
    obtain ⟨⟨u, v⟩, hread, he⟩ := Option.map_eq_some_iff.1 h
    obtain ⟨rfl, rfl⟩ := Prod.mk.inj he
    obtain ⟨rfl, hrest⟩ := ih hread
    rw [doubled_cons_self]
    exact ⟨rfl, hrest⟩
  | case4 d tail hd =>
    obtain ⟨rfl, rfl⟩ := Prod.mk.inj (Option.some.inj h)
    exact ⟨rfl, fun he => hd (Option.some.inj he)⟩
  | case5 c tail hc ih =>
    obtain ⟨⟨u, v⟩, hread, he⟩ := Option.map_eq_some_iff.1 h
    obtain ⟨rfl, rfl⟩ := Prod.mk.inj he
    obtain ⟨rfl, hrest⟩ := ih hread
    rw [doubled_cons_of_ne hc]
    exact ⟨rfl, hrest⟩

/-- Reading accepts exactly what quoting writes, with a text after it that does not go on with a
quote. -/
theorem readQuoted_eq_some_iff :
    readQuoted quote t = some (s, rest) ↔ t = quoted quote s ++ rest ∧ rest.head? ≠ some quote := by
  rw [quoted_append]
  constructor
  · intro h
    cases t with
    | nil => exact nomatch h
    | cons c t =>
      rw [readQuoted, Option.ite_none_right_eq_some] at h
      obtain ⟨rfl, hread⟩ := h
      obtain ⟨rfl, hrest⟩ := eq_doubled_of_readClosing hread
      exact ⟨rfl, hrest⟩
  · rintro ⟨rfl, hrest⟩
    rw [readQuoted, if_pos rfl, readClosing_doubled hrest]

theorem quoted_append_inj {s' rest' : List Char} (h : rest.head? ≠ some quote)
    (h' : rest'.head? ≠ some quote) (he : quoted quote s ++ rest = quoted quote s' ++ rest') :
    s = s' ∧ rest = rest' := by
  have hread : readQuoted quote (quoted quote s ++ rest) = some (s, rest) :=
    readQuoted_eq_some_iff.2 ⟨rfl, h⟩
  have hread' : readQuoted quote (quoted quote s ++ rest) = some (s', rest') :=
    readQuoted_eq_some_iff.2 ⟨he, h'⟩
  exact Prod.mk.inj (Option.some.inj (hread.symm.trans hread'))

end Reading

end TermSearch.Text
