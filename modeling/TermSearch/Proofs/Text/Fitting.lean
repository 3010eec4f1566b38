import Mathlib.Data.List.TakeWhile
import TermSearch.Proofs.Text.Occurrence

/-! What a text that fits a pattern looks like, told without reading the pattern into items. Every
pattern can be read but for one that ends in a backslash with nothing to take literally. -/

namespace TermSearch.Text

/-- A backslash takes the next character literally, `%` stands for any run of characters, `_` for any
one character, and every other character for itself. -/
inductive Fits : (pattern text : List Char) → Prop where
  | nil : Fits [] []
  | escaped (c : Char) {p x : List Char} (h : Fits p x) : Fits ('\\' :: c :: p) (c :: x)
  | run (u : List Char) {p x : List Char} (h : Fits p x) : Fits ('%' :: p) (u ++ x)
  | one (c : Char) {p x : List Char} (h : Fits p x) : Fits ('_' :: p) (c :: x)
  | plain {c : Char} (hc : isWildcard c = false) {p x : List Char} (h : Fits p x) :
    Fits (c :: p) (c :: x)

def endBackslashes (p : List Char) : Nat :=
  (p.reverse.takeWhile (· == '\\')).length

theorem endBackslashes_cons_of_ne {c : Char} (h : c ≠ '\\') (p : List Char) :
    endBackslashes (c :: p) = endBackslashes p := by
  rw [endBackslashes, endBackslashes, List.reverse_cons, List.takeWhile_append]
  split
  next hall => simp [h, hall]
  next => rfl

theorem endBackslashes_pair (p : List Char) :
    endBackslashes ('\\' :: '\\' :: p) % 2 = endBackslashes p % 2 := by
  simp only [endBackslashes, List.reverse_cons, List.append_assoc, List.takeWhile_append]
  split
  next hall => simp [hall]
  next => rfl

theorem endBackslashes_escape (c : Char) (p : List Char) :
    endBackslashes ('\\' :: c :: p) % 2 = endBackslashes p % 2 := by
  by_cases hc : c = '\\'
  · rw [hc, endBackslashes_pair]
  · have hinner : ((c :: p).reverse.takeWhile (· == '\\')).length ≠ (c :: p).reverse.length := by
      intro hlength
      have hall := (List.takeWhile_prefix (· == '\\')).eq_of_length hlength
      have hmem : c ∈ (c :: p).reverse := by simp
      exact hc (beq_iff_eq.1 (List.takeWhile_eq_self_iff.1 hall c hmem))
    have hkeep : endBackslashes ('\\' :: c :: p) = endBackslashes (c :: p) := by
      rw [endBackslashes, endBackslashes, List.reverse_cons, List.takeWhile_append, if_neg hinner]
    rw [hkeep, endBackslashes_cons_of_ne hc]

theorem ne_backslash {c : Char} {p : List Char} (hpair : ∀ d q, c = '\\' → p = d :: q → False)
    (hlast : c = '\\' → p = [] → False) : c ≠ '\\' := by
  intro hc
  cases p with
  | nil => exact hlast hc rfl
  | cons d p => exact hpair d p hc rfl

theorem steps?_eq_none_iff (p : List Char) : steps? p = none ↔ endBackslashes p % 2 = 1 := by
  fun_induction steps? p with
  | case1 => simp [endBackslashes]
  | case2 c p ih => rw [Option.map_eq_none_iff, ih, endBackslashes_escape]
  | case3 => simp [endBackslashes]
  | case4 c p hpair hlast ih =>
    have hc : c ≠ '\\' := ne_backslash hpair hlast
    rw [Option.map_eq_none_iff, ih, endBackslashes_cons_of_ne hc]

section Inversion

variable {p x : List Char}

theorem Fits.nil_iff : Fits [] x ↔ x = [] := by
  constructor
  · rintro ⟨⟩
    rfl
  · rintro rfl
    exact .nil

theorem Fits.escaped_iff {c : Char} : Fits ('\\' :: c :: p) x ↔ ∃ y, x = c :: y ∧ Fits p y := by
  constructor
  · rintro (_ | ⟨_, h⟩ | _ | _ | ⟨hb, -⟩)
    · exact ⟨_, rfl, h⟩
    · exact absurd hb (by decide)
  · rintro ⟨y, rfl, h⟩
    exact .escaped c h

theorem Fits.run_iff : Fits ('%' :: p) x ↔ ∃ u v, x = u ++ v ∧ Fits p v := by
  constructor
  · rintro (_ | _ | ⟨u, h⟩ | _ | ⟨hp, -⟩)
    · exact ⟨u, _, rfl, h⟩
    · exact absurd hp (by decide)
  · rintro ⟨u, v, rfl, h⟩
    exact .run u h

theorem Fits.one_iff : Fits ('_' :: p) x ↔ ∃ c y, x = c :: y ∧ Fits p y := by
  constructor
  · rintro (_ | _ | _ | ⟨c, h⟩ | ⟨hu, -⟩)
    · exact ⟨c, _, rfl, h⟩
    · exact absurd hu (by decide)
  · rintro ⟨c, y, rfl, h⟩
    exact .one c h

theorem Fits.plain_iff {c : Char} (hc : isWildcard c = false) :
    Fits (c :: p) x ↔ ∃ y, x = c :: y ∧ Fits p y := by
  constructor
  · intro h
    cases h with
    | escaped | run | one => exact absurd hc (by decide)
    | plain _ h => exact ⟨_, rfl, h⟩
  · rintro ⟨y, rfl, h⟩
    exact .plain hc h

theorem fits_literal {c : Char} {q : List Step} :
    fits (.literal c :: q) x = true ↔ ∃ y, x = c :: y ∧ fits q y = true :=
  fits_literals [c] q x

theorem fits_one {q : List Step} :
    fits (.one :: q) x = true ↔ ∃ c y, x = c :: y ∧ fits q y = true := by
  cases x with
  | nil => simp [fits]
  | cons c x => simp [fits]

end Inversion

theorem fits_iff_of_steps? {p : List Char} {q : List Step} (h : steps? p = some q) (x : List Char) :
    fits q x = true ↔ Fits p x := by
  fun_induction steps? p generalizing q x with
  | case1 =>
    obtain rfl := Option.some.inj h
    rw [Fits.nil_iff, fits, List.isEmpty_iff]
  | case2 c p ih =>
    obtain ⟨r, hr, rfl⟩ := Option.map_eq_some_iff.1 h
    simp only [fits_literal, Fits.escaped_iff, ih hr]
  | case3 => cases h
  | case4 c p hpair hlast ih =>
    obtain ⟨r, hr, rfl⟩ := Option.map_eq_some_iff.1 h
    by_cases hp : c = '%'
    · simp only [hp, if_true, fits_run, Fits.run_iff, ih hr]
    · by_cases hu : c = '_'
      · obtain rfl := hu
        simp only [if_neg hp, if_true, fits_one, Fits.one_iff, ih hr]
      · have hb : c ≠ '\\' := ne_backslash hpair hlast
        have hc : isWildcard c = false := by simp [isWildcard, hb, hp, hu]
        simp only [if_neg hp, if_neg hu, fits_literal, Fits.plain_iff hc, ih hr]

/-- Under every folding that leaves the wildcards alone, the pattern that is made for a text can be
read, and what fits it are the texts in which that text occurs. -/
theorem containing_fits_iff {f : Char → Char} (hf : KeepsWildcards f) (s x : String) :
    endBackslashes ((containing s).toList.map f) % 2 = 0 ∧
    fitsFolded? f (containing s).toList x.toList =
      some (decide (s.toList.map f <:+: x.toList.map f)) ∧
    (Fits ((containing s).toList.map f) (x.toList.map f) ↔
      s.toList.map f <:+: x.toList.map f) := by
  rw [toList_containing]
  have hsteps := steps?_containingChars hf s.toList
  have hfits := fitsFolded?_containingChars hf s.toList x.toList
  refine ⟨?_, hfits, ?_⟩
  · have hread : ¬ endBackslashes ((containingChars s.toList).map f) % 2 = 1 := by
      rw [← steps?_eq_none_iff, hsteps]
      exact Option.some_ne_none _
    omega
  · rw [← fits_iff_of_steps? hsteps]
    rw [fitsFolded?, hsteps, Option.map_some, Option.some_inj] at hfits
    rw [hfits, decide_eq_true_eq]

theorem containing_fits_share :
    KeepsWildcards Char.toLower ∧
    endBackslashes ((containing "50%_A\\").toList.map Char.toLower) % 2 = 0 ∧
    fitsFolded? Char.toLower (containing "50%_A\\").toList "x50%_a\\%".toList = some true ∧
    Fits ((containing "50%_A\\").toList.map Char.toLower) ("x50%_a\\%".toList.map Char.toLower) := by
  have hf := keepsWildcards_toLower
  obtain ⟨hread, hfits, hiff⟩ := containing_fits_iff hf "50%_A\\" "x50%_a\\%"
  have hoccurs : "50%_A\\".toList.map Char.toLower <:+: "x50%_a\\%".toList.map Char.toLower := by
    decide
  rw [decide_eq_true hoccurs] at hfits
  exact ⟨hf, hread, hfits, hiff.2 hoccurs⟩

end TermSearch.Text
