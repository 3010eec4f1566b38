import Mathlib.Data.List.Infix
import TermSearch.Text.Pattern

/-! Texts that fit a pattern. A pattern made by `containing s` can always be read, and fits exactly
the texts in which `s` occurs. -/

namespace TermSearch.Text

inductive Step where
  | literal (c : Char)
  | one
  | run
deriving DecidableEq

def steps? : List Char → Option (List Step)
  | [] => some []
  | '\\' :: c :: p => (steps? p).map (.literal c :: ·)
  | ['\\'] => none
  | c :: p =>
    (steps? p).map ((if c = '%' then .run else if c = '_' then .one else .literal c) :: ·)

def fits : List Step → List Char → Bool
  | [], x => x.isEmpty
  | .literal _ :: _, [] => false
  | .literal c :: p, d :: x => c = d && fits p x
  | .one :: _, [] => false
  | .one :: p, _ :: x => fits p x
  | .run :: p, x => x.tails.any (fits p)

/-- Compares the pattern and the text after both are folded; there is no answer for a pattern that
cannot be read. -/
def fitsFolded? (f : Char → Char) (pattern text : List Char) : Option Bool :=
  (steps? (pattern.map f)).map fun p => fits p (text.map f)

structure KeepsWildcards (f : Char → Char) : Prop where
  fixes : ∀ c, isWildcard c = true → f c = c
  reflects : ∀ c, isWildcard (f c) = true → isWildcard c = true

theorem steps?_backslash (c : Char) (p : List Char) :
    steps? ('\\' :: c :: p) = (steps? p).map (.literal c :: ·) := rfl

theorem steps?_cons {c : Char} (h : c ≠ '\\') (p : List Char) :
    steps? (c :: p) =
      (steps? p).map ((if c = '%' then .run else if c = '_' then .one else .literal c) :: ·) := by
  rw [steps?]
  · intro d q hd
    exact absurd hd h
  · intro hd
    exact absurd hd h

theorem steps?_plain {c : Char} (h : isWildcard c = false) (p : List Char) :
    steps? (c :: p) = (steps? p).map (.literal c :: ·) := by
  simp only [isWildcard, Bool.or_eq_false_iff, beq_eq_false_iff_ne] at h
  obtain ⟨⟨hb, hp⟩, hu⟩ := h
  rw [steps?_cons hb, if_neg hp, if_neg hu]

theorem steps?_escapedChars {f : Char → Char} (hf : KeepsWildcards f) (s p : List Char) :
    steps? ((escapedChars s).map f ++ p) = (steps? p).map ((s.map fun c => .literal (f c)) ++ ·) := by
  induction s with
  | nil => simp [escapedChars]
  | cons c s ih =>
    have hs : escapedChars (c :: s) =
        (if isWildcard c then ['\\', c] else [c]) ++ escapedChars s := rfl
    rw [hs, List.map_append, List.append_assoc]
    by_cases hc : isWildcard c = true
    · have hb : f '\\' = '\\' := hf.fixes _ rfl
      simp only [hc, if_true, List.map_cons, List.map_nil, List.cons_append, List.nil_append, hb]
      rw [steps?_backslash, ih, Option.map_map]
      rfl
    · have hn : isWildcard (f c) = false := Bool.eq_false_iff.2 fun h => hc (hf.reflects c h)
      simp only [hc, if_false, List.map_cons, List.map_nil, List.cons_append, List.nil_append,
        Bool.false_eq_true]
      rw [steps?_plain hn, ih, Option.map_map]
      rfl

theorem steps?_containingChars {f : Char → Char} (hf : KeepsWildcards f) (s : List Char) :
    steps? ((containingChars s).map f) =
      some (.run :: ((s.map fun c => .literal (f c)) ++ [.run])) := by
  have hp : f '%' = '%' := hf.fixes _ rfl
  have he : (containingChars s).map f = '%' :: ((escapedChars s).map f ++ ['%']) := by
    simp [containingChars, hp]
  have hr (p : List Char) : steps? ('%' :: p) = (steps? p).map (.run :: ·) :=
    steps?_cons (by decide) p
  rw [he, hr, steps?_escapedChars hf, hr, steps?]
  simp

theorem fits_literals (u : List Char) (p : List Step) (x : List Char) :
    fits (u.map .literal ++ p) x = true ↔ ∃ v, x = u ++ v ∧ fits p v = true := by
  induction u generalizing x with
  | nil => simp
  | cons c u ih =>
    cases x with
    | nil => simp [fits]
    | cons d x =>
      simp only [List.map_cons, List.cons_append, fits, Bool.and_eq_true, decide_eq_true_eq, ih,
        List.cons.injEq]
      constructor
      · rintro ⟨rfl, v, rfl, hv⟩
        exact ⟨v, ⟨rfl, rfl⟩, hv⟩
      · rintro ⟨v, ⟨rfl, rfl⟩, hv⟩
        exact ⟨rfl, v, rfl, hv⟩

theorem fits_run (p : List Step) (x : List Char) :
    fits (.run :: p) x = true ↔ ∃ u v, x = u ++ v ∧ fits p v = true := by
  simp only [fits, List.any_eq_true, List.mem_tails]
  constructor
  · rintro ⟨v, ⟨u, rfl⟩, hv⟩
    exact ⟨u, v, rfl, hv⟩
  · rintro ⟨u, v, rfl, hv⟩
    exact ⟨v, List.suffix_append u v, hv⟩

theorem fits_run_end (x : List Char) : fits [.run] x = true :=
  (fits_run [] x).2 ⟨x, [], by simp, rfl⟩

theorem fitsFolded?_containingChars {f : Char → Char} (hf : KeepsWildcards f) (s x : List Char) :
    fitsFolded? f (containingChars s) x = some (decide (s.map f <:+: x.map f)) := by
  rw [fitsFolded?, steps?_containingChars hf, Option.map_some, Option.some_inj, Bool.eq_iff_iff,
    decide_eq_true_eq, fits_run]
  have hm : (s.map fun c => Step.literal (f c)) = (s.map f).map .literal := by simp
  rw [hm]
  simp only [fits_literals, fits_run_end, and_true]
  constructor
  · rintro ⟨u, v, hx, w, rfl⟩
    exact ⟨u, w, by rw [hx, List.append_assoc]⟩
  · rintro ⟨u, w, hx⟩
    exact ⟨u, s.map f ++ w, by rw [← hx, List.append_assoc], w, rfl⟩

end TermSearch.Text
