import Mathlib.Data.List.Forall2

/-! Lists gone through by functions that can fail: a traversal that succeeds has an outcome for each
element, in order, and one that fails has the failure of the first element that has one. -/

namespace TermSearch

section Pairs

variable {α β : Type}

theorem exists_left_of_mem {R : α → β → Prop} {xs : List α} {ys : List β}
    (h : List.Forall₂ R xs ys) {y : β} (hy : y ∈ ys) : ∃ x ∈ xs, R x y := by
  induction h with
  | nil => exact absurd hy List.not_mem_nil
  | cons hxy _ ih =>
    rcases List.mem_cons.1 hy with rfl | hy
    · exact ⟨_, List.mem_cons_self .., hxy⟩
    · obtain ⟨x, hx, hr⟩ := ih hy
      exact ⟨x, List.mem_cons_of_mem _ hx, hr⟩

theorem exists_right_of_mem {R : α → β → Prop} {xs : List α} {ys : List β}
    (h : List.Forall₂ R xs ys) {x : α} (hx : x ∈ xs) : ∃ y ∈ ys, R x y := by
  have hflip : List.Forall₂ (flip R) ys xs := h.flip
  exact exists_left_of_mem hflip hx

theorem exists_forall₂_iff {R : α → β → Prop} {xs : List α} :
    (∃ ys, List.Forall₂ R xs ys) ↔ ∀ x ∈ xs, ∃ y, R x y := by
  constructor
  · rintro ⟨ys, h⟩ x hx
    obtain ⟨y, -, hr⟩ := exists_right_of_mem h hx
    exact ⟨y, hr⟩
  · intro h
    induction xs with
    | nil => exact ⟨[], .nil⟩
    | cons x xs ih =>
      obtain ⟨hx, hxs⟩ := List.forall_mem_cons.1 h
      obtain ⟨y, hy⟩ := hx
      obtain ⟨ys, hys⟩ := ih hxs
      exact ⟨y :: ys, .cons hy hys⟩

end Pairs

section First

variable {α β ε : Type} {P : α → ε → Prop}

def First (P : α → ε → Prop) (xs : List α) (e : ε) : Prop :=
  ∃ before x after, xs = before ++ x :: after ∧ (∀ y ∈ before, ∀ other, ¬ P y other) ∧ P x e

theorem not_first_nil (e : ε) : ¬ First P [] e := by
  rintro ⟨before, x, after, h, -, -⟩
  exact List.append_ne_nil_of_right_ne_nil before (List.cons_ne_nil x after) h.symm

theorem first_cons_iff {x : α} {xs : List α} {e : ε} :
    First P (x :: xs) e ↔ P x e ∨ (∀ other, ¬ P x other) ∧ First P xs e := by
  constructor
  · rintro ⟨before, y, after, h, hbefore, hy⟩
    cases before with
    | nil =>
      obtain ⟨rfl, -⟩ := List.cons.inj h
      exact .inl hy
    | cons z before =>
      obtain ⟨rfl, rfl⟩ := List.cons.inj h
      obtain ⟨hx, hbefore⟩ := List.forall_mem_cons.1 hbefore
      exact .inr ⟨hx, before, y, after, rfl, hbefore, hy⟩
  · rintro (hx | ⟨hx, before, y, after, rfl, hbefore, hy⟩)
    · exact ⟨[], x, xs, rfl, fun _ h => absurd h List.not_mem_nil, hx⟩
    · exact ⟨x :: before, y, after, rfl, List.forall_mem_cons.2 ⟨hx, hbefore⟩, hy⟩

theorem exists_first_iff {xs : List α} : (∃ e, First P xs e) ↔ ∃ x ∈ xs, ∃ e, P x e := by
  induction xs with
  | nil => exact iff_of_false (fun ⟨e, h⟩ => not_first_nil e h) (by simp)
  | cons x xs ih =>
    rw [List.exists_mem_cons_iff, ← ih]
    simp only [first_cons_iff]
    constructor
    · rintro ⟨e, h | ⟨-, h⟩⟩
      · exact .inl ⟨e, h⟩
      · exact .inr ⟨e, h⟩
    · intro h
      by_cases hx : ∃ e, P x e
      · obtain ⟨e, he⟩ := hx
        exact ⟨e, .inl he⟩
      · obtain ⟨e, he⟩ := h.resolve_left hx
        exact ⟨e, .inr ⟨not_exists.1 hx, he⟩⟩

theorem exists_first_or_first_iff {Q : α → ε → Prop} {xs : List α} :
    (∃ e, First P xs e ∨ (∀ x ∈ xs, ∀ other, ¬ P x other) ∧ First Q xs e) ↔
      ∃ x ∈ xs, ∃ e, P x e ∨ Q x e := by
  constructor
  · rintro ⟨e, h | ⟨-, h⟩⟩
    · obtain ⟨x, hx, e, he⟩ := exists_first_iff.1 ⟨e, h⟩
      exact ⟨x, hx, e, .inl he⟩
    · obtain ⟨x, hx, e, he⟩ := exists_first_iff.1 ⟨e, h⟩
      exact ⟨x, hx, e, .inr he⟩
  · rintro ⟨x, hx, e, he⟩
    by_cases hp : ∃ x ∈ xs, ∃ e, P x e
    · obtain ⟨e, h⟩ := exists_first_iff.2 hp
      exact ⟨e, .inl h⟩
    · have hnone : ∀ y ∈ xs, ∀ other, ¬ P y other :=
        fun y hy other ho => hp ⟨y, hy, other, ho⟩
      obtain ⟨e, h⟩ := exists_first_iff.2 ⟨x, hx, e, he.resolve_left (hnone x hx e)⟩
      exact ⟨e, .inr ⟨hnone, h⟩⟩

theorem first_iff_of_pairwise {lt : α → α → Prop} {xs : List α} (h : xs.Pairwise lt)
    (hasymm : ∀ x y, lt x y → ¬ lt y x) {e : ε} :
    First P xs e ↔ ∃ x ∈ xs, P x e ∧ ∀ y ∈ xs, lt y x → ∀ other, ¬ P y other := by
  constructor
  · rintro ⟨before, x, after, rfl, hbefore, hx⟩
    refine ⟨x, List.mem_append_right _ (List.mem_cons_self ..), hx, fun y hy hlt => ?_⟩
    obtain ⟨-, hafter, -⟩ := List.pairwise_append.1 h
    rcases List.mem_append.1 hy with hy | hy
    · exact hbefore y hy
    · rcases List.mem_cons.1 hy with rfl | hy
      · exact absurd hlt (hasymm _ _ hlt)
      · exact absurd hlt (hasymm _ _ ((List.pairwise_cons.1 hafter).1 y hy))
  · rintro ⟨x, hmem, hx, hfirst⟩
    obtain ⟨before, after, rfl⟩ := List.append_of_mem hmem
    obtain ⟨-, -, hlt⟩ := List.pairwise_append.1 h
    refine ⟨before, x, after, rfl, fun y hy => ?_, hx⟩
    exact hfirst y (List.mem_append_left _ hy) (hlt y hy x (List.mem_cons_self ..))

theorem first_forall₂ {R : α → β → Prop} {Q : β → ε → Prop} {xs : List α} {ys : List β}
    (h : List.Forall₂ R xs ys) (hR : ∀ x y, R x y → ∀ e, P x e ↔ Q y e) (e : ε) :
    First P xs e ↔ First Q ys e := by
  induction h with
  | nil => exact iff_of_false (not_first_nil e) (not_first_nil e)
  | cons hxy _ ih =>
    rw [first_cons_iff, first_cons_iff, ih]
    simp only [hR _ _ hxy]

end First

section Traversals

variable {α β ε : Type}

theorem bind_eq_ok_iff {x : Except ε α} {f : α → Except ε β} {b : β} :
    (x >>= f) = .ok b ↔ ∃ a, x = .ok a ∧ f a = .ok b := by
  cases x with
  | error e => simp [bind, Except.bind]
  | ok a => simp [bind, Except.bind]

theorem bind_eq_error_iff {x : Except ε α} {f : α → Except ε β} {e : ε} :
    (x >>= f) = .error e ↔ x = .error e ∨ ∃ a, x = .ok a ∧ f a = .error e := by
  cases x with
  | error other => simp [bind, Except.bind]
  | ok a => simp [bind, Except.bind]

theorem bind_pure_eq_ok_iff {x : Except ε α} {f : α → β} {b : β} :
    (x >>= fun a => pure (f a)) = .ok b ↔ ∃ a, x = .ok a ∧ f a = b := by
  cases x with
  | error e => simp [bind, Except.bind]
  | ok a => simp [bind, Except.bind, pure, Except.pure]

theorem bind_pure_eq_error_iff {x : Except ε α} {f : α → β} {e : ε} :
    (x >>= fun a => pure (f a)) = .error e ↔ x = .error e := by
  cases x with
  | error other => simp [bind, Except.bind]
  | ok a => simp [bind, Except.bind, pure, Except.pure]

theorem exists_ok_iff {x : Except ε α} : (∃ a, x = .ok a) ↔ ∀ e, x ≠ .error e := by
  cases x with
  | error e => simp
  | ok a => simp

theorem mapM_eq_ok_iff {f : α → Except ε β} {xs : List α} {ys : List β} :
    xs.mapM f = .ok ys ↔ List.Forall₂ (fun x y => f x = .ok y) xs ys := by
  induction xs generalizing ys with
  | nil =>
    rw [List.mapM_nil, List.forall₂_nil_left_iff]
    exact ⟨fun h => (Except.ok.inj h).symm, fun h => h ▸ rfl⟩
  | cons x xs ih =>
    simp only [List.mapM_cons, bind_eq_ok_iff, List.forall₂_cons_left_iff, ih]
    constructor
    · rintro ⟨y, hy, zs, hz, he⟩
      obtain rfl := Except.ok.inj he
      exact ⟨y, zs, hy, hz, rfl⟩
    · rintro ⟨y, zs, hy, hz, rfl⟩
      exact ⟨y, hy, zs, hz, rfl⟩

theorem mapM_eq_error_iff {f : α → Except ε β} {xs : List α} {e : ε} :
    xs.mapM f = .error e ↔ First (fun x e => f x = .error e) xs e := by
  induction xs with
  | nil => exact iff_of_false (fun h => nomatch h) (not_first_nil e)
  | cons x xs ih =>
    rw [List.mapM_cons, bind_eq_error_iff, first_cons_iff, ← ih]
    refine or_congr_right ?_
    cases f x with
    | error other => simp
    | ok y => simp [bind_eq_error_iff, pure, Except.pure]

theorem foldlM_eq_error_iff {f : β → α → Except ε β} {P : α → ε → Prop}
    (h : ∀ s x e, f s x = .error e ↔ P x e) {xs : List α} {s : β} {e : ε} :
    xs.foldlM f s = .error e ↔ First P xs e := by
  induction xs generalizing s with
  | nil => exact iff_of_false (fun h => nomatch h) (not_first_nil e)
  | cons x xs ih =>
    rw [List.foldlM_cons, bind_eq_error_iff, first_cons_iff, h]
    refine or_congr_right ?_
    simp only [ih, ← exists_and_right, ← h s x, ← exists_ok_iff]

end Traversals

end TermSearch
