import TermSearch.Proofs.Statement.Joining

/-! Programs that make conditions step by step. Whatever conditions such a program starts from and in
whatever order it joins them, what it makes has the truth value, the values and the count of values
that the same program computes from those of its operands. -/

namespace TermSearch

inductive BuildStep where
  | push (c : Condition)
  | join (k : Connective)
  | negate

structure Interpretation (α : Type) where
  given : Condition → α
  join : Connective → α → α → α
  negate : α → α

namespace Interpretation

def conditions : Interpretation Condition :=
  ⟨id, Connective.join, .negation⟩

def truths {ρ : Type} (I : Reading ρ) (p : ρ) : Interpretation Truth :=
  ⟨fun c => c.truth I p, Connective.truth, Truth.not⟩

def values (d : Dialect) : Interpretation (List Value) :=
  ⟨fun c => (c.statement d).values, fun _ vs ws => vs ++ ws, id⟩

def counts : Interpretation Nat :=
  ⟨Condition.valueCount, fun _ m n => m + n, id⟩

end Interpretation

section Steps

variable {α β : Type}

def BuildStep.run (i : Interpretation α) : List α → BuildStep → Option (List α)
  | stack, .push c => some (i.given c :: stack)
  | b :: a :: stack, .join k => some (i.join k a b :: stack)
  | a :: stack, .negate => some (i.negate a :: stack)
  | _, _ => none

def BuildStep.depth : Nat → BuildStep → Option Nat
  | n, .push _ => some (n + 1)
  | n + 2, .join _ => some (n + 1)
  | n + 1, .negate => some (n + 1)
  | _, _ => none

def runSteps (i : Interpretation α) (steps : List BuildStep) (stack : List α) : Option (List α) :=
  steps.foldlM (BuildStep.run i) stack

def depthAfter (steps : List BuildStep) (n : Nat) : Option Nat :=
  steps.foldlM BuildStep.depth n

/-- A map that says of a result what the other interpretation computes from its operands. -/
structure Interpretation.Respects (i : Interpretation α) (j : Interpretation β) (f : α → β) :
    Prop where
  given : ∀ c, f (i.given c) = j.given c
  join : ∀ k a b, f (i.join k a b) = j.join k (f a) (f b)
  negate : ∀ a, f (i.negate a) = j.negate (f a)

theorem foldlM_map {σ τ γ : Type} {f : σ → τ} {run : σ → γ → Option σ} {run' : τ → γ → Option τ}
    (h : ∀ s x, run' (f s) x = (run s x).map f) (xs : List γ) (s : σ) :
    xs.foldlM run' (f s) = (xs.foldlM run s).map f := by
  induction xs generalizing s with
  | nil => rfl
  | cons x xs ih =>
    rw [List.foldlM_cons, List.foldlM_cons, h]
    cases run s x with
    | none => rfl
    | some next => exact ih next

theorem BuildStep.run_map {i : Interpretation α} {j : Interpretation β} {f : α → β}
    (h : i.Respects j f) (stack : List α) (step : BuildStep) :
    run j (stack.map f) step = (run i stack step).map (List.map f) := by
  cases step with
  | push c =>
    simp only [run, Option.map_some, List.map_cons, h.given]
  | join k =>
    match stack with
    | [] | [_] => rfl
    | b :: a :: stack => simp only [run, Option.map_some, List.map_cons, h.join]
  | negate =>
    match stack with
    | [] => rfl
    | a :: stack => simp only [run, Option.map_some, List.map_cons, h.negate]

theorem BuildStep.depth_length (i : Interpretation α) (stack : List α) (step : BuildStep) :
    depth stack.length step = (run i stack step).map List.length := by
  cases step with
  | push c => rfl
  | join k =>
    match stack with
    | [] | [_] | _ :: _ :: _ => rfl
  | negate =>
    match stack with
    | [] | _ :: _ => rfl

theorem runSteps_map {i : Interpretation α} {j : Interpretation β} {f : α → β}
    (h : i.Respects j f) (steps : List BuildStep) (stack : List α) :
    runSteps j steps (stack.map f) = (runSteps i steps stack).map (List.map f) :=
  foldlM_map (BuildStep.run_map h) steps stack

theorem depthAfter_length (i : Interpretation α) (steps : List BuildStep) (stack : List α) :
    depthAfter steps stack.length = (runSteps i steps stack).map List.length :=
  foldlM_map (BuildStep.depth_length i) steps stack

end Steps

namespace Interpretation

theorem respects_truths {ρ : Type} (I : Reading ρ) (p : ρ) :
    conditions.Respects (truths I p) fun c => c.truth I p where
  given _ := rfl
  join k a b := k.truth_join I p a b
  negate _ := rfl

theorem respects_values (d : Dialect) :
    conditions.Respects (values d) fun c => (c.statement d).values where
  given _ := rfl
  join k a b := by
    simp only [Condition.values_statement]
    exact k.values_join a b
  negate a := by
    simp only [Condition.values_statement]
    rfl

theorem respects_counts : conditions.Respects counts Condition.valueCount where
  given _ := rfl
  join k a b := k.valueCount_join a b
  negate _ := rfl

end Interpretation

/-- A program has a result where no step lacks an operand, and then the truth values of what it makes
are what it computes from the truth values of the conditions that it is given. The same holds of the
values that a statement is run with, in every dialect, and of their count. -/
theorem programs_compose (steps : List BuildStep) (stack : List Condition) :
    (runSteps .conditions steps stack).map List.length = depthAfter steps stack.length ∧
    (∀ {ρ : Type} (I : Reading ρ) (p : ρ),
      (runSteps .conditions steps stack).map (List.map fun c => c.truth I p) =
        runSteps (.truths I p) steps (stack.map fun c => c.truth I p)) ∧
    (∀ {ρ : Type} (I : Reading ρ) (p : ρ),
      (Condition.all []).truth I p = .yes ∧ (Condition.any []).truth I p = .no) ∧
    (∀ d : Dialect,
      (runSteps .conditions steps stack).map (List.map fun c => (c.statement d).values) =
        runSteps (.values d) steps (stack.map fun c => (c.statement d).values)) ∧
    (runSteps .conditions steps stack).map (List.map Condition.valueCount) =
      runSteps .counts steps (stack.map Condition.valueCount) ∧
    ∀ (d : Dialect) (c : Condition), c.valueCount = (c.statement d).values.length := by
  refine ⟨(depthAfter_length _ steps stack).symm, ?_, fun _ _ => ⟨rfl, rfl⟩, ?_,
    (runSteps_map Interpretation.respects_counts steps stack).symm, ?_⟩
  · intro ρ I p
    exact (runSteps_map (Interpretation.respects_truths I p) steps stack).symm
  · intro d
    exact (runSteps_map (Interpretation.respects_values d) steps stack).symm
  · intro d c
    rw [c.values_statement, c.length_values]

end TermSearch
