import TermSearch.Proofs.Meaning.Truth
import TermSearch.Proofs.Text.Occurrence
import TermSearch.Statement.Score

/-! What conditions and scores say of a row. The comparisons themselves are left open, so that the
same evaluation serves every reading of them. -/

namespace TermSearch

/-- A reading of the comparisons in the places `ρ` of rows. A link leads from a place to the places
of the linked table's rows, where the subquery's inner name stands for one of them. -/
structure Reading (ρ : Type) where
  like : ρ → TextView → String → Truth
  equal : ρ → Column → Value → Truth
  linked : ρ → Link → List ρ
  tied : ρ → Link → Truth

namespace Condition

variable {ρ : Type} (I : Reading ρ)

mutual

def truth : Condition → ρ → Truth
  | .like view pattern, p => I.like p view pattern
  | .equal column value, p => I.equal p column value
  | .all parts, p => .all (truths parts p)
  | .any parts, p => .any (truths parts p)
  | .negation part, p => (truth part p).not
  | .linked link filter, p =>
    .ofBool ((I.linked p link).any fun q => (I.tied q link).and (truth filter q) = .yes)

def truths : List Condition → ρ → List Truth
  | [], _ => []
  | c :: rest, p => truth c p :: truths rest p

end

theorem truths_eq_map (cs : List Condition) (p : ρ) :
    truths I cs p = cs.map fun c => c.truth I p := by
  induction cs with
  | nil => rfl
  | cons c cs ih => rw [truths, ih, List.map_cons]

theorem truth_any_eq_yes_iff (cs : List Condition) (p : ρ) :
    (any cs).truth I p = .yes ↔ ∃ c ∈ cs, c.truth I p = .yes := by
  rw [truth, Truth.any_eq_yes_iff, truths_eq_map, List.mem_map]

theorem truth_linked_eq_yes_iff (link : Link) (filter : Condition) (p : ρ) :
    (linked link filter).truth I p = .yes ↔
      ∃ q ∈ I.linked p link, I.tied q link = .yes ∧ filter.truth I q = .yes := by
  rw [truth, Truth.ofBool_eq_yes_iff, List.any_eq_true]
  simp only [decide_eq_true_eq, Truth.and_eq_yes_iff]

end Condition

def Branch.value (like : TextView → String → Truth) (b : Branch) : Option Nat :=
  match like b.view b.pattern with
  | .yes => some b.weight.toNat
  | _ => some 0

def nullableSum : List (Option Nat) → Option Nat
  | [] => some 0
  | x :: xs => do return (← x) + (← nullableSum xs)

def Score.value (like : TextView → String → Truth) (s : Score) : Option Nat :=
  nullableSum (s.branches.map (Branch.value like))

def greatest (xs : List (Option Nat)) : Option Nat :=
  (xs.filterMap id).max?

def Score.greatestOf (like : TextView → String → Truth) (scores : List Score) : Option Nat :=
  greatest (scores.map (Score.value like))

def TextView.likeIn (text : Column → Option String) : TextView → String → Truth
  | .cast c, pattern => .ofAnswer ((text c).bind (Text.likeFits? pattern))
  | .stripped c, pattern => .ofAnswer (((text c).map Text.strip).bind (Text.likeFits? pattern))

theorem TextView.likeIn_cast_eq_yes_iff (text : Column → Option String) (c : Column) (s : String) :
    likeIn text (.cast c) (Text.containing s) = .yes ↔ ∃ x, text c = some x ∧ Text.Occurs s x := by
  rw [likeIn, Truth.ofAnswer_eq_yes_iff, Option.bind_eq_some_iff]
  simp only [Text.likeFits?_containing, Option.some_inj, decide_eq_true_eq]

theorem TextView.likeIn_stripped_eq_yes_iff (text : Column → Option String) (c : Column)
    (s : String) :
    likeIn text (.stripped c) (Text.containing s) = .yes ↔
      ∃ x, text c = some x ∧ Text.Occurs s (Text.strip x) := by
  rw [likeIn, Truth.ofAnswer_eq_yes_iff, Option.bind_eq_some_iff]
  simp only [Text.likeFits?_containing, Option.some_inj, decide_eq_true_eq, Option.map_eq_some_iff]
  constructor
  · rintro ⟨_, ⟨x, hx, rfl⟩, ho⟩
    exact ⟨x, hx, ho⟩
  · rintro ⟨x, hx, ho⟩
    exact ⟨_, ⟨x, hx, rfl⟩, ho⟩

theorem TextView.likeIn_eq_unknown_iff (text : Column → Option String) (v : TextView)
    (s : String) : likeIn text v (Text.containing s) = .unknown ↔ text v.column = none := by
  cases v with
  | cast c =>
    rw [likeIn, Truth.ofAnswer_eq_unknown_iff, column]
    cases text c <;> simp [Text.likeFits?_containing]
  | stripped c =>
    rw [likeIn, Truth.ofAnswer_eq_unknown_iff, column]
    cases text c <;> simp [Text.likeFits?_containing]

end TermSearch
