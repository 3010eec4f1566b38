import TermSearch.Proofs.Meaning.Evaluation
import TermSearch.Proofs.Term
import TermSearch.Search.Engine

/-! When a single column matches a term: the condition of the engine is true of exactly the texts
that the rules accept. -/

namespace TermSearch

def Rules.Accepts (r : Rules) (term x : String) : Prop :=
  Text.Occurs (Text.trim term) x ∨
    (r.normalize = true ∧ Text.Occurs (Text.strip term) (Text.strip x)) ∨
    (r.normalize = true ∧ r.wordBasedMatching = true ∧
      ∃ token ∈ tokenize term r, Text.Occurs token (Text.strip x))

instance (r : Rules) (term x : String) : Decidable (r.Accepts term x) :=
  inferInstanceAs (Decidable (_ ∨ _ ∧ _ ∨ _ ∧ _ ∧ _))

theorem Rules.accepts_iff_matchTokens (r : Rules) (s x : String) :
    r.Accepts s x ↔ Text.Occurs (Text.trim s) x ∨
      (r.normalize = true ∧ Text.Occurs (Text.strip s) (Text.strip x)) ∨
      (r.normalize = true ∧
        ∃ token ∈ (Term.ofText s r).matchTokens r, Text.Occurs token (Text.strip x)) := by
  rw [Accepts, Term.matchTokens_ofText]
  by_cases hw : r.wordBasedMatching = true <;> simp [hw]

namespace Condition

variable {ρ : Type}

theorem truth_anyOf_eq_yes_iff (I : Reading ρ) (cs : List Condition) (p : ρ) :
    (anyOf cs).truth I p = .yes ↔ ∃ c ∈ cs, c.truth I p = .yes := by
  match cs with
  | [] => exact truth_any_eq_yes_iff I [] p
  | [c] => simp [anyOf]
  | c :: d :: rest => exact truth_any_eq_yes_iff I (c :: d :: rest) p

theorem truth_anyOf (I : Reading ρ) (cs : List Condition) (p : ρ) :
    (anyOf cs).truth I p = .any (cs.map fun c => c.truth I p) := by
  match cs with
  | [] => rfl
  | [c] => rw [anyOf]; cases hc : c.truth I p <;> simp [hc, Truth.any, Truth.or]
  | c :: d :: rest => simp only [anyOf, truth, truths_eq_map]

theorem anyOf_induction {P : Condition → Prop} {cs : List Condition} (hne : cs ≠ [])
    (h : ∀ c ∈ cs, P c) (hany : ∀ parts, parts ≠ [] → (∀ c ∈ parts, P c) → P (.any parts)) :
    P (anyOf cs) := by
  match cs with
  | [] => exact absurd rfl hne
  | [c] => exact h c (List.mem_singleton.2 rfl)
  | c :: d :: rest => exact hany (c :: d :: rest) hne h

end Condition

namespace Engine

variable {ρ : Type}

theorem truth_ilike_eq_yes_iff (I : Reading ρ) (c : Column) (t : Term) (r : Rules) (p : ρ) :
    (ilike.condition c t r).truth I p = .yes ↔
      I.like p (.cast c) (Text.containing t.raw) = .yes ∨
        (r.normalize = true ∧ I.like p (.stripped c) (Text.containing t.normalized) = .yes) ∨
        (r.normalize = true ∧ ∃ token ∈ t.matchTokens r,
          I.like p (.stripped c) (Text.containing token) = .yes) := by
  have hv (token : String) : ((TextView.stripped c).contains token).truth I p =
      I.like p (.stripped c) (Text.containing token) := by
    rw [TextView.contains, Condition.truth]
  have ht : (∃ a ∈ if (t.matchTokens r).isEmpty = true then [] else
        [Condition.any ((t.matchTokens r).map (TextView.stripped c).contains)],
      a.truth I p = .yes) ↔
      ∃ token ∈ t.matchTokens r, I.like p (.stripped c) (Text.containing token) = .yes := by
    cases t.matchTokens r with
    | nil => simp
    | cons token tokens =>
      simp only [List.isEmpty_cons, Bool.false_eq_true, if_false, List.mem_singleton,
        exists_eq_left, Condition.truth_any_eq_yes_iff, List.mem_map, exists_exists_and_eq_and, hv]
  rw [ilike, Condition.truth_anyOf_eq_yes_iff, clauses, List.exists_mem_cons_iff]
  refine or_congr (by rw [TextView.contains, Condition.truth]) ?_
  by_cases hn : r.normalize = true
  · simp only [hn, if_true, true_and]
    rw [List.exists_mem_cons_iff, ht, hv]
  · simp [hn]

theorem truth_ilike_text_iff (I : Reading ρ) {p : ρ} {text : Column → Option String}
    (hI : I.like p = TextView.likeIn text) (c : Column) (s : String) (r : Rules) :
    (ilike.condition c (.ofText s r) r).truth I p = .yes ↔
      ∃ x, text c = some x ∧ r.Accepts s x := by
  rw [truth_ilike_eq_yes_iff, hI]
  simp only [TextView.likeIn_cast_eq_yes_iff, TextView.likeIn_stripped_eq_yes_iff,
    Term.raw_ofText, Term.normalized_ofText, Rules.accepts_iff_matchTokens]
  cases text c <;> simp

theorem ilike_induction {P : Condition → Prop} {c : Column} (t : Term) (r : Rules)
    (hlike : ∀ v : TextView, v.column = c → ∀ s, P (v.contains s))
    (hany : ∀ parts, parts ≠ [] → (∀ part ∈ parts, P part) → P (.any parts)) :
    P (ilike.condition c t r) := by
  refine Condition.anyOf_induction (List.cons_ne_nil _ _) ?_ hany
  intro clause hclause
  rcases List.mem_cons.1 hclause with rfl | hclause
  · exact hlike (.cast c) rfl t.raw
  split at hclause
  · rcases List.mem_cons.1 hclause with rfl | hclause
    · exact hlike (.stripped c) rfl t.normalized
    split at hclause
    · exact absurd hclause List.not_mem_nil
    next hempty =>
      obtain rfl := List.mem_singleton.1 hclause
      refine hany _ (by simpa using hempty) fun part hpart => ?_
      obtain ⟨token, -, rfl⟩ := List.mem_map.1 hpart
      exact hlike (.stripped c) rfl token
  · exact absurd hclause List.not_mem_nil

theorem truth_ilike_text (I : Reading ρ) {p : ρ} {text : Column → Option String}
    (hI : I.like p = TextView.likeIn text) (c : Column) (s : String) (r : Rules) :
    (ilike.condition c (.ofText s r) r).truth I p =
      .ofAnswer ((text c).map fun x => decide (r.Accepts s x)) := by
  have hyes := truth_ilike_text_iff I hI c s r
  have hunknown : (ilike.condition c (.ofText s r) r).truth I p = .unknown ↔ text c = none := by
    refine ilike_induction (P := fun a => a.truth I p = .unknown ↔ text c = none) _ r ?_ ?_
    · rintro v rfl term
      rw [TextView.contains, Condition.truth, hI]
      exact TextView.likeIn_eq_unknown_iff text v term
    · intro parts hne hparts
      rw [Condition.truth, Truth.any_eq_unknown_iff, Condition.truths_eq_map]
      constructor
      · rintro ⟨hmem, -⟩
        obtain ⟨part, hpart, hp⟩ := List.mem_map.1 hmem
        exact (hparts part hpart).1 hp
      · intro hnull
        obtain ⟨part, hpart⟩ := List.exists_mem_of_ne_nil parts hne
        refine ⟨List.mem_map.2 ⟨part, hpart, (hparts part hpart).2 hnull⟩, fun hmem => ?_⟩
        obtain ⟨other, hother, ho⟩ := List.mem_map.1 hmem
        cases ((hparts other hother).2 hnull).symm.trans ho
  apply Truth.eq_ofAnswer_of_iff
  · simp [hyes]
  · simp [hunknown]

end Engine

end TermSearch
