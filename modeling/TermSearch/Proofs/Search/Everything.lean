import TermSearch.Proofs.Search.Patterns
import TermSearch.Proofs.Search.Ranking
import TermSearch.Proofs.Search.Tolerance

/-! Terms without letters and digits. With normalization on, such a term is compared as the empty
text, which occurs in every text; nothing else that a column is compared with does. -/

namespace TermSearch

def Rules.Empties (r : Rules) (s : String) : Prop :=
  r.normalize = true ∧ ∀ c ∈ s.toList, c.isAlphanum = false

instance (r : Rules) (s : String) : Decidable (r.Empties s) :=
  decidable_of_iff (r.normalize = true ∧ s.toList.all (!·.isAlphanum) = true)
    (by simp [Rules.Empties])

theorem Value.containing_eq_iff (s : String) : containing s = .text "%%" ↔ s = "" := by
  rw [containing, Value.text.injEq, Text.containing_eq_iff]

theorem Value.mem_map_containing_iff (texts : List String) :
    .text "%%" ∈ texts.map containing ↔ "" ∈ texts := by
  simp only [List.mem_map, containing_eq_iff, exists_eq_right]

section Terms

variable {s : String} {r : Rules}

theorem Rules.empties_iff : r.Empties s ↔ r.normalize = true ∧ Text.strip s = "" := by
  rw [Empties, Text.strip_eq_empty_iff]

namespace Term

theorem ne_empty_of_mem_matchTokens {token : String} (h : token ∈ (ofText s r).matchTokens r) :
    token ≠ "" := by
  rintro rfl
  rw [matchTokens_ofText, tokenize] at h
  split at h
  · have hlong : r.isSignificant "" = true := (List.mem_filter.1 h).2
    exact absurd hlong Bool.false_ne_true
  · exact absurd h List.not_mem_nil

theorem not_occurs_matchTokens_empty {token : String} (h : token ∈ (ofText s r).matchTokens r) :
    ¬ Text.Occurs token "" :=
  mt (Text.occurs_in_empty_iff token).1 (ne_empty_of_mem_matchTokens h)

theorem matchTokens_of_empties (h : r.Empties s) : (ofText s r).matchTokens r = [] := by
  obtain ⟨-, hs⟩ := Rules.empties_iff.1 h
  rw [List.eq_nil_iff_forall_not_mem]
  intro token ht
  exact not_occurs_matchTokens_empty ht (hs ▸ occurs_matchTokens ht)

theorem empty_mem_filterTexts_iff (hs : Text.trim s ≠ "") :
    "" ∈ (ofText s r).filterTexts r ↔ r.Empties s := by
  have htokens : "" ∉ (ofText s r).matchTokens r := fun h => ne_empty_of_mem_matchTokens h rfl
  rw [filterTexts, Rules.empties_iff, List.mem_cons, raw_ofText, normalized_ofText]
  cases r.normalize with
  | false => simp [hs.symm]
  | true => simp [hs.symm, htokens]

theorem empty_mem_orderTexts_iff (hs : Text.trim s ≠ "") :
    "" ∈ (ofText s r).orderTexts r ↔ r.Empties s := by
  have htokens : "" ∉ (ofText s r).matchTokens r := fun h => ne_empty_of_mem_matchTokens h rfl
  rw [orderTexts, Rules.empties_iff, List.cons_append, List.mem_cons, raw_ofText, normalized_ofText]
  cases r.normalize with
  | false => simp [hs.symm, htokens]
  | true => simp [hs.symm, htokens]

end Term

theorem Rules.accepts_of_empties (h : r.Empties s) (x : String) : r.Accepts s x := by
  obtain ⟨hn, hs⟩ := empties_iff.1 h
  exact .inr (.inl ⟨hn, hs ▸ Text.occurs_empty _⟩)

theorem Rules.not_accepts_empty (hs : Text.trim s ≠ "") (h : ¬ r.Empties s) :
    ¬ r.Accepts s "" := by
  rw [accepts_iff_matchTokens]
  rintro (hraw | ⟨hn, hstripped⟩ | ⟨-, token, ht, ho⟩)
  · exact hs ((Text.occurs_in_empty_iff _).1 hraw)
  · exact h (empties_iff.2 ⟨hn, (Text.occurs_in_empty_iff _).1 hstripped⟩)
  · exact Term.not_occurs_matchTokens_empty ht ho

theorem Engine.textScore_of_empties (h : r.Empties s) (x : String) :
    textScore s r x = (if Text.Occurs (Text.trim s) x then 100 else 0) + 50 := by
  obtain ⟨hn, hs⟩ := Rules.empties_iff.1 h
  have ho : Text.Occurs (Text.strip s) (Text.strip x) := hs ▸ Text.occurs_empty _
  simp only [textScore, Term.matchTokens_of_empties h, hn, ho, and_self, if_true, List.countP_nil,
    Nat.mul_zero, Nat.add_zero]

end Terms

def Reading.ofTexts (text : Column → Option String) : Reading Unit where
  like _ := TextView.likeIn text
  equal _ _ _ := .unknown
  linked _ _ := []
  tied _ _ := .unknown

/-- A term matches every text where normalization leaves nothing of it, and there alone. Each text
then gets the same points for its stripped form, and there are no words to give more. In all other
cases no pattern fits everything, and the empty text is not matched. -/
theorem everything_matched_iff {s : String} (hs : Text.trim s ≠ "") (r : Rules) :
    (∀ c : Column,
      (∀ (ρ : Type) (I : Reading ρ) (p : ρ) (text : Column → Option String) (x : String),
        I.like p = TextView.likeIn text → text c = some x →
        (Engine.ilike.condition c (.ofText s r) r).truth I p = .yes) ↔ r.Empties s) ∧
    (r.Empties s → (Term.ofText s r).matchTokens r = [] ∧
      ∀ (text : Column → Option String) (c : Column) (x : String), text c = some x →
        (Engine.ilike.score c (.ofText s r) r).value (TextView.likeIn text) =
          some ((if Text.Occurs (Text.trim s) x then 100 else 0) + 50)) ∧
    (∀ c : Column,
      (.text "%%" ∈ (Engine.ilike.condition c (.ofText s r) r).values ↔ r.Empties s) ∧
      (.text "%%" ∈ (Engine.ilike.score c (.ofText s r) r).values ↔ r.Empties s)) ∧
    (¬ r.Empties s →
      ∀ (ρ : Type) (I : Reading ρ) (p : ρ) (text : Column → Option String) (c : Column),
        I.like p = TextView.likeIn text → text c = some "" →
        (Engine.ilike.condition c (.ofText s r) r).truth I p = .no) := by
  have hempty (h : ¬ r.Empties s) (ρ : Type) (I : Reading ρ) (p : ρ)
      (text : Column → Option String) (c : Column) (hI : I.like p = TextView.likeIn text)
      (hc : text c = some "") : (Engine.ilike.condition c (.ofText s r) r).truth I p = .no := by
    rw [Engine.truth_ilike_text I hI, hc, Option.map_some,
      decide_eq_false (Rules.not_accepts_empty hs h)]
    rfl
  refine ⟨fun c => ⟨?_, ?_⟩, fun h => ⟨Term.matchTokens_of_empties h, ?_⟩, fun c => ⟨?_, ?_⟩, hempty⟩
  · intro hall
    by_contra h
    have hyes := hall Unit (.ofTexts fun _ => some "") () (fun _ => some "") "" rfl rfl
    have hno := hempty h Unit (.ofTexts fun _ => some "") () (fun _ => some "") c rfl rfl
    cases hyes.symm.trans hno
  · intro h ρ I p text x hI hx
    exact (Engine.truth_ilike_text_iff I hI c s r).2 ⟨x, hx, Rules.accepts_of_empties h x⟩
  · intro text c x hx
    rw [Engine.value_score_text hx, Engine.textScore_of_empties h]
  · rw [Engine.values_condition_ilike, Value.mem_map_containing_iff,
      Term.empty_mem_filterTexts_iff hs]
  · rw [Engine.values_score_ilike, Value.mem_map_containing_iff, Term.empty_mem_orderTexts_iff hs]

/-- A letter that is not of ASCII counts as punctuation does. -/
theorem everything_matched_dashes :
    Text.trim " -東- " ≠ "" ∧ (Config.rules {} {}).Empties " -東- " ∧
    (∀ (ρ : Type) (I : Reading ρ) (p : ρ) (text : Column → Option String) (c : Column) (x : String),
      I.like p = TextView.likeIn text → text c = some x →
      (Engine.ilike.condition c (.ofText " -東- " (Config.rules {} {}))
        (Config.rules {} {})).truth I p = .yes) ∧
    ¬ (Config.rules {} { normalize := some false }).Empties " -東- " ∧
    ∀ c : Column, .text "%%" ∉ (Engine.ilike.condition c
      (.ofText " -東- " (Config.rules {} { normalize := some false }))
      (Config.rules {} { normalize := some false })).values := by
  have hs : Text.trim " -東- " ≠ "" := by decide
  have hempties : (Config.rules {} {}).Empties " -東- " := by decide
  have hkept : ¬ (Config.rules {} { normalize := some false }).Empties " -東- " := by decide
  obtain ⟨hall, -, -, -⟩ := everything_matched_iff hs (Config.rules {} {})
  obtain ⟨-, -, hpatterns, -⟩ :=
    everything_matched_iff hs (Config.rules {} { normalize := some false })
  exact ⟨hs, hempties, fun ρ I p text c x hI hx => (hall c).2 hempties ρ I p text x hI hx, hkept,
    fun c => mt (hpatterns c).1.1 hkept⟩

end TermSearch
