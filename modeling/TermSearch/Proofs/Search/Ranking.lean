import Mathlib.Algebra.GroupWithZero.Nat
import TermSearch.Proofs.Search.Match

/-! Relevance scores in tiers. A match as typed is also a match without punctuation, and that one a
match of every token, so the points of a lower tier never add up to a higher one. -/

namespace TermSearch

theorem nullableSum_map_some {α : Type} (f : α → Nat) (xs : List α) :
    nullableSum (xs.map fun x => some (f x)) = some (xs.map f).sum := by
  induction xs with
  | nil => rfl
  | cons x xs ih =>
    rw [List.map_cons, nullableSum, ih]
    rfl

theorem greatest_map_some {α : Type} (f : α → Nat) (xs : List α) :
    greatest (xs.map fun x => some (f x)) = (xs.map f).max? := by
  have hid : (id ∘ fun x => some (f x)) = some ∘ f := rfl
  rw [greatest, List.filterMap_map, hid, List.filterMap_eq_map]

def Branch.points (like : TextView → String → Truth) (b : Branch) : Nat :=
  if like b.view b.pattern = .yes then b.weight.toNat else 0

theorem Branch.value_eq_points (like : TextView → String → Truth) (b : Branch) :
    b.value like = some (b.points like) := by
  rw [value, points]
  split
  next h => rw [if_pos h]
  next h => rw [if_neg h]

def Score.points (like : TextView → String → Truth) (s : Score) : Nat :=
  (s.branches.map (Branch.points like)).sum

theorem Score.value_eq_points (like : TextView → String → Truth) (s : Score) :
    s.value like = some (s.points like) := by
  have hf : Branch.value like = fun b => some (b.points like) :=
    funext (Branch.value_eq_points like)
  rw [value, hf, nullableSum_map_some, points]

theorem Score.exists_greatestOf (like : TextView → String → Truth) {scores : List Score}
    (h : scores ≠ []) :
    ∃ m, greatestOf like scores = some m ∧
      ∀ bound, bound ≤ m ↔ ∃ s ∈ scores, bound ≤ s.points like := by
  have hv : Score.value like = fun s => some (s.points like) :=
    funext (Score.value_eq_points like)
  obtain ⟨s, hs⟩ := List.exists_mem_of_ne_nil scores h
  have hp : s.points like ∈ scores.map (points like) := List.mem_map_of_mem hs
  obtain ⟨m, hm⟩ := Option.isSome_iff_exists.mp (List.isSome_max?_of_mem hp)
  refine ⟨m, by rw [greatestOf, hv, greatest_map_some, hm], fun bound => ?_⟩
  obtain ⟨hmem, hmax⟩ := List.max?_eq_some_iff.mp hm
  constructor
  · intro hb
    obtain ⟨t, ht, rfl⟩ := List.mem_map.mp hmem
    exact ⟨t, ht, hb⟩
  · rintro ⟨t, ht, hb⟩
    exact hb.trans (hmax _ (List.mem_map_of_mem ht))

theorem Score.greatestOf_le_of_subset (like : TextView → String → Truth)
    {scores scores' : List Score} (hne : scores ≠ []) (h : scores ⊆ scores') :
    ∃ m n, greatestOf like scores = some m ∧ greatestOf like scores' = some n ∧ m ≤ n := by
  obtain ⟨s, hs⟩ := List.exists_mem_of_ne_nil scores hne
  obtain ⟨m, hm, hreach⟩ := exists_greatestOf like hne
  obtain ⟨n, hn, hreach'⟩ := exists_greatestOf like (List.ne_nil_of_mem (h hs))
  obtain ⟨t, ht, hpoints⟩ := (hreach m).mp (Nat.le_refl m)
  exact ⟨m, n, hm, hn, (hreach' m).mpr ⟨t, h ht, hpoints⟩⟩

theorem Score.greatestOf_eq_of_subset (like : TextView → String → Truth)
    {scores scores' : List Score} (hne : scores ≠ []) (h : scores ⊆ scores')
    (h' : scores' ⊆ scores) :
    greatestOf like scores = greatestOf like scores' := by
  have hne' : scores' ≠ [] := fun he => hne (List.subset_nil.mp (he ▸ h))
  obtain ⟨m, n, hm, hn, hle⟩ := greatestOf_le_of_subset like hne h
  obtain ⟨n', m', hn', hm', hle'⟩ := greatestOf_le_of_subset like hne' h'
  obtain rfl : m = m' := Option.some.inj (hm.symm.trans hm')
  obtain rfl : n = n' := Option.some.inj (hn.symm.trans hn')
  rw [hm, hn, Nat.le_antisymm hle hle']

/-- The weights added as numbers, which no sum exceeds. -/
def Score.weightSum (s : Score) : Nat :=
  (s.branches.map (·.weight.toNat)).sum

theorem Score.highest_eq_ofNat (s : Score) : s.highest = .ofNat s.weightSum := by
  have hfold (ws : List UInt32) (n : Nat) :
      ws.foldl (· + ·) (.ofNat n) = .ofNat (n + (ws.map UInt32.toNat).sum) := by
    induction ws generalizing n with
    | nil => simp
    | cons w ws ih =>
      have hw : UInt32.ofNat n + w = .ofNat (n + w.toNat) := by
        rw [UInt32.ofNat_add, UInt32.ofNat_toNat]
      rw [List.foldl_cons, hw, ih, List.map_cons, List.sum_cons, Nat.add_assoc]
  rw [highest]
  exact (hfold _ 0).trans (by rw [List.map_map, Nat.zero_add]; rfl)

theorem Score.toNat_highest {s : Score} (h : s.weightSum < UInt32.size) :
    s.highest.toNat = s.weightSum := by
  rw [highest_eq_ofNat, UInt32.toNat_ofNat_of_lt' h]

namespace Engine

def topScore (s : String) (r : Rules) : Nat :=
  100 + (if r.normalize = true then 50 else 0) + 10 * ((Term.ofText s r).matchTokens r).length

def textScore (s : String) (r : Rules) (x : String) : Nat :=
  (if Text.Occurs (Text.trim s) x then 100 else 0) +
    (if r.normalize = true ∧ Text.Occurs (Text.strip s) (Text.strip x) then 50 else 0) +
    10 * ((Term.ofText s r).matchTokens r).countP fun token => Text.Occurs token (Text.strip x)

theorem sum_token_points (like : TextView → String → Truth) (v : TextView) (tokens : List String) :
    ((tokens.map fun token => v.branch token tokenWeight).map (Branch.points like)).sum =
      10 * tokens.countP fun token => like v (Text.containing token) = .yes := by
  induction tokens with
  | nil => rfl
  | cons token tokens ih =>
    rw [List.map_cons, List.map_cons, List.sum_cons, ih, List.countP_cons, Nat.mul_add,
      Nat.add_comm]
    congr 1
    by_cases h : like v (Text.containing token) = .yes <;>
      simp [Branch.points, TextView.branch, h, tokenWeight]

theorem value_score_ilike (like : TextView → String → Truth) (c : Column) (t : Term) (r : Rules) :
    (ilike.score c t r).value like =
      some ((if like (.cast c) (Text.containing t.raw) = .yes then 100 else 0) +
        (if r.normalize = true ∧ like (.stripped c) (Text.containing t.normalized) = .yes then 50
          else 0) +
        10 * (t.matchTokens r).countP fun token =>
          like (.stripped c) (Text.containing token) = .yes) := by
  have hr : ((TextView.cast c).branch t.raw rawWeight).points like =
      if like (.cast c) (Text.containing t.raw) = .yes then 100 else 0 := rfl
  have hn : ((if r.normalize = true then [(TextView.stripped c).branch t.normalized normalizedWeight]
        else []).map (Branch.points like)).sum =
      if r.normalize = true ∧ like (.stripped c) (Text.containing t.normalized) = .yes then 50
        else 0 := by
    by_cases h : r.normalize = true
    · simp [h, Branch.points, TextView.branch, normalizedWeight]
    · simp [h]
  rw [Score.value_eq_points, Score.points]
  simp only [ilike, branches, List.cons_append, List.map_cons, List.map_append, List.sum_cons,
    List.sum_append, hr, hn, sum_token_points, Nat.add_assoc]

theorem weightSum_score_ilike (c : Column) (s : String) (r : Rules) :
    (ilike.score c (.ofText s r) r).weightSum = topScore s r := by
  have hw (tokens : List String) : ((tokens.map fun token =>
      (TextView.stripped c).branch token tokenWeight).map (·.weight.toNat)).sum =
      10 * tokens.length := by
    induction tokens with
    | nil => rfl
    | cons token tokens ih =>
      rw [List.map_cons, List.map_cons, List.sum_cons, ih, List.length_cons, Nat.mul_add,
        Nat.add_comm]
      rfl
  have hn : ((if r.normalize = true then
        [(TextView.stripped c).branch (Term.ofText s r).normalized normalizedWeight]
      else []).map (·.weight.toNat)).sum = if r.normalize = true then 50 else 0 := by
    split <;> rfl
  simp only [Score.weightSum, ilike, branches, List.cons_append, List.map_cons, List.map_append,
    List.sum_cons, List.sum_append, hw, hn, topScore, Nat.add_assoc]
  rfl

theorem highest_score_ilike (c : Column) (s : String) (r : Rules) :
    (ilike.score c (.ofText s r) r).highest = .ofNat (topScore s r) := by
  rw [Score.highest_eq_ofNat, weightSum_score_ilike]

theorem toNat_highest_score_ilike {s : String} {r : Rules} (h : topScore s r < UInt32.size)
    (c : Column) : (ilike.score c (.ofText s r) r).highest.toNat = topScore s r := by
  rw [← weightSum_score_ilike c] at h ⊢
  exact Score.toNat_highest h

section Texts

variable {text : Column → Option String} {c : Column} {s : String} {r : Rules}

theorem value_score_null (h : text c = none) :
    (ilike.score c (.ofText s r) r).value (TextView.likeIn text) = some 0 := by
  rw [value_score_ilike]
  simp [TextView.likeIn_cast_eq_yes_iff, TextView.likeIn_stripped_eq_yes_iff, h]

theorem value_score_text {x : String} (h : text c = some x) :
    (ilike.score c (.ofText s r) r).value (TextView.likeIn text) = some (textScore s r x) := by
  rw [value_score_ilike]
  simp only [TextView.likeIn_cast_eq_yes_iff, TextView.likeIn_stripped_eq_yes_iff, h,
    Option.some_inj, exists_eq_left', Term.raw_ofText, Term.normalized_ofText, textScore]

end Texts

theorem countP_matchTokens {s x : String} {r : Rules}
    (h : Text.Occurs (Text.strip s) (Text.strip x)) :
    (((Term.ofText s r).matchTokens r).countP fun token => Text.Occurs token (Text.strip x)) =
      ((Term.ofText s r).matchTokens r).length := by
  rw [List.countP_eq_length]
  intro token ht
  exact decide_eq_true ((Term.occurs_matchTokens ht).trans h)

theorem textScore_of_raw {s x : String} (r : Rules) (h : Text.Occurs (Text.trim s) x) :
    textScore s r x = topScore s r := by
  have hs := Text.occurs_strip_of_trim h
  simp only [textScore, topScore, h, hs, if_true, and_true, countP_matchTokens hs]

theorem textScore_of_stripped {s x : String} {r : Rules} (h : ¬ Text.Occurs (Text.trim s) x)
    (hn : r.normalize = true) (hs : Text.Occurs (Text.strip s) (Text.strip x)) :
    textScore s r x = 50 + 10 * ((Term.ofText s r).matchTokens r).length := by
  simp only [textScore, h, hn, hs, if_false, and_self, if_true, countP_matchTokens hs,
    Nat.zero_add]

theorem textScore_of_words {s x : String} {r : Rules} (h : ¬ Text.Occurs (Text.trim s) x)
    (hs : ¬ (r.normalize = true ∧ Text.Occurs (Text.strip s) (Text.strip x))) :
    textScore s r x = 10 * ((Term.ofText s r).matchTokens r).countP
      fun token => Text.Occurs token (Text.strip x) := by
  simp only [textScore, h, hs, if_false, Nat.zero_add]

theorem textScore_le_of_not_raw {s x : String} {r : Rules} (h : ¬ Text.Occurs (Text.trim s) x) :
    textScore s r x ≤
      (if r.normalize = true then 50 else 0) + 10 * ((Term.ofText s r).matchTokens r).length := by
  simp only [textScore, h, if_false, Nat.zero_add]
  refine Nat.add_le_add ?_ (Nat.mul_le_mul_left 10 List.countP_le_length)
  by_cases hn : r.normalize = true
  · simp only [hn, true_and, if_true]
    split <;> omega
  · simp only [hn, false_and, if_false, Nat.le_refl, Bool.false_eq_true]

def MatchesRaw (text : Column → Option String) (s : String) (c : Column) : Prop :=
  ∃ x, text c = some x ∧ Text.Occurs (Text.trim s) x

def MatchesStripped (text : Column → Option String) (s : String) (c : Column) : Prop :=
  ∃ x, text c = some x ∧ Text.Occurs (Text.strip s) (Text.strip x)

def columnScore (text : Column → Option String) (s : String) (r : Rules) (c : Column) : Nat :=
  match text c with
  | some x => textScore s r x
  | none => 0

section Columns

variable {text other : Column → Option String} {s : String} {r : Rules} {c : Column}

theorem matchesRaw_iff {x : String} (h : text c = some x) :
    MatchesRaw text s c ↔ Text.Occurs (Text.trim s) x := by
  simp only [MatchesRaw, h, Option.some_inj, exists_eq_left']

theorem matchesStripped_iff {x : String} (h : text c = some x) :
    MatchesStripped text s c ↔ Text.Occurs (Text.strip s) (Text.strip x) := by
  simp only [MatchesStripped, h, Option.some_inj, exists_eq_left']

theorem value_score_eq_columnScore (text : Column → Option String) (s : String) (r : Rules)
    (c : Column) :
    (ilike.score c (.ofText s r) r).value (TextView.likeIn text) = some (columnScore text s r c) := by
  rw [columnScore]
  split
  next x h => exact value_score_text h
  next h => exact value_score_null h

theorem columnScore_of_raw (r : Rules) (h : MatchesRaw text s c) :
    columnScore text s r c = topScore s r := by
  obtain ⟨x, hx, ho⟩ := h
  rw [columnScore, hx]
  exact textScore_of_raw r ho

theorem le_columnScore_of_stripped (hn : r.normalize = true) (h : MatchesStripped text s c) :
    50 + 10 * ((Term.ofText s r).matchTokens r).length ≤ columnScore text s r c := by
  obtain ⟨x, hx, ho⟩ := h
  rw [columnScore, hx]
  by_cases hr : Text.Occurs (Text.trim s) x
  · have ht : textScore s r x = topScore s r := textScore_of_raw r hr
    simp only [ht, topScore, hn, if_true]
    omega
  · exact (textScore_of_stripped hr hn ho).ge

theorem columnScore_le_of_not_stripped (hr : ¬ MatchesRaw text s c)
    (h : ¬ MatchesStripped text s c) :
    columnScore text s r c ≤ 10 * ((Term.ofText s r).matchTokens r).length := by
  rw [columnScore]
  split
  next x hx =>
    rw [matchesRaw_iff hx] at hr
    rw [matchesStripped_iff hx] at h
    rw [textScore_of_words hr (mt And.right h)]
    exact Nat.mul_le_mul_left 10 List.countP_le_length
  next => exact Nat.zero_le _

theorem columnScore_lt_of_not_raw (h : ¬ MatchesRaw text s c) :
    columnScore text s r c < topScore s r := by
  rw [columnScore]
  split
  next x hx =>
    rw [matchesRaw_iff hx] at h
    have hle := textScore_le_of_not_raw (r := r) h
    rw [topScore]
    omega
  next =>
    rw [topScore]
    omega

end Columns

theorem greatestOf_lt_greatestOf {text other : Column → Option String} {s : String} {r : Rules}
    {cs : List Column} {c : Column} {bound : Nat} (hc : c ∈ cs)
    (hle : bound ≤ columnScore text s r c)
    (hlt : ∀ c' ∈ cs, columnScore other s r c' < bound) :
    ∃ m n,
      Score.greatestOf (TextView.likeIn text) (cs.map fun c => ilike.score c (.ofText s r) r) =
        some m ∧
      Score.greatestOf (TextView.likeIn other) (cs.map fun c => ilike.score c (.ofText s r) r) =
        some n ∧
      n < m := by
  have hp (f : Column → Option String) (c : Column) :
      (ilike.score c (.ofText s r) r).points (TextView.likeIn f) = columnScore f s r c :=
    Option.some.inj ((Score.value_eq_points _ _).symm.trans (value_score_eq_columnScore f s r c))
  have hne : (cs.map fun c => ilike.score c (.ofText s r) r) ≠ [] :=
    List.ne_nil_of_mem (List.mem_map_of_mem hc)
  obtain ⟨m, hm, hreach⟩ := Score.exists_greatestOf (TextView.likeIn text) hne
  obtain ⟨n, hn, hother⟩ := Score.exists_greatestOf (TextView.likeIn other) hne
  refine ⟨m, n, hm, hn, ?_⟩
  have hbound : bound ≤ m :=
    (hreach bound).mpr ⟨_, List.mem_map_of_mem hc, (hp text c).symm ▸ hle⟩
  obtain ⟨_, hmem, hpoints⟩ := (hother n).mp (Nat.le_refl n)
  obtain ⟨c', hc', rfl⟩ := List.mem_map.mp hmem
  have hunder := hlt c' hc'
  rw [hp] at hpoints
  omega

/-- What a column is worth. The last two parts compare rows by the greatest of their columns:
the tiers stay apart however many tokens the term has. -/
theorem score_tiers (s : String) (r : Rules) :
    (∀ c, (ilike.score c (.ofText s r) r).highest =
      .ofNat (100 + (if r.normalize = true then 50 else 0) +
        10 * ((Term.ofText s r).matchTokens r).length)) ∧
    (∀ (text : Column → Option String) (c : Column), text c = none →
      (ilike.score c (.ofText s r) r).value (TextView.likeIn text) = some 0) ∧
    (∀ (text : Column → Option String) (c : Column) (x : String), text c = some x →
      (Text.Occurs (Text.trim s) x →
        (ilike.score c (.ofText s r) r).value (TextView.likeIn text) =
          some (100 + (if r.normalize = true then 50 else 0) +
            10 * ((Term.ofText s r).matchTokens r).length) ∧
        (100 + (if r.normalize = true then 50 else 0) +
            10 * ((Term.ofText s r).matchTokens r).length < UInt32.size →
          (ilike.score c (.ofText s r) r).value (TextView.likeIn text) =
            some (ilike.score c (.ofText s r) r).highest.toNat)) ∧
      (¬ Text.Occurs (Text.trim s) x → r.normalize = true →
        Text.Occurs (Text.strip s) (Text.strip x) →
        (ilike.score c (.ofText s r) r).value (TextView.likeIn text) =
          some (50 + 10 * ((Term.ofText s r).matchTokens r).length)) ∧
      (¬ Text.Occurs (Text.trim s) x →
        ¬ (r.normalize = true ∧ Text.Occurs (Text.strip s) (Text.strip x)) →
        (ilike.score c (.ofText s r) r).value (TextView.likeIn text) =
          some (10 * ((Term.ofText s r).matchTokens r).countP fun token =>
            Text.Occurs token (Text.strip x)) ∧
        (10 * ((Term.ofText s r).matchTokens r).countP fun token =>
            Text.Occurs token (Text.strip x)) ≤
          10 * ((Term.ofText s r).matchTokens r).length)) ∧
    (∀ (text other : Column → Option String) (cs : List Column),
      (∃ c ∈ cs, MatchesRaw text s c) → (∀ c ∈ cs, ¬ MatchesRaw other s c) →
      ∃ m n,
        Score.greatestOf (TextView.likeIn text) (cs.map fun c => ilike.score c (.ofText s r) r) =
          some m ∧
        Score.greatestOf (TextView.likeIn other) (cs.map fun c => ilike.score c (.ofText s r) r) =
          some n ∧
        n < m) ∧
    (r.normalize = true → ∀ (text other : Column → Option String) (cs : List Column),
      (∃ c ∈ cs, MatchesStripped text s c) →
      (∀ c ∈ cs, ¬ MatchesRaw other s c ∧ ¬ MatchesStripped other s c) →
      ∃ m n,
        Score.greatestOf (TextView.likeIn text) (cs.map fun c => ilike.score c (.ofText s r) r) =
          some m ∧
        Score.greatestOf (TextView.likeIn other) (cs.map fun c => ilike.score c (.ofText s r) r) =
          some n ∧
        n < m) := by
  refine ⟨fun c => highest_score_ilike c s r, fun text c => value_score_null, ?_, ?_, ?_⟩
  · intro text c x hx
    rw [value_score_text hx]
    refine ⟨?_, ?_, ?_⟩
    · intro hraw
      rw [textScore_of_raw r hraw]
      refine ⟨by rw [topScore], fun hsize => ?_⟩
      rw [toNat_highest_score_ilike hsize c]
    · intro hraw hn hs
      rw [textScore_of_stripped hraw hn hs]
    · intro hraw hs
      rw [textScore_of_words hraw hs]
      exact ⟨rfl, Nat.mul_le_mul_left 10 List.countP_le_length⟩
  · intro text other cs hmatch hnone
    obtain ⟨c, hc, hraw⟩ := hmatch
    -- No column reaches the top score without a raw match.
    have htop : topScore s r ≤ columnScore text s r c := (columnScore_of_raw r hraw).ge
    exact greatestOf_lt_greatestOf hc htop fun c' hc' => columnScore_lt_of_not_raw (hnone c' hc')
  · intro hn text other cs hmatch hnone
    obtain ⟨c, hc, hs⟩ := hmatch
    refine greatestOf_lt_greatestOf hc (le_columnScore_of_stripped hn hs) ?_
    -- The tokens of the other row are at most all of them, and those the match counts as well.
    intro c' hc'
    obtain ⟨hraw, hstripped⟩ := hnone c' hc'
    have hle := columnScore_le_of_not_stripped (r := r) hraw hstripped
    omega

def janeScore : Score :=
  ilike.score ⟨"people", "name"⟩ (.ofText "Jane Doe" (Config.rules {} {})) (Config.rules {} {})

theorem score_tiers_people :
    janeScore.highest = 170 ∧
    janeScore.value (TextView.likeIn fun _ => none) = some 0 ∧
    janeScore.value (TextView.likeIn fun _ => some "Ms. jane doe") = some janeScore.highest.toNat ∧
    janeScore.value (TextView.likeIn fun _ => some "Jane-Doe") = some 70 ∧
    janeScore.value (TextView.likeIn fun _ => some "Doe, Jane") = some 20 ∧
    (∃ m n,
      Score.greatestOf (TextView.likeIn fun _ => some "Ms. jane doe") [janeScore] = some m ∧
      Score.greatestOf (TextView.likeIn fun _ => some "Jane-Doe") [janeScore] = some n ∧ n < m) ∧
    (∃ m n,
      Score.greatestOf (TextView.likeIn fun _ => some "Jane-Doe") [janeScore] = some m ∧
      Score.greatestOf (TextView.likeIn fun _ => some "Doe, Jane") [janeScore] = some n ∧
      n < m) := by
  obtain ⟨hhighest, hnull, hvalue, hraw, hstripped⟩ :=
    score_tiers "Jane Doe" (Config.rules {} {})
  have htokens : ((Term.ofText "Jane Doe" (Config.rules {} {})).matchTokens
      (Config.rules {} {})).length = 2 := by decide
  rw [htokens] at hhighest hvalue
  have htyped := hvalue (fun _ => some "Ms. jane doe") ⟨"people", "name"⟩ _ rfl
  have hhyphen := hvalue (fun _ => some "Jane-Doe") ⟨"people", "name"⟩ _ rfl
  have hturned := hvalue (fun _ => some "Doe, Jane") ⟨"people", "name"⟩ _ rfl
  refine ⟨hhighest _, hnull _ _ rfl, ?_, ?_, ?_, ?_, ?_⟩
  · exact (htyped.1 (by decide)).2 (by decide)
  · exact hhyphen.2.1 (by decide) rfl (by decide)
  · exact (hturned.2.2 (by decide) (by decide)).1
  · exact hraw _ _ [⟨"people", "name"⟩] ⟨_, List.mem_singleton_self _, _, rfl, by decide⟩
      fun c _ => mt (matchesRaw_iff rfl).1 (by decide)
  · exact hstripped rfl _ _ [⟨"people", "name"⟩] ⟨_, List.mem_singleton_self _, _, rfl, by decide⟩
      fun c _ => ⟨mt (matchesRaw_iff rfl).1 (by decide), mt (matchesStripped_iff rfl).1 (by decide)⟩

end Engine

end TermSearch
