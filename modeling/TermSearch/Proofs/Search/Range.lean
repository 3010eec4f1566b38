import Mathlib.Algebra.Order.BigOperators.Group.List
import Mathlib.Algebra.Order.Group.Nat
import TermSearch.Proofs.Search.Ranking
import TermSearch.Proofs.Tokens

/-! Scores in range. A token takes three characters of its term at least, and another one parts it
from the next, so only a very long term could have more points than an integer holds. -/

namespace TermSearch

open Text

theorem Text.length_strip_le (s : String) : (strip s).length ≤ s.length := by
  rw [← String.length_toList, ← String.length_toList, toList_strip]
  exact List.length_filter_le _ _

theorem Text.sum_length_splitOnP (p : Char → Bool) (s : List Char) :
    ((s.splitOnP p).map fun w => w.length + 1).sum = s.length + 1 := by
  induction s with
  | nil => rfl
  | cons c s ih =>
    obtain ⟨w, ws, hs⟩ := List.exists_cons_of_ne_nil (List.splitOnP_ne_nil p s)
    rw [List.splitOnP_cons_eq_if_modifyHead]
    rw [hs, List.map_cons, List.sum_cons] at ih
    rw [hs]
    split
    · rw [List.map_cons, List.map_cons, List.sum_cons, List.sum_cons, ih, List.length_cons,
        List.length_nil, Nat.add_comm]
    · rw [List.modifyHead_cons, List.map_cons, List.sum_cons, List.length_cons, List.length_cons]
      omega

theorem Text.sum_length_words_le (s : String) :
    ((words s).map fun word => word.length + 1).sum ≤ s.length + 1 := by
  have hlength : ((words s).map fun word => word.length + 1) =
      (wordChars s.toList).map fun w => w.length + 1 := by
    rw [words, List.map_map]
    exact List.map_congr_left fun w _ => by simp
  have hparts : List.Sublist ((wordChars s.toList).map fun w => w.length + 1)
      ((s.toList.splitOnP isBlank).map fun w => w.length + 1) :=
    List.filter_sublist.map _
  rw [hlength, ← String.length_toList, ← sum_length_splitOnP isBlank]
  exact hparts.sum_le_sum fun n _ => Nat.zero_le n

theorem length_of_mem_tokenWords {word s : String} {r : Rules} (hr : r.wordBasedMatching = true)
    (h : word ∈ tokenWords s r) : 3 ≤ word.length := by
  rw [tokenWords, if_pos hr] at h
  have hlong := ((r.isSignificant_iff _).1 (List.mem_filter.1 h).2).1
  exact hlong.trans_le (length_strip_le word)

theorem Term.four_mul_length_matchTokens_le (s : String) (r : Rules) :
    4 * ((ofText s r).matchTokens r).length ≤ s.length + 1 := by
  rw [matchTokens_ofText]
  split
  next hr =>
    have hword : ∀ n ∈ (tokenWords s r).map fun word => word.length + 1, 4 ≤ n := by
      intro n hn
      obtain ⟨word, hw, rfl⟩ := List.mem_map.1 hn
      exact Nat.succ_le_succ (length_of_mem_tokenWords hr hw)
    have hkept : List.Sublist ((tokenWords s r).map fun word => word.length + 1)
        ((words s).map fun word => word.length + 1) := (tokenWords_sublist s r).map _
    calc 4 * (tokenize s r).length
        = ((tokenWords s r).map fun word => word.length + 1).length • 4 := by
          rw [← map_strip_tokenWords, List.length_map, List.length_map, Nat.nsmul_eq_mul,
            Nat.mul_comm]
      _ ≤ ((tokenWords s r).map fun word => word.length + 1).sum := List.card_nsmul_le_sum _ 4 hword
      _ ≤ ((words s).map fun word => word.length + 1).sum :=
          hkept.sum_le_sum fun n _ => Nat.zero_le n
      _ ≤ s.length + 1 := sum_length_words_le s
  next => exact Nat.zero_le _

namespace Score

theorem weightSum_le_of_prefix {s : Score} {before : List Branch} (h : before <+: s.branches) :
    weightSum ⟨s.column, before⟩ ≤ s.weightSum :=
  (h.sublist.map _).sum_le_sum fun n _ => Nat.zero_le n

theorem points_le_weightSum (like : TextView → String → Truth) (s : Score) :
    s.points like ≤ s.weightSum := by
  refine List.sum_le_sum fun b _ => ?_
  rw [Branch.points]
  split
  · exact Nat.le_refl _
  · exact Nat.zero_le _

end Score

namespace Engine

theorem topScore_lt {s : String} (h : s.length < 2 ^ 29) (r : Rules) : topScore s r < 2 ^ 31 := by
  have htokens := Term.four_mul_length_matchTokens_le s r
  have hnormalized : (if r.normalize = true then 50 else 0) ≤ 50 := by split <;> omega
  rw [topScore]
  omega

/-- The score of a term that is not too long is the number it is meant to be: no sum on the way to it
wraps, an integer holds it, and no row is worth more. -/
theorem score_in_range (s : String) (r : Rules) (h : s.length < 2 ^ 29) (c : Column) :
    (∀ before, before <+: (ilike.score c (.ofText s r) r).branches →
      (Score.highest ⟨c, before⟩).toNat = Score.weightSum ⟨c, before⟩) ∧
    (ilike.score c (.ofText s r) r).highest.toNat =
      100 + (if r.normalize = true then 50 else 0) +
        10 * ((Term.ofText s r).matchTokens r).length ∧
    (ilike.score c (.ofText s r) r).highest.toNat < 2 ^ 31 ∧
    ∀ like : TextView → String → Truth, ∃ n,
      (ilike.score c (.ofText s r) r).value like = some n ∧
        n ≤ (ilike.score c (.ofText s r) r).highest.toNat := by
  have hsum : (ilike.score c (.ofText s r) r).weightSum = topScore s r := weightSum_score_ilike c s r
  have htop : topScore s r < 2 ^ 31 := topScore_lt h r
  have hsize : (ilike.score c (.ofText s r) r).weightSum < UInt32.size := by
    rw [hsum]
    exact htop.trans (by decide)
  have hhighest := Score.toNat_highest hsize
  refine ⟨fun before hbefore => ?_, ?_, ?_, fun like => ?_⟩
  · exact Score.toNat_highest ((Score.weightSum_le_of_prefix hbefore).trans_lt hsize)
  · rw [hhighest, hsum, topScore]
  · rwa [hhighest, hsum]
  · refine ⟨_, Score.value_eq_points like _, ?_⟩
    rw [hhighest]
    exact Score.points_le_weightSum like _

def lagosScore : Score :=
  ilike.score ⟨"people", "name"⟩ (.ofText "Jane Doe of Lagos State" (Config.rules {} {}))
    (Config.rules {} {})

theorem score_in_range_lagos :
    "Jane Doe of Lagos State".length < 2 ^ 29 ∧
    lagosScore.branches.take 3 <+: lagosScore.branches ∧
    (Score.highest ⟨⟨"people", "name"⟩, lagosScore.branches.take 3⟩).toNat =
      Score.weightSum ⟨⟨"people", "name"⟩, lagosScore.branches.take 3⟩ ∧
    lagosScore.highest.toNat = 180 ∧
    ∃ n, lagosScore.value (fun _ _ => .yes) = some n ∧ n ≤ 180 := by
  have hlength : "Jane Doe of Lagos State".length < 2 ^ 29 := by decide
  have hbefore : lagosScore.branches.take 3 <+: lagosScore.branches := List.take_prefix _ _
  have htokens : ((Term.ofText "Jane Doe of Lagos State" (Config.rules {} {})).matchTokens
      (Config.rules {} {})).length = 3 := by decide
  obtain ⟨hsums, hhighest, -, hrows⟩ :=
    score_in_range "Jane Doe of Lagos State" (Config.rules {} {}) hlength ⟨"people", "name"⟩
  have htop : lagosScore.highest.toNat = 180 := by
    rw [htokens] at hhighest
    exact hhighest
  refine ⟨hlength, hbefore, hsums _ hbefore, htop, ?_⟩
  rw [← htop]
  exact hrows fun _ _ => .yes

end Engine

end TermSearch
