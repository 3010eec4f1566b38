import Mathlib.Data.List.Infix

/-! Parts of a text that stand in it one after another, without a common character. -/

namespace TermSearch.Text

variable {α : Type} {parts : List (List α)} {s : List α}

/-- From the character at `start` up to the one before `stop`. -/
structure Span where
  start : Nat
  stop : Nat
deriving DecidableEq

namespace Span

def read (i : Span) (s : List α) : List α :=
  s.extract i.start i.stop

def shift (n : Nat) (i : Span) : Span :=
  ⟨n + i.start, n + i.stop⟩

theorem read_shift (u s : List α) (i : Span) : (i.shift u.length).read (u ++ s) = i.read s := by
  rw [read, shift, List.extract, List.drop_length_add_append, Nat.add_sub_add_left, read]

theorem read_between (gap part rest : List α) :
    read ⟨gap.length, gap.length + part.length⟩ (gap ++ part ++ rest) = part := by
  rw [read, List.extract, List.append_assoc, List.drop_left, Nat.add_sub_cancel_left,
    List.take_left]

end Span

structure Marks (spans : List Span) (parts : List (List α)) (s : List α) : Prop where
  read : spans.map (·.read s) = parts
  within : ∀ i ∈ spans, i.start ≤ i.stop ∧ i.stop ≤ s.length
  apart : spans.Pairwise fun i j => i.stop ≤ j.start

theorem Marks.shift {spans : List Span} (h : Marks spans parts s) (u : List α) :
    Marks (spans.map (Span.shift u.length)) parts (u ++ s) := by
  constructor
  · rw [List.map_map, ← h.read]
    exact List.map_congr_left fun i _ => i.read_shift u s
  · intro i hi
    obtain ⟨j, hj, rfl⟩ := List.mem_map.1 hi
    obtain ⟨horder, hend⟩ := h.within j hj
    rw [List.length_append]
    exact ⟨Nat.add_le_add_left horder _, Nat.add_le_add_left hend _⟩
  · exact h.apart.map _ fun _ _ hij => Nat.add_le_add_left hij _

theorem Marks.cons {spans : List Span} {rest : List α} (h : Marks spans parts rest)
    (gap part : List α) :
    Marks (⟨gap.length, gap.length + part.length⟩ ::
      spans.map (Span.shift (gap ++ part).length)) (part :: parts) (gap ++ part ++ rest) := by
  have hrest := h.shift (gap ++ part)
  constructor
  · rw [List.map_cons, Span.read_between, hrest.read]
  · intro i hi
    rcases List.mem_cons.1 hi with rfl | hi
    · simp only [List.length_append]
      omega
    · exact hrest.within i hi
  · refine List.pairwise_cons.2 ⟨fun i hi => ?_, hrest.apart⟩
    obtain ⟨j, -, rfl⟩ := List.mem_map.1 hi
    rw [Span.shift, List.length_append]
    exact Nat.le_add_right _ _

/-- The parts stand in a text one after another, with anything before, between and after them. -/
inductive Placed : List (List α) → List α → Prop where
  | nil (s : List α) : Placed [] s
  | cons (gap part : List α) {parts : List (List α)} {rest : List α} (h : Placed parts rest) :
    Placed (part :: parts) (gap ++ part ++ rest)

namespace Placed

theorem append_left (h : Placed parts s) (u : List α) : Placed parts (u ++ s) := by
  cases h with
  | nil => exact .nil _
  | cons gap part h =>
    rw [← List.append_assoc, ← List.append_assoc]
    exact .cons (u ++ gap) part h

theorem tail {part : List α} (h : Placed (part :: parts) s) : Placed parts s := by
  cases h with
  | cons gap part h => exact h.append_left (gap ++ part)

theorem sublist {kept : List (List α)} (h : Placed parts s) (hk : List.Sublist kept parts) :
    Placed kept s := by
  induction hk generalizing s with
  | slnil => exact h
  | cons part _ ih => exact ih h.tail
  | cons_cons part _ ih =>
    cases h with
    | cons gap part h => exact .cons gap part (ih h)

theorem isInfix_of_mem {part : List α} (h : Placed parts s) (hp : part ∈ parts) : part <:+: s := by
  induction h with
  | nil => exact absurd hp List.not_mem_nil
  | cons gap first _ ih =>
    rcases List.mem_cons.1 hp with rfl | hp
    · exact ⟨gap, _, rfl⟩
    · exact (ih hp).trans (List.suffix_append _ _).isInfix

theorem exists_marks (h : Placed parts s) : ∃ spans, Marks spans parts s := by
  induction h with
  | nil s => exact ⟨[], rfl, nofun, .nil⟩
  | cons gap part h ih =>
    obtain ⟨spans, hmarks⟩ := ih
    exact ⟨_, hmarks.cons gap part⟩

end Placed

theorem placed_flatten (parts : List (List α)) : Placed parts parts.flatten := by
  induction parts with
  | nil => exact .nil _
  | cons part parts ih => exact .cons [] part ih

end TermSearch.Text
