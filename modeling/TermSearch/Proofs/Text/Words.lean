import Mathlib.Data.List.DropRight
import TermSearch.Proofs.Text.Placement
import TermSearch.Text.Alphanumeric
import TermSearch.Text.Blank

/-! Words and trimming. Blanks at the ends of a text are no part of its words, and a second
trimming changes nothing. -/

namespace TermSearch.Text

theorem trimmedChars_eq (s : List Char) :
    trimmedChars s = (s.dropWhile isBlank).rdropWhile isBlank := rfl

theorem dropWhile_trimmedChars (s : List Char) :
    (trimmedChars s).dropWhile isBlank = trimmedChars s := by
  rw [List.dropWhile_eq_self_iff]
  intro hl hb
  have hp : trimmedChars s <+: s.dropWhile isBlank := List.rdropWhile_prefix isBlank _
  obtain ⟨t, ht⟩ := hp
  have hne : s.dropWhile isBlank ≠ [] := by
    intro he
    rw [he, List.append_eq_nil_iff] at ht
    rw [ht.1] at hl
    exact absurd hl (by decide)
  have hhead := List.head_dropWhile_not isBlank hne
  have he : (s.dropWhile isBlank).head hne = (trimmedChars s)[0] := by
    rw [← List.getElem_zero (by rw [← ht, List.length_append]; omega)]
    simp only [← ht, List.getElem_append_left hl]
  rw [he, hb] at hhead
  exact absurd hhead (by decide)

theorem rdropWhile_trimmedChars (s : List Char) :
    (trimmedChars s).rdropWhile isBlank = trimmedChars s :=
  List.rdropWhile_idempotent isBlank _

theorem trimmedChars_trimmedChars (s : List Char) :
    trimmedChars (trimmedChars s) = trimmedChars s := by
  rw [trimmedChars_eq, dropWhile_trimmedChars, rdropWhile_trimmedChars]

theorem head?_trimmedChars {s : List Char} {c : Char} (h : c ∈ (trimmedChars s).head?) :
    isBlank c = false := by
  have hd := List.dropWhile_eq_self_iff.1 (dropWhile_trimmedChars s)
  generalize trimmedChars s = t at h hd
  cases t with
  | nil => exact nomatch h
  | cons b t =>
    obtain rfl := Option.some.inj h
    exact Bool.eq_false_iff.2 (hd (Nat.succ_pos _))

theorem getLast?_trimmedChars {s : List Char} {c : Char} (h : c ∈ (trimmedChars s).getLast?) :
    isBlank c = false := by
  obtain ⟨hne, rfl⟩ := List.mem_getLast?_eq_getLast h
  exact Bool.eq_false_iff.2
    (List.rdropWhile_eq_self_iff.1 (rdropWhile_trimmedChars s) hne)

theorem dropWhile_blanks_append {u : List Char} (hu : ∀ c ∈ u, isBlank c = true) (s : List Char) :
    (u ++ s).dropWhile isBlank = s.dropWhile isBlank :=
  List.dropWhile_append_of_pos hu

theorem rdropWhile_append_blanks (s : List Char) {v : List Char}
    (hv : ∀ c ∈ v, isBlank c = true) : (s ++ v).rdropWhile isBlank = s.rdropWhile isBlank := by
  rw [List.rdropWhile, List.rdropWhile, List.reverse_append, dropWhile_blanks_append]
  exact fun c hc => hv c (List.mem_reverse.1 hc)

theorem trimmedChars_surrounded {u v : List Char} (hu : ∀ c ∈ u, isBlank c = true)
    (hv : ∀ c ∈ v, isBlank c = true) (s : List Char) :
    trimmedChars (u ++ s ++ v) = trimmedChars s := by
  rw [trimmedChars_eq, trimmedChars_eq, List.append_assoc, dropWhile_blanks_append hu,
    List.dropWhile_append]
  split
  next h =>
    have hs : s.dropWhile isBlank = [] := List.isEmpty_iff.1 h
    rw [hs, List.dropWhile_eq_nil_iff.2 hv]
  next => exact rdropWhile_append_blanks _ hv

@[simp] theorem trim_trim (s : String) : trim (trim s) = trim s :=
  String.ext (by rw [toList_trim, toList_trim, trimmedChars_trimmedChars])

theorem trim_surrounded {u v : String} (hu : ∀ c ∈ u.toList, isBlank c = true)
    (hv : ∀ c ∈ v.toList, isBlank c = true) (s : String) : trim (u ++ s ++ v) = trim s :=
  String.ext (by rw [toList_trim, toList_trim, String.toList_append, String.toList_append,
    trimmedChars_surrounded hu hv])

theorem exists_blanks_trimmedChars (s : List Char) :
    ∃ u v, s = u ++ trimmedChars s ++ v ∧ (∀ c ∈ u, isBlank c = true) ∧
      ∀ c ∈ v, isBlank c = true := by
  refine ⟨s.takeWhile isBlank, (s.dropWhile isBlank).rtakeWhile isBlank, ?_, ?_, ?_⟩
  · rw [trimmedChars_eq, List.append_assoc, List.rdropWhile_append_rtakeWhile,
      List.takeWhile_append_dropWhile]
  · intro c hc
    exact List.mem_takeWhile_imp hc
  · intro c hc
    exact List.mem_rtakeWhile_imp hc

theorem trimmedChars_eq_nil_iff (s : List Char) :
    trimmedChars s = [] ↔ ∀ c ∈ s, isBlank c = true := by
  constructor
  · intro h c hc
    obtain ⟨u, v, hs, hu, hv⟩ := exists_blanks_trimmedChars s
    rw [hs, h, List.append_nil] at hc
    rcases List.mem_append.1 hc with hc | hc
    · exact hu c hc
    · exact hv c hc
  · intro h
    rw [trimmedChars_eq, List.dropWhile_eq_nil_iff.2 h, List.rdropWhile_nil]

theorem trim_eq_empty_iff (s : String) : trim s = "" ↔ ∀ c ∈ s.toList, isBlank c = true := by
  rw [← trimmedChars_eq_nil_iff, ← toList_trim, String.toList_eq_nil_iff]

theorem wordChars_append_blank (s t : List Char) {b : Char} (h : isBlank b = true) :
    wordChars (s ++ b :: t) = wordChars s ++ wordChars t := by
  rw [wordChars, List.splitOnP_append_cons s t h, List.filter_append]
  rfl

theorem wordChars_cons_blank {b : Char} (h : isBlank b = true) (s : List Char) :
    wordChars (b :: s) = wordChars s := by
  have hs : wordChars ([] ++ b :: s) = wordChars [] ++ wordChars s := wordChars_append_blank [] s h
  exact hs

theorem wordChars_append_blanks (s : List Char) {v : List Char} (h : ∀ c ∈ v, isBlank c = true) :
    wordChars (s ++ v) = wordChars s := by
  induction v generalizing s with
  | nil => rw [List.append_nil]
  | cons b v ih =>
    have hb : isBlank b = true := h b (List.mem_cons_self ..)
    have hv : ∀ c ∈ v, isBlank c = true := fun c hc => h c (List.mem_cons_of_mem _ hc)
    have he : wordChars v = [] := ih [] hv
    rw [wordChars_append_blank s v hb, he, List.append_nil]

theorem wordChars_blanks_append {u : List Char} (h : ∀ c ∈ u, isBlank c = true) (s : List Char) :
    wordChars (u ++ s) = wordChars s := by
  induction u with
  | nil => rfl
  | cons b u ih =>
    have hb : isBlank b = true := h b (List.mem_cons_self ..)
    have hu : ∀ c ∈ u, isBlank c = true := fun c hc => h c (List.mem_cons_of_mem _ hc)
    rw [List.cons_append, wordChars_cons_blank hb, ih hu]

theorem wordChars_append_of_head? (s : List Char) {t : List Char}
    (h : ∀ b ∈ t.head?, isBlank b = true) : wordChars (s ++ t) = wordChars s ++ wordChars t := by
  cases t with
  | nil => exact (congrArg wordChars (List.append_nil s)).trans (List.append_nil _).symm
  | cons b t =>
    have hb : isBlank b = true := h b rfl
    rw [wordChars_append_blank s t hb, wordChars_cons_blank hb]

theorem wordChars_append_of_getLast? {s : List Char} (h : ∀ b ∈ s.getLast?, isBlank b = true)
    (t : List Char) : wordChars (s ++ t) = wordChars s ++ wordChars t := by
  rcases List.eq_nil_or_concat s with rfl | ⟨u, b, rfl⟩
  · rfl
  · rw [List.concat_eq_append] at h ⊢
    have hb : isBlank b = true := h b List.getLast?_concat
    have hu : wordChars (u ++ [b]) = wordChars u :=
      wordChars_append_blanks u (by simpa using hb)
    rw [hu, List.append_assoc]
    exact wordChars_append_blank u t hb

theorem wordChars_eq_singleton {w : List Char} (hne : w ≠ [])
    (h : ∀ c ∈ w, isBlank c = false) : wordChars w = [w] := by
  rw [wordChars, List.splitOnP_eq_singleton h]
  simp [hne]

theorem words_append_blank (s t : String) {b : Char} (h : isBlank b = true) :
    words (s ++ String.singleton b ++ t) = words s ++ words t := by
  have hchars : (s ++ String.singleton b ++ t).toList = s.toList ++ b :: t.toList := by simp
  rw [words, hchars, wordChars_append_blank _ _ h, List.map_append]
  rfl

def Boundary (before after : String) : Prop :=
  (∀ b ∈ before.toList.getLast?, isBlank b = true) ∨ ∀ b ∈ after.toList.head?, isBlank b = true

theorem Boundary.words_append {before after : String} (h : Boundary before after) :
    words (before ++ after) = words before ++ words after := by
  simp only [words, String.toList_append, ← List.map_append]
  rcases h with h | h
  · rw [wordChars_append_of_getLast? h]
  · rw [wordChars_append_of_head? _ h]

structure Delimited (before word after : String) : Prop where
  nonempty : word ≠ ""
  solid : ∀ c ∈ word.toList, isBlank c = false
  before : ∀ b ∈ before.toList.getLast?, isBlank b = true
  after : ∀ b ∈ after.toList.head?, isBlank b = true

theorem delimited_iff {before word after : String} :
    Delimited before word after ↔ word ≠ "" ∧ word.toList.any isBlank = false ∧
      before.toList.getLast?.all isBlank = true ∧ after.toList.head?.all isBlank = true := by
  simp only [List.any_eq_false, Option.all_eq_true, Bool.not_eq_true]
  exact ⟨fun h => ⟨h.nonempty, h.solid, h.before, h.after⟩,
    fun ⟨hne, hsolid, hbefore, hafter⟩ => ⟨hne, hsolid, hbefore, hafter⟩⟩

instance (before word after : String) : Decidable (Delimited before word after) :=
  decidable_of_iff _ delimited_iff.symm

namespace Delimited

variable {before word after : String}

theorem words_word (h : Delimited before word after) : words word = [word] := by
  have hne : word.toList ≠ [] := mt String.toList_eq_nil_iff.1 h.nonempty
  rw [words, wordChars_eq_singleton hne h.solid, List.map_singleton, String.ofList_toList]

theorem words_before (h : Delimited before word after) :
    words (before ++ word) = words before ++ words word :=
  Boundary.words_append (.inl h.before)

theorem words_append (h : Delimited before word after) :
    words (before ++ word ++ after) = words (before ++ word) ++ words after :=
  Boundary.words_append (.inr h.after)

theorem words_removed (h : Delimited before word after) :
    words (before ++ after) = words before ++ words after :=
  Boundary.words_append (.inr h.after)

end Delimited

theorem words_append_blanks (s : String) {v : String} (hv : ∀ c ∈ v.toList, isBlank c = true) :
    words (s ++ v) = words s := by
  rw [words, words, String.toList_append, wordChars_append_blanks _ hv]

theorem words_blanks_append {u : String} (hu : ∀ c ∈ u.toList, isBlank c = true) (s : String) :
    words (u ++ s) = words s := by
  rw [words, words, String.toList_append, wordChars_blanks_append hu]

@[simp] theorem words_trim (s : String) : words (trim s) = words s := by
  obtain ⟨u, v, hs, hu, hv⟩ := exists_blanks_trimmedChars s.toList
  rw [words, words, toList_trim]
  conv_rhs => rw [hs, wordChars_append_blanks _ hv, wordChars_blanks_append hu]

theorem flatten_splitOnP (p : Char → Bool) (s : List Char) :
    (s.splitOnP p).flatten = s.filter fun c => !p c := by
  induction s with
  | nil => rfl
  | cons c s ih =>
    rw [List.splitOnP_cons_eq_if_modifyHead, List.filter_cons]
    cases hp : p c with
    | true => simpa using ih
    | false =>
      obtain ⟨w, ws, hs⟩ := List.exists_cons_of_ne_nil (List.splitOnP_ne_nil p s)
      rw [hs] at ih ⊢
      simpa using ih

theorem flatten_wordChars (s : List Char) :
    (wordChars s).flatten = s.filter fun c => !isBlank c := by
  rw [wordChars, List.flatten_filter_not_isEmpty, flatten_splitOnP]

theorem words_eq_nil_iff (s : String) : words s = [] ↔ ∀ c ∈ s.toList, isBlank c = true := by
  rw [words, List.map_eq_nil_iff]
  constructor
  · intro h
    have hflat := flatten_wordChars s.toList
    rw [h, List.flatten_nil, eq_comm, List.filter_eq_nil_iff] at hflat
    simpa using hflat
  · exact wordChars_append_blanks []

theorem trim_eq_empty_congr {s t : String} (h : words s = words t) : trim s = "" ↔ trim t = "" := by
  rw [trim_eq_empty_iff, trim_eq_empty_iff, ← words_eq_nil_iff, ← words_eq_nil_iff, h]

theorem exists_splitOnP_eq (p : Char → Bool) (s : List Char) :
    ∃ w ws rest, s.splitOnP p = w :: ws ∧ s = w ++ rest ∧ Placed ws rest := by
  induction s with
  | nil => exact ⟨[], [], [], rfl, rfl, .nil []⟩
  | cons c s ih =>
    obtain ⟨w, ws, rest, hs, rfl, hws⟩ := ih
    rw [List.splitOnP_cons_eq_if_modifyHead, hs]
    split
    · exact ⟨[], w :: ws, _, rfl, rfl, .cons [c] w hws⟩
    · exact ⟨c :: w, ws, rest, rfl, rfl, hws⟩

theorem placed_wordChars (s : List Char) : Placed (wordChars s) s := by
  obtain ⟨w, ws, rest, hs, he, hws⟩ := exists_splitOnP_eq isBlank s
  have hsplit : Placed (s.splitOnP isBlank) s := by
    rw [hs, he]
    exact .cons [] w hws
  exact hsplit.sublist List.filter_sublist

theorem isPlain_of_isBlank {c : Char} (h : isBlank c = true) : isPlain c = false := by
  rw [Bool.eq_false_iff]
  intro hp
  simp only [isBlank, isPlain, Bool.or_eq_true, Bool.and_eq_true, decide_eq_true_eq,
    beq_iff_eq] at h hp
  omega

theorem filter_isPlain_eq_flatMap (s : List Char) :
    s.filter isPlain = (wordChars s).flatMap (List.filter isPlain) := by
  have hflat : (wordChars s).flatten.filter isPlain = s.filter isPlain := by
    rw [flatten_wordChars, List.filter_filter]
    refine List.filter_congr fun c _ => ?_
    cases hb : isBlank c with
    | true => rw [isPlain_of_isBlank hb]; rfl
    | false => exact Bool.and_true _
  rw [← hflat, List.filter_flatten, List.flatMap_def]

theorem toList_strip_eq_flatMap_words (s : String) :
    (strip s).toList = (words s).flatMap fun word => (strip word).toList := by
  rw [toList_strip, filter_isPlain_eq_flatMap, words, List.flatMap_map]
  simp only [toList_strip, String.toList_ofList]

theorem strip_congr {s t : String} (h : words s = words t) : strip s = strip t :=
  String.ext (by rw [toList_strip_eq_flatMap_words, h, ← toList_strip_eq_flatMap_words])

@[simp] theorem strip_trim (s : String) : strip (trim s) = strip s :=
  strip_congr (words_trim s)

end TermSearch.Text
