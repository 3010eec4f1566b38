import TermSearch.Proofs.Search.Failing

/-! Column entries read and written. A text is cut at its dots in one way, so that an entry is read from
the text that it is written as and from no other, and a text without an entry has a part too many or
an empty one. -/

namespace TermSearch.Entry

theorem not_mem_of_mem_splitOn {a : Char} {s part : List Char} (h : part ∈ s.splitOn a) :
    a ∉ part := by
  induction s generalizing part with
  | nil =>
    rw [List.splitOn_nil] at h
    obtain rfl := List.mem_singleton.1 h
    exact List.not_mem_nil
  | cons c s ih =>
    obtain ⟨first, rest, hs⟩ := List.exists_cons_of_ne_nil (List.splitOn_ne_nil a s)
    rw [hs] at ih
    rw [List.splitOn_cons_eq_if_modifyHead, hs] at h
    split at h
    · rcases List.mem_cons.1 h with rfl | h
      · exact List.not_mem_nil
      · exact ih h
    next hc =>
      rcases List.mem_cons.1 h with rfl | h
      · have hfirst : a ∉ first := ih (List.mem_cons_self ..)
        rw [List.mem_cons, not_or]
        exact ⟨fun he => hc (beq_iff_eq.2 he.symm), hfirst⟩
      · exact ih (List.mem_cons_of_mem _ h)

structure Divides (parts : List String) (text : String) : Prop where
  nonempty : parts ≠ []
  dotless : ∀ part ∈ parts, '.' ∉ part.toList
  joined : ".".intercalate parts = text

theorem toList_segments (text : String) :
    (segments text).map String.toList = text.toList.splitOn '.' := by
  have hparts : String.toList ∘ String.ofList = id := funext fun _ => String.toList_ofList
  rw [segments, List.map_map, hparts, List.map_id]
  rfl

theorem divides_segments (text : String) : Divides (segments text) text where
  nonempty := segments_ne_nil text
  dotless part hpart := by
    have hchars : part.toList ∈ text.toList.splitOn '.' := by
      rw [← toList_segments]
      exact List.mem_map_of_mem hpart
    exact not_mem_of_mem_splitOn hchars
  joined := by
    apply String.ext
    rw [String.toList_intercalate, toList_segments]
    exact List.intercalate_splitOn '.'

theorem divides_iff {parts : List String} {text : String} :
    Divides parts text ↔ parts = segments text := by
  constructor
  · intro h
    have hdotless : ∀ part ∈ parts.map String.toList, '.' ∉ part := by
      intro chars hchars
      obtain ⟨part, hpart, rfl⟩ := List.mem_map.1 hchars
      exact h.dotless part hpart
    have hsplit : (['.'].intercalate (parts.map String.toList)).splitOn '.' =
        parts.map String.toList :=
      List.splitOn_intercalate '.' hdotless (mt List.map_eq_nil_iff.1 h.nonempty)
    have hjoined : text.toList = ['.'].intercalate (parts.map String.toList) := by
      rw [← h.joined, String.toList_intercalate]
      rfl
    rw [← hjoined, ← toList_segments] at hsplit
    exact (List.map_injective_iff.2 (fun _ _ => String.ext) hsplit).symm
  · rintro rfl
    exact divides_segments text

def parts : Entry → List String
  | .own column => [column]
  | .related relation column => [relation, column]

theorem intercalate_parts (e : Entry) : ".".intercalate e.parts = e.text := by
  cases e with
  | own column => exact String.intercalate_singleton
  | related relation column =>
    rw [parts, String.intercalate_cons_cons, String.intercalate_singleton, text]

theorem parts_injective : Function.Injective parts := by
  intro e e' h
  cases e <;> cases e' <;> simp_all [parts]

theorem ofText_eq_ok_iff {text : String} {e : Entry} :
    ofText text = .ok e ↔ e.parts = segments text ∧ "" ∉ e.parts := by
  by_cases hempty : "" ∈ segments text
  · have herror := ofText_eq_error_iff.2 (Malformed.emptySegment hempty)
    rw [herror]
    refine iff_of_false (by simp) ?_
    rintro ⟨hparts, hne⟩
    exact hne (hparts ▸ hempty)
  · have hnone : (segments text).any (·.isEmpty) = false := by
      rw [Bool.eq_false_iff, Ne, any_isEmpty_segments_iff]
      exact hempty
    have hread : ofText text = .ok e ↔ e.parts = segments text := by
      simp only [ofText, hnone, Bool.false_eq_true, if_false]
      split
      next column hs =>
        rw [hs, Except.ok.injEq, ← parts_injective.eq_iff, eq_comm, parts]
      next relation column hs =>
        rw [hs, Except.ok.injEq, ← parts_injective.eq_iff, eq_comm, parts]
      next hone htwo =>
        refine iff_of_false (by simp) fun hparts => ?_
        cases e with
        | own column => exact hone column hparts.symm
        | related relation column => exact htwo relation column hparts.symm
    rw [hread]
    exact ⟨fun hparts => ⟨hparts, hparts ▸ hempty⟩, fun h => h.1⟩

theorem ofText_eq_ok_iff_text {text : String} {e : Entry} :
    ofText text = .ok e ↔ e.text = text ∧ ∀ part ∈ e.parts, part ≠ "" ∧ '.' ∉ part.toList := by
  have hne : e.parts ≠ [] := by cases e <;> exact List.cons_ne_nil _ _
  rw [ofText_eq_ok_iff, ← divides_iff]
  constructor
  · rintro ⟨hdivides, hempty⟩
    refine ⟨(intercalate_parts e).symm.trans hdivides.joined, fun part hpart => ⟨?_, ?_⟩⟩
    · rintro rfl
      exact hempty hpart
    · exact hdivides.dotless part hpart
  · rintro ⟨htext, hparts⟩
    refine ⟨⟨hne, fun part hpart => (hparts part hpart).2, ?_⟩, fun h => (hparts "" h).1 rfl⟩
    rw [intercalate_parts, htext]

theorem exists_divides_iff {text : String} {P : List String → Prop} :
    (∃ parts, Divides parts text ∧ P parts) ↔ P (segments text) := by
  simp only [divides_iff, exists_eq_left]

theorem malformed_iff {text : String} {failure : Failure} :
    Malformed text failure ↔ ∃ parts, Divides parts text ∧
      ("" ∈ parts ∧ failure = .configuration (.emptySegment text) ∨
        "" ∉ parts ∧ 2 < parts.length ∧ failure = .configuration (.nestedPath text)) := by
  rw [exists_divides_iff]
  constructor
  · rintro (hempty | ⟨hempty, hlong⟩)
    · exact .inl ⟨hempty, rfl⟩
    · exact .inr ⟨hempty, hlong, rfl⟩
  · rintro (⟨hempty, rfl⟩ | ⟨hempty, hlong, rfl⟩)
    · exact .emptySegment hempty
    · exact .nestedPath hempty hlong

theorem existsUnique_divides (text : String) : ∃! parts, Divides parts text :=
  ⟨segments text, divides_segments text, fun _ h => divides_iff.1 h⟩

theorem exists_ofTexts_iff {texts : List String} :
    (∃ entries, ofTexts texts = .ok entries) ↔ ∀ text ∈ texts, ∃ e, ofText text = .ok e := by
  simp only [ofTexts, mapM_eq_ok_iff]
  exact exists_forall₂_iff

/-- An entry is read from the text that it is written as, where no part of it is empty or has a dot. Any
other text is refused, for an empty part before its number of parts; and so is a list of entries, for
its first text that is refused. -/
theorem entries_read_back :
    (∀ (text : String) (e : Entry), ofText text = .ok e ↔
      e.text = text ∧ ∀ part ∈ e.parts, part ≠ "" ∧ '.' ∉ part.toList) ∧
    (∀ text : String, ∃! parts, Divides parts text) ∧
    (∀ (text : String) (failure : Failure), ofText text = .error failure ↔
      ∃ parts, Divides parts text ∧
        ("" ∈ parts ∧ failure = .configuration (.emptySegment text) ∨
          "" ∉ parts ∧ 2 < parts.length ∧ failure = .configuration (.nestedPath text))) ∧
    (∀ text : String,
      (Misuse.emptySegment text).message = "empty segment in column '" ++ text ++ "'" ∧
      (Misuse.nestedPath text).message =
        "column '" ++ text ++ "' has a nested relation path; only one level is supported") ∧
    (∀ texts : List String,
      (∃ entries, ofTexts texts = .ok entries) ↔ ∀ text ∈ texts, ∃ e, ofText text = .ok e) ∧
    (∀ (texts : List String) (entries : List Entry), ofTexts texts = .ok entries ↔
      List.Forall₂ (fun text e => ofText text = .ok e) texts entries) ∧
    ∀ (texts : List String) (failure : Failure), ofTexts texts = .error failure ↔
      First (fun text failure => ofText text = .error failure) texts failure := by
  refine ⟨?_, existsUnique_divides, ?_, fun _ => ⟨rfl, rfl⟩, ?_, ?_, ?_⟩
  · intro text e
    exact ofText_eq_ok_iff_text
  · intro text failure
    rw [ofText_eq_error_iff]
    exact malformed_iff
  · intro texts
    exact exists_ofTexts_iff
  · intro texts entries
    exact mapM_eq_ok_iff
  · intro texts failure
    exact mapM_eq_error_iff

example : ofText "a..b.c" = .error (.configuration (.emptySegment "a..b.c")) := by decide

end TermSearch.Entry
