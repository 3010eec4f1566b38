import Mathlib.Data.List.Nodup
import TermSearch.Proofs.Traversal
import TermSearch.Settings.Config

/-! Single values of settings: which value stands for a flag, a list of texts or an engine, and why any
other one is refused. -/

namespace TermSearch.Setting

section Readers

variable {α : Type} {read : Setting → Except Refusal α} {R : Setting → α → Prop}
  {No : Setting → Refusal → Prop}

structure Reads (read : Setting → Except Refusal α) (R : Setting → α → Prop)
    (No : Setting → Refusal → Prop) : Prop where
  ok_iff : ∀ v a, read v = .ok a ↔ R v a
  error_iff : ∀ v r, read v = .error r ↔ No v r

theorem Reads.unique (h : Reads read R No) {v : Setting} {a b : α} (ha : R v a) (hb : R v b) :
    a = b := by
  have hread := (h.ok_iff v a).2 ha
  rw [(h.ok_iff v b).2 hb] at hread
  exact (Except.ok.inj hread).symm

theorem Reads.exists_refused_iff (h : Reads read R No) (v : Setting) :
    (∃ r, No v r) ↔ ¬ ∃ a, R v a := by
  simp only [← h.ok_iff, ← h.error_iff]
  cases read v <;> simp

inductive Optionally (R : Setting → α → Prop) : Setting → Option α → Prop where
  | null : Optionally R .null none
  | given {v : Setting} {a : α} (hv : v ≠ .null) (h : R v a) : Optionally R v (some a)

theorem exists_optionally_iff (R : Setting → α → Prop) (v : Setting) :
    (∃ a, Optionally R v a) ↔ v = .null ∨ ∃ a, R v a := by
  constructor
  · rintro ⟨-, _ | ⟨-, h⟩⟩
    · exact .inl rfl
    · exact .inr ⟨_, h⟩
  · rintro (rfl | ⟨a, h⟩)
    · exact ⟨none, .null⟩
    · by_cases hv : v = .null
      · exact ⟨none, hv ▸ .null⟩
      · exact ⟨some a, .given hv h⟩

theorem optional_of_ne {v : Setting} (hv : v ≠ .null) (read : Setting → Except Refusal α) :
    v.optional read = some <$> read v := by
  cases v <;> first | rfl | exact absurd rfl hv

theorem Reads.optional (h : Reads read R No) :
    Reads (Setting.optional read) (Optionally R) (fun v r => v ≠ .null ∧ No v r) where
  ok_iff v a := by
    by_cases hv : v = .null
    · subst hv
      constructor
      · intro ha
        obtain rfl := Except.ok.inj ha
        exact .null
      · rintro (_ | ⟨hne, -⟩)
        · rfl
        · exact absurd rfl hne
    · rw [optional_of_ne hv, map_eq_pure_bind, bind_pure_eq_ok_iff]
      constructor
      · rintro ⟨b, hb, rfl⟩
        exact .given hv ((h.ok_iff v b).1 hb)
      · rintro (_ | ⟨-, hb⟩)
        · exact absurd rfl hv
        · exact ⟨_, (h.ok_iff v _).2 hb, rfl⟩
  error_iff v r := by
    by_cases hv : v = .null
    · subst hv
      exact iff_of_false (by simp [Setting.optional]) fun hr => hr.1 rfl
    · rw [optional_of_ne hv, map_eq_pure_bind, bind_pure_eq_error_iff, and_iff_right hv, h.error_iff]

def GivenOr (R : Setting → α → Prop) (start : α) : Option Setting → α → Prop
  | none, a => a = start
  | some v, a => R v a

theorem GivenOr.unique (h : Reads read R No) {start : α} {w : Option Setting} {a b : α}
    (ha : GivenOr R start w a) (hb : GivenOr R start w b) : a = b := by
  cases w with
  | none => exact Eq.trans ha (Eq.symm hb)
  | some v => exact h.unique ha hb

end Readers

def IsFlag (v : Setting) (b : Bool) : Prop :=
  v = .boolean b

def NoFlag (v : Setting) (r : Refusal) : Prop :=
  (∀ b, v ≠ .boolean b) ∧ r = .wrongType v.found .boolean

theorem reads_asBoolean : Reads asBoolean IsFlag NoFlag where
  ok_iff v b := by cases v <;> simp [asBoolean, IsFlag]
  error_iff v r := by cases v <;> simp [asBoolean, NoFlag, eq_comm]

def NoText (v : Setting) (r : Refusal) : Prop :=
  (∀ s, v ≠ .text s) ∧ r = .wrongType v.found .text

theorem reads_asText : Reads asText (fun v s => v = .text s) NoText where
  ok_iff v s := by cases v <;> simp [asText]
  error_iff v r := by cases v <;> simp [asText, NoText, eq_comm]

def IsTexts (v : Setting) (texts : List String) : Prop :=
  v = .list (texts.map .text)

inductive NoTexts : Setting → Refusal → Prop where
  | kind {v : Setting} (h : ∀ items, v ≠ .list items) : NoTexts v (.wrongType v.found .list)
  | item {items : List Setting} {r : Refusal} (h : First NoText items r) : NoTexts (.list items) r

theorem reads_asTexts : Reads asTexts IsTexts NoTexts where
  ok_iff v texts := by
    have hitems (items : List Setting) : items.mapM asText = .ok texts ↔
        items = texts.map .text := by
      rw [mapM_eq_ok_iff]
      simp only [reads_asText.ok_iff]
      rw [← List.forall₂_map_right_iff (f := Setting.text) (R := fun v w => v = w),
        List.forall₂_eq_eq_eq]
    cases v with
    | list items => rw [asTexts, hitems, IsTexts, list.injEq]
    | _ => exact iff_of_false (by simp [asTexts]) (by simp [IsTexts])
  error_iff v r := by
    have hitems (items : List Setting) : items.mapM asText = .error r ↔ First NoText items r := by
      rw [mapM_eq_error_iff]
      simp only [reads_asText.error_iff]
    constructor
    · intro h
      cases v with
      | list items => exact .item ((hitems items).1 h)
      | _ =>
        obtain rfl := Except.error.inj h
        exact .kind (by simp)
    · rintro (h | h)
      · cases v with
        | list items => exact absurd rfl (h items)
        | _ => rfl
      · exact (hitems _).2 h

def lastValue? (fields : List (String × Setting)) (name : String) : Option Setting :=
  fields.reverse.lookup name

theorem mem_sortedFields_iff (fields : List (String × Setting)) (entry : String × Setting) :
    entry ∈ sortedFields fields ↔ lastValue? fields entry.1 = some entry.2 := by
  rw [sortedFields, NameMap.mem_entries_iff, NameMap.find?_ofList, lastValue?]

theorem exists_lastValue?_iff (fields : List (String × Setting)) (name : String) :
    (∃ v, lastValue? fields name = some v) ↔ ∃ field ∈ fields, field.1 = name := by
  rw [← Option.isSome_iff_exists, lastValue?, List.lookup_isSome_iff]
  simp only [List.mem_reverse, beq_iff_eq]
  exact exists_congr fun field => and_congr_right fun _ => eq_comm

def OnlyField (fields : List (String × Setting)) (name : String) (v : Setting) : Prop :=
  lastValue? fields name = some v ∧ ∀ field ∈ fields, field.1 = name

theorem sortedFields_eq_singleton_iff {fields : List (String × Setting)} {name : String}
    {v : Setting} : sortedFields fields = [(name, v)] ↔ OnlyField fields name v := by
  have hmem := mem_sortedFields_iff fields
  have hexists := exists_lastValue?_iff fields
  constructor
  · intro h
    rw [h] at hmem
    refine ⟨(hmem (name, v)).1 (List.mem_cons_self ..), fun field hfield => ?_⟩
    obtain ⟨w, hw⟩ := (hexists field.1).2 ⟨field, hfield, rfl⟩
    have hsame := List.mem_singleton.1 ((hmem (field.1, w)).2 hw)
    exact congrArg Prod.fst hsame
  · rintro ⟨hv, hname⟩
    have hnodup : (sortedFields fields).Nodup :=
      List.Nodup.of_map _ (NameMap.ofList fields).nodup_names
    apply List.perm_singleton.1
    rw [List.perm_ext_iff_of_nodup hnodup (List.nodup_singleton _)]
    intro entry
    rw [hmem, List.mem_singleton]
    constructor
    · intro hentry
      obtain ⟨field, hfield, he⟩ := (hexists entry.1).1 ⟨entry.2, hentry⟩
      have hsame : entry.1 = name := he.symm.trans (hname field hfield)
      rw [hsame, hv] at hentry
      exact Prod.ext hsame (Option.some.inj hentry).symm
    · rintro rfl
      exact hv

inductive NamesEngine : Setting → EngineKind → Prop where
  | text : NamesEngine (.text "ilike") .ilike
  | record {fields : List (String × Setting)} (h : OnlyField fields "ilike" .null) :
    NamesEngine (.record fields) .ilike

inductive NoEngine : Setting → Refusal → Prop where
  | text {s : String} (h : s ≠ "ilike") : NoEngine (.text s) (.unknownEngine s)
  | value {fields : List (String × Setting)} {v : Setting} (h : OnlyField fields "ilike" v)
    (hv : v ≠ .null) : NoEngine (.record fields) (.wrongType v.found .unit)
  | name {fields : List (String × Setting)} {s : String} {v : Setting} (h : OnlyField fields s v)
    (hs : s ≠ "ilike") : NoEngine (.record fields) (.unknownEngine s)
  | several {fields : List (String × Setting)} (h : ∀ s v, ¬ OnlyField fields s v) :
    NoEngine (.record fields) .severalEngines
  | kind {v : Setting} (ht : ∀ s, v ≠ .text s) (hr : ∀ fields, v ≠ .record fields) :
    NoEngine v (.wrongType v.found .engine)

theorem reads_readEngine : Reads Config.readEngine NamesEngine NoEngine where
  ok_iff v kind := by
    constructor
    · intro h
      unfold Config.readEngine at h
      split at h
      next =>
        obtain rfl := Except.ok.inj h
        exact .text
      next => cases h
      next fields =>
        split at h
        next he =>
          obtain rfl := Except.ok.inj h
          exact .record (sortedFields_eq_singleton_iff.1 he)
        all_goals cases h
      next => cases h
    · rintro (_ | h)
      · rfl
      · simp only [Config.readEngine, sortedFields_eq_singleton_iff.2 h]
  error_iff v r := by
    constructor
    · intro h
      unfold Config.readEngine at h
      split at h
      next => cases h
      next s hs =>
        obtain rfl := Except.error.inj h
        exact .text fun he => hs (he ▸ rfl)
      next fields =>
        split at h
        next => cases h
        next w hne he =>
          obtain rfl := Except.error.inj h
          exact .value (sortedFields_eq_singleton_iff.1 he) hne
        next s w _ hs he =>
          obtain rfl := Except.error.inj h
          exact .name (sortedFields_eq_singleton_iff.1 he) hs
        next hs =>
          obtain rfl := Except.error.inj h
          exact .several fun s w ho => hs s w (sortedFields_eq_singleton_iff.2 ho)
      next ht hr =>
        obtain rfl := Except.error.inj h
        exact .kind ht hr
    · rintro (hs | ⟨ho, hv⟩ | ⟨ho, hs⟩ | ho | ⟨ht, hr⟩)
      · simp only [Config.readEngine]
      · simp only [Config.readEngine, sortedFields_eq_singleton_iff.2 ho]
      · rw [Config.readEngine, sortedFields_eq_singleton_iff.2 ho]
        split
        next he => exact absurd (congrArg Prod.fst (List.singleton_inj.1 he)) hs
        next he => exact absurd (congrArg Prod.fst (List.singleton_inj.1 he)) hs
        next he =>
          obtain ⟨rfl, rfl⟩ := Prod.mk.inj (List.singleton_inj.1 he)
          rfl
        next hnone => exact absurd rfl (hnone _ _)
      · rw [Config.readEngine]
        split
        next he => exact absurd (sortedFields_eq_singleton_iff.1 he) (ho _ _)
        next he => exact absurd (sortedFields_eq_singleton_iff.1 he) (ho _ _)
        next he => exact absurd (sortedFields_eq_singleton_iff.1 he) (ho _ _)
        next => rfl
      · cases v with
        | text s => exact absurd rfl (ht s)
        | record fields => exact absurd rfl (hr fields)
        | _ => rfl

end TermSearch.Setting
