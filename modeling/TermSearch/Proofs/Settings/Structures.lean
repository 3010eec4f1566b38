import TermSearch.Proofs.Settings.Values
import TermSearch.Proofs.Text.ByteOrder

/-! Structures of settings, given as a record or as a list: which values their fields have, and which
of several problems refuses them. -/

namespace TermSearch.Setting

section Entries

variable (names : List String)

def entriesIn : Setting → List (String × Setting)
  | .record fields => sortedFields fields
  | .list items => names.zip items
  | _ => []

def valueIn : Setting → String → Option Setting
  | .record fields, name => lastValue? fields name
  | .list items, name => (names.zip items).lookup name
  | _, _ => none

theorem map_fst_zip_sublist {α β : Type} (xs : List α) (ys : List β) :
    ((xs.zip ys).map Prod.fst).Sublist xs := by
  induction xs generalizing ys with
  | nil => exact .slnil
  | cons x xs ih =>
    cases ys with
    | nil => exact List.nil_sublist _
    | cons y ys => exact (ih ys).cons_cons x

variable {names}

theorem nodup_entriesIn (h : names.Nodup) (v : Setting) :
    ((entriesIn names v).map (·.1)).Nodup := by
  cases v with
  | record fields => exact (NameMap.ofList fields).nodup_names
  | list items => exact h.sublist (map_fst_zip_sublist names items)
  | _ => exact .nil

theorem mem_entriesIn_iff (h : names.Nodup) (v : Setting) (entry : String × Setting) :
    entry ∈ entriesIn names v ↔ valueIn names v entry.1 = some entry.2 := by
  cases v with
  | record fields => exact mem_sortedFields_iff fields entry
  | list items => exact NameMap.mem_iff_lookup (nodup_entriesIn h (.list items)) entry
  | _ => exact iff_of_false List.not_mem_nil (by simp [valueIn])

theorem valueIn_record_zip (h : names.Nodup) (items : List Setting) (name : String) :
    valueIn names (.record (names.zip items)) name = valueIn names (.list items) name := by
  have hnodup : ((names.zip items).map (·.1)).Nodup := nodup_entriesIn h (.list items)
  have hreverse : ((names.zip items).reverse.map (·.1)).Nodup := by
    rw [List.map_reverse]
    exact List.pairwise_reverse.2 (hnodup.imp Ne.symm)
  refine Option.ext fun v => ?_
  have hrecord := NameMap.mem_iff_lookup hreverse (name, v)
  have hlist := NameMap.mem_iff_lookup hnodup (name, v)
  rw [List.mem_reverse] at hrecord
  exact hrecord.symm.trans hlist

theorem first_sortedFields_iff (Problem : String → Setting → Refusal → Prop)
    (fields : List (String × Setting)) (r : Refusal) :
    First (fun entry => Problem entry.1 entry.2) (sortedFields fields) r ↔
      ∃ name v, lastValue? fields name = some v ∧ Problem name v r ∧
        ∀ other w, lastValue? fields other = some w → Text.bytes other < Text.bytes name →
          ∀ r', ¬ Problem other w r' := by
  have hincreasing : (sortedFields fields).Pairwise (fun a b => a.1 < b.1) :=
    (NameMap.ofList fields).increasing
  rw [first_iff_of_pairwise hincreasing fun _ _ => String.lt_asymm]
  simp only [Prod.exists, Prod.forall, mem_sortedFields_iff, Text.bytes_lt_iff]

end Entries

section Descriptions

variable {σ φ : Type}

/-- What a structure of settings is: the names of its fields in their order in a list, what each field
accepts, holds and refuses, and how any other name is refused where it is not ignored. -/
structure Description (σ φ : Type) where
  expected : Expected
  names : List String
  name : φ → String
  other : Option (String → Refusal)
  Accepts : φ → Setting → Prop
  Holds : σ → Option Setting → φ → Prop
  Refuses : φ → Setting → Refusal → Prop

namespace Description

variable (d : Description σ φ)

inductive Allowed (n : String) : Prop where
  | field {f : φ} (h : d.name f = n) : Allowed n
  | ignored (h : d.other = none) : Allowed n

inductive Problem (n : String) (v : Setting) : Refusal → Prop where
  | field {f : φ} {r : Refusal} (hf : d.name f = n) (h : d.Refuses f v r) : Problem n v r
  | other {refuse : String → Refusal} (h : d.other = some refuse) (hf : ∀ f, d.name f ≠ n) :
    Problem n v (refuse n)

inductive IsStructure : Setting → Prop where
  | record {fields : List (String × Setting)} (h : ∀ field ∈ fields, d.Allowed field.1) :
    IsStructure (.record fields)
  | list {items : List Setting} (h : items.length ≤ d.names.length) : IsStructure (.list items)

inductive Refused : Setting → Refusal → Prop where
  | field {fields : List (String × Setting)} {n : String} {v : Setting} {r : Refusal}
    (hv : lastValue? fields n = some v) (h : d.Problem n v r)
    (hfirst : ∀ m w, lastValue? fields m = some w → Text.bytes m < Text.bytes n →
      ∀ r', ¬ d.Problem m w r') : Refused (.record fields) r
  | item {items : List Setting} {r : Refusal}
    (h : First (fun entry => d.Problem entry.1 entry.2) (d.names.zip items) r) :
    Refused (.list items) r
  | tooLong {items : List Setting}
    (hnone : ∀ entry ∈ d.names.zip items, ∀ r, ¬ d.Problem entry.1 entry.2 r)
    (h : d.names.length < items.length) : Refused (.list items) (.tooLong items.length)
  | kind {v : Setting} (hr : ∀ fields, v ≠ .record fields) (hl : ∀ items, v ≠ .list items) :
    Refused v (.wrongType v.found d.expected)

/-- What is read and as what, and why anything else is refused. A list is read as the record that
pairs the names with its items. -/
structure IsFormatOf (read : Setting → Except Refusal σ) : Prop where
  accepts_iff : ∀ v, (∃ s, read v = .ok s) ↔
    d.IsStructure v ∧ ∀ f w, valueIn d.names v (d.name f) = some w → d.Accepts f w
  reads_iff : ∀ v s, read v = .ok s ↔
    d.IsStructure v ∧ ∀ f, d.Holds s (valueIn d.names v (d.name f)) f
  list_iff : ∀ items, items.length ≤ d.names.length → ∀ s,
    (read (.list items) = .ok s ↔ read (.record (d.names.zip items)) = .ok s)
  refuses_iff : ∀ v r, read v = .error r ↔ d.Refused v r

end Description

end Descriptions

section Shapes

variable {σ φ : Type} {shape : Shape σ φ} {start : σ} {d : Description σ φ}

structure Shape.Follows (shape : Shape σ φ) (start : σ) (d : Description σ φ) : Prop where
  expected : shape.expected = d.expected
  names : shape.order.map d.name = d.names
  nodup : d.names.Nodup
  field_of_name : ∀ f, shape.field (d.name f) = .ok (some f)
  field_of_ne : ∀ {n}, (∀ f, d.name f ≠ n) →
    shape.field n = d.other.elim (.ok none) (fun refuse => .error (refuse n))
  put_eq_error_iff : ∀ s f v r, shape.put s f v = .error r ↔ d.Refuses f v r
  holds_put : ∀ {s s' f v}, shape.put s f v = .ok s' → d.Holds s' (some v) f
  holds_put_of_ne : ∀ {s s' f g v w}, shape.put s f v = .ok s' → f ≠ g →
    d.Holds s w g → d.Holds s' w g
  holds_start : ∀ f, d.Holds start none f
  unique : ∀ {s s' : σ} {w : φ → Option Setting}, (∀ f, d.Holds s (w f) f) →
    (∀ f, d.Holds s' (w f) f) → s = s'
  exists_holds_iff : ∀ f v, (∃ s, d.Holds s (some v) f) ↔ d.Accepts f v
  exists_refuses_iff : ∀ f v, (∃ r, d.Refuses f v r) ↔ ¬ d.Accepts f v

namespace Shape.Follows

section Entry

variable {s s' : σ} {entry : String × Setting}

theorem putKey_of_name (h : shape.Follows start d) {f : φ} (hf : d.name f = entry.1) :
    shape.putKey s entry = shape.put s f entry.2 := by
  have hfield := h.field_of_name f
  rw [hf] at hfield
  rw [putKey, hfield]
  rfl

theorem putKey_of_ne (h : shape.Follows start d) (hn : ∀ f, d.name f ≠ entry.1) :
    shape.putKey s entry = d.other.elim (.ok s) (fun refuse => .error (refuse entry.1)) := by
  rw [putKey, h.field_of_ne hn]
  cases d.other <;> rfl

theorem putKey_eq_error_iff (h : shape.Follows start d) (s : σ) (entry : String × Setting)
    (r : Refusal) : shape.putKey s entry = .error r ↔ d.Problem entry.1 entry.2 r := by
  constructor
  · intro hr
    by_cases hn : ∃ f, d.name f = entry.1
    · obtain ⟨f, hf⟩ := hn
      rw [h.putKey_of_name hf, h.put_eq_error_iff] at hr
      exact .field hf hr
    · rw [h.putKey_of_ne (not_exists.1 hn)] at hr
      cases hother : d.other with
      | none =>
        rw [hother] at hr
        cases hr
      | some refuse =>
        rw [hother] at hr
        obtain rfl := Except.error.inj hr
        exact .other hother (not_exists.1 hn)
  · rintro (⟨hf, hr⟩ | ⟨hother, hn⟩)
    · rw [h.putKey_of_name hf]
      exact (h.put_eq_error_iff ..).2 hr
    · rw [h.putKey_of_ne hn, hother]
      rfl

theorem holds_putKey_of_ne (h : shape.Follows start d) (hs : shape.putKey s entry = .ok s')
    {w : Option Setting} {f : φ} (hne : entry.1 ≠ d.name f) (hw : d.Holds s w f) :
    d.Holds s' w f := by
  by_cases hn : ∃ g, d.name g = entry.1
  · obtain ⟨g, hg⟩ := hn
    rw [h.putKey_of_name hg] at hs
    refine h.holds_put_of_ne hs ?_ hw
    rintro rfl
    exact hne hg.symm
  · rw [h.putKey_of_ne (not_exists.1 hn)] at hs
    cases hother : d.other with
    | none =>
      rw [hother] at hs
      obtain rfl := Except.ok.inj hs
      exact hw
    | some refuse =>
      rw [hother] at hs
      cases hs

theorem forall_not_problem_iff (h : shape.Follows start d) {n : String} {v : Setting} :
    (∀ r, ¬ d.Problem n v r) ↔ d.Allowed n ∧ ∀ f, d.name f = n → d.Accepts f v := by
  have hname (f g : φ) (hg : d.name f = d.name g) : f = g := by
    have hfield := h.field_of_name f
    rw [hg, h.field_of_name g] at hfield
    exact (Option.some.inj (Except.ok.inj hfield)).symm
  constructor
  · intro hnone
    constructor
    · by_cases hn : ∃ f, d.name f = n
      · obtain ⟨f, hf⟩ := hn
        exact .field hf
      · cases hother : d.other with
        | none => exact .ignored hother
        | some refuse => exact absurd (.other hother (not_exists.1 hn)) (hnone (refuse n))
    · intro f hf
      have hr : ¬ ∃ r, d.Refuses f v r := fun ⟨r, hr⟩ => hnone r (.field hf hr)
      rw [h.exists_refuses_iff, not_not] at hr
      exact hr
  · rintro ⟨hallowed, haccepts⟩ r (@⟨f, r, hf, hr⟩ | ⟨hother, hn⟩)
    · exact (h.exists_refuses_iff f v).1 ⟨r, hr⟩ (haccepts f hf)
    · rcases hallowed with hf | hignored
      · exact hn _ hf
      · rw [hignored] at hother
        cases hother

end Entry

theorem foldlM_put (h : shape.Follows start d) (items : List Setting) (s : σ) :
    (shape.order.zip items).foldlM (fun s (f, v) => shape.put s f v) s =
      (d.names.zip items).foldlM shape.putKey s := by
  rw [← h.names, List.zip_map_left, List.foldlM_map]
  refine congrArg (fun g => List.foldlM g s (shape.order.zip items)) ?_
  funext s entry
  have hput : shape.putKey s (d.name entry.1, entry.2) = shape.put s entry.1 entry.2 :=
    h.putKey_of_name rfl
  exact hput.symm

theorem length_order (h : shape.Follows start d) : shape.order.length = d.names.length := by
  rw [← h.names, List.length_map]

section Run

variable {entries : List (String × Setting)} {s s' : σ}

theorem foldlM_putKey_eq_error_iff (h : shape.Follows start d) {r : Refusal} :
    entries.foldlM shape.putKey s = .error r ↔
      First (fun entry => d.Problem entry.1 entry.2) entries r :=
  foldlM_eq_error_iff h.putKey_eq_error_iff

theorem exists_foldlM_putKey_iff (h : shape.Follows start d) :
    (∃ s', entries.foldlM shape.putKey s = .ok s') ↔
      ∀ entry ∈ entries, ∀ r, ¬ d.Problem entry.1 entry.2 r := by
  rw [exists_ok_iff]
  simp only [Ne, h.foldlM_putKey_eq_error_iff]
  rw [← not_exists, exists_first_iff]
  simp only [not_exists, not_and]

theorem holds_of_not_mem (h : shape.Follows start d) (hs : entries.foldlM shape.putKey s = .ok s')
    {f : φ} {w : Option Setting} (hf : ∀ entry ∈ entries, entry.1 ≠ d.name f)
    (hw : d.Holds s w f) : d.Holds s' w f := by
  induction entries generalizing s with
  | nil =>
    obtain rfl := Except.ok.inj hs
    exact hw
  | cons entry entries ih =>
    rw [List.foldlM_cons, bind_eq_ok_iff] at hs
    obtain ⟨next, hput, hs⟩ := hs
    obtain ⟨hne, hf⟩ := List.forall_mem_cons.1 hf
    exact ih hs hf (h.holds_putKey_of_ne hput hne hw)

theorem holds_of_mem (h : shape.Follows start d) (hs : entries.foldlM shape.putKey s = .ok s')
    (hnodup : (entries.map (·.1)).Nodup) {f : φ} {v : Setting} (hf : (d.name f, v) ∈ entries) :
    d.Holds s' (some v) f := by
  obtain ⟨before, after, rfl⟩ := List.append_of_mem hf
  rw [List.foldlM_append, bind_eq_ok_iff] at hs
  obtain ⟨middle, -, hs⟩ := hs
  rw [List.foldlM_cons, bind_eq_ok_iff] at hs
  obtain ⟨next, hput, hs⟩ := hs
  rw [List.map_append, List.map_cons] at hnodup
  obtain ⟨hnew, -⟩ := List.nodup_cons.1 (List.nodup_append.1 hnodup).2.1
  rw [h.putKey_of_name rfl] at hput
  -- No later entry has the same name.
  refine h.holds_of_not_mem hs (fun entry hentry he => ?_) (h.holds_put hput)
  exact hnew (List.mem_map.2 ⟨entry, hentry, he⟩)

end Run

theorem holds_valueIn (h : shape.Follows start d) (v : Setting) {s : σ}
    (hs : (entriesIn d.names v).foldlM shape.putKey start = .ok s) (f : φ) :
    d.Holds s (valueIn d.names v (d.name f)) f := by
  have hmem := mem_entriesIn_iff h.nodup v
  cases hv : valueIn d.names v (d.name f) with
  | some w => exact h.holds_of_mem hs (nodup_entriesIn h.nodup v) ((hmem (d.name f, w)).2 hv)
  | none =>
    refine h.holds_of_not_mem hs (fun entry hentry he => ?_) (h.holds_start f)
    have hsome := (hmem entry).1 hentry
    rw [he, hv] at hsome
    cases hsome

theorem allowed_of_mem_zip (h : shape.Follows start d) {items : List Setting}
    {entry : String × Setting} (he : entry ∈ d.names.zip items) : d.Allowed entry.1 := by
  have hname := (List.of_mem_zip he).1
  rw [← h.names] at hname
  obtain ⟨f, -, hf⟩ := List.mem_map.1 hname
  exact .field hf

theorem forall_entries_iff (h : shape.Follows start d) (v : Setting) :
    (∀ entry ∈ entriesIn d.names v, ∀ r, ¬ d.Problem entry.1 entry.2 r) ↔
      (∀ entry ∈ entriesIn d.names v, d.Allowed entry.1) ∧
        ∀ f w, valueIn d.names v (d.name f) = some w → d.Accepts f w := by
  have hmem := mem_entriesIn_iff h.nodup v
  simp only [h.forall_not_problem_iff]
  constructor
  · intro hall
    refine ⟨fun entry hentry => (hall entry hentry).1, fun f w hw => ?_⟩
    exact (hall (d.name f, w) ((hmem (d.name f, w)).2 hw)).2 f rfl
  · rintro ⟨hallowed, haccepts⟩ entry hentry
    refine ⟨hallowed entry hentry, fun f hf => haccepts f entry.2 ?_⟩
    rw [hf]
    exact (hmem entry).1 hentry

variable {v : Setting}

theorem isStructure_record_iff {fields : List (String × Setting)} :
    d.IsStructure (.record fields) ↔ ∀ entry ∈ sortedFields fields, d.Allowed entry.1 := by
  constructor
  · rintro (h | _) entry hentry
    obtain ⟨field, hfield, he⟩ := (exists_lastValue?_iff fields entry.1).1
      ⟨entry.2, (mem_sortedFields_iff fields entry).1 hentry⟩
    rw [← he]
    exact h field hfield
  · intro h
    refine .record fun field hfield => ?_
    obtain ⟨w, hw⟩ := (exists_lastValue?_iff fields field.1).2 ⟨field, hfield, rfl⟩
    exact h (field.1, w) ((mem_sortedFields_iff fields (field.1, w)).2 hw)

theorem isStructure_list_iff {items : List Setting} :
    d.IsStructure (.list items) ↔ items.length ≤ d.names.length := by
  constructor
  · rintro (_ | h)
    exact h
  · exact .list

theorem readAs_list_eq_ok_iff (h : shape.Follows start d) {items : List Setting} {s : σ} :
    (Setting.list items).readAs shape start = .ok s ↔
      (d.names.zip items).foldlM shape.putKey start = .ok s ∧ items.length ≤ d.names.length := by
  rw [readAs, h.foldlM_put, bind_eq_ok_iff, h.length_order]
  by_cases hlen : items.length ≤ d.names.length
  · simp [hlen]
  · simp [hlen]

theorem exists_readAs_iff (h : shape.Follows start d) : (∃ s, v.readAs shape start = .ok s) ↔
    d.IsStructure v ∧ ∀ f w, valueIn d.names v (d.name f) = some w → d.Accepts f w := by
  cases v with
  | record fields =>
    rw [isStructure_record_iff]
    exact h.exists_foldlM_putKey_iff.trans (h.forall_entries_iff (.record fields))
  | list items =>
    simp only [h.readAs_list_eq_ok_iff]
    rw [exists_and_right, h.exists_foldlM_putKey_iff, isStructure_list_iff, and_comm]
    refine and_congr_right fun _ => (h.forall_entries_iff (.list items)).trans (and_iff_right ?_)
    exact fun entry hentry => h.allowed_of_mem_zip hentry
  | _ => exact iff_of_false (by simp [readAs]) (fun hv => by cases hv.1)

theorem holds_of_readAs (h : shape.Follows start d) {s : σ} (hs : v.readAs shape start = .ok s)
    (f : φ) : d.Holds s (valueIn d.names v (d.name f)) f := by
  cases v with
  | record fields => exact h.holds_valueIn (.record fields) hs f
  | list items => exact h.holds_valueIn (.list items) (h.readAs_list_eq_ok_iff.1 hs).1 f
  | _ => cases hs

theorem readAs_eq_ok_iff (h : shape.Follows start d) {s : σ} : v.readAs shape start = .ok s ↔
    d.IsStructure v ∧ ∀ f, d.Holds s (valueIn d.names v (d.name f)) f := by
  constructor
  · intro hs
    exact ⟨(h.exists_readAs_iff.1 ⟨s, hs⟩).1, h.holds_of_readAs hs⟩
  · rintro ⟨hv, hs⟩
    have haccepts (f : φ) (w : Setting) (hw : valueIn d.names v (d.name f) = some w) :
        d.Accepts f w := by
      have hheld := hs f
      rw [hw] at hheld
      exact (h.exists_holds_iff f w).1 ⟨s, hheld⟩
    obtain ⟨s', hs'⟩ := h.exists_readAs_iff.2 ⟨hv, haccepts⟩
    rw [h.unique hs (h.holds_of_readAs hs')]
    exact hs'

theorem readAs_list_iff_record (h : shape.Follows start d) {items : List Setting}
    (hlen : items.length ≤ d.names.length) {s : σ} :
    (Setting.list items).readAs shape start = .ok s ↔
      (Setting.record (d.names.zip items)).readAs shape start = .ok s := by
  rw [h.readAs_eq_ok_iff, h.readAs_eq_ok_iff]
  simp only [valueIn_record_zip h.nodup items]
  have hrecord : d.IsStructure (.record (d.names.zip items)) :=
    .record fun field hfield => h.allowed_of_mem_zip hfield
  exact and_congr_left fun _ => iff_of_true (.list hlen) hrecord

theorem readAs_eq_error_iff (h : shape.Follows start d) {r : Refusal} :
    v.readAs shape start = .error r ↔ d.Refused v r := by
  constructor
  · intro hr
    cases v with
    | record fields =>
      have hfirst := h.foldlM_putKey_eq_error_iff.1 hr
      obtain ⟨n, w, hw, hproblem, hbefore⟩ := (first_sortedFields_iff _ fields r).1 hfirst
      exact .field hw hproblem hbefore
    | list items =>
      rw [readAs, h.foldlM_put, bind_eq_error_iff, h.length_order] at hr
      rcases hr with hr | ⟨s, hs, hr⟩
      · exact .item (h.foldlM_putKey_eq_error_iff.1 hr)
      · split at hr
        next => cases hr
        next hlen =>
          obtain rfl := Except.error.inj hr
          exact .tooLong (h.exists_foldlM_putKey_iff.1 ⟨s, hs⟩) (Nat.lt_of_not_le hlen)
    | _ =>
      obtain rfl := Except.error.inj hr
      rw [h.expected]
      exact .kind (by simp) (by simp)
  · rintro (⟨hw, hproblem, hbefore⟩ | hitem | ⟨hnone, hlen⟩ | ⟨hr, hl⟩)
    · have hfirst := (first_sortedFields_iff _ _ r).2 ⟨_, _, hw, hproblem, hbefore⟩
      exact h.foldlM_putKey_eq_error_iff.2 hfirst
    · rw [readAs, h.foldlM_put, h.foldlM_putKey_eq_error_iff.2 hitem]
      rfl
    · obtain ⟨s, hs⟩ := h.exists_foldlM_putKey_iff.2 hnone
      rw [readAs, h.foldlM_put, hs, h.length_order]
      exact if_neg (Nat.not_le_of_lt hlen)
    · rw [← h.expected]
      cases v with
      | record fields => exact absurd rfl (hr fields)
      | list items => exact absurd rfl (hl items)
      | _ => rfl

theorem isFormatOf (h : shape.Follows start d) : d.IsFormatOf (readAs shape start) where
  accepts_iff _ := h.exists_readAs_iff
  reads_iff _ _ := h.readAs_eq_ok_iff
  list_iff _ hlen _ := h.readAs_list_iff_record hlen
  refuses_iff _ _ := h.readAs_eq_error_iff

end Shape.Follows

end Shapes

end TermSearch.Setting
