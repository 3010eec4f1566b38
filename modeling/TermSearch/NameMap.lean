/-! Finite maps from names, with the entries in increasing order of their names. -/

namespace TermSearch

structure NameMap (α : Type) where
  entries : List (String × α)
  increasing : entries.Pairwise (fun a b => a.1 < b.1)

namespace NameMap

variable {α : Type}

def place (name : String) (value : α) : List (String × α) → List (String × α)
  | [] => [(name, value)]
  | e :: rest =>
    if name < e.1 then (name, value) :: e :: rest
    else if name = e.1 then (name, value) :: rest
    else e :: place name value rest

theorem name_of_mem_place {name : String} {value : α} {es : List (String × α)}
    {e : String × α} (h : e ∈ place name value es) : e.1 = name ∨ e ∈ es := by
  induction es with
  | nil => simp only [place, List.mem_singleton] at h; exact .inl (by rw [h])
  | cons x es ih =>
    rw [place] at h
    split at h
    · rcases List.mem_cons.1 h with rfl | h
      · exact .inl rfl
      · exact .inr h
    · split at h
      · rcases List.mem_cons.1 h with rfl | h
        · exact .inl rfl
        · exact .inr (.tail _ h)
      · rcases List.mem_cons.1 h with rfl | h
        · exact .inr (.head _)
        · exact (ih h).imp_right (.tail _)

theorem pairwise_place (name : String) (value : α) {es : List (String × α)}
    (h : es.Pairwise (fun a b => a.1 < b.1)) :
    (place name value es).Pairwise (fun a b => a.1 < b.1) := by
  induction es with
  | nil => simp [place]
  | cons x es ih =>
    obtain ⟨hx, hes⟩ := List.pairwise_cons.1 h
    rw [place]
    split
    next hlt =>
      refine List.pairwise_cons.2 ⟨fun b hb => ?_, h⟩
      rcases List.mem_cons.1 hb with rfl | hb
      · exact hlt
      · exact String.lt_trans hlt (hx b hb)
    next hlt =>
      split
      next heq => exact List.pairwise_cons.2 ⟨fun b hb => heq ▸ hx b hb, hes⟩
      next hne =>
        refine List.pairwise_cons.2 ⟨fun b hb => ?_, ih hes⟩
        rcases name_of_mem_place hb with hb | hb
        · rw [hb]
          exact Decidable.byContradiction fun hn =>
            hne (String.le_antisymm (String.not_lt.1 hn) (String.not_lt.1 hlt))
        · exact hx b hb

def empty : NameMap α :=
  ⟨[], .nil⟩

def insert (m : NameMap α) (name : String) (value : α) : NameMap α :=
  ⟨place name value m.entries, pairwise_place name value m.increasing⟩

def erase (m : NameMap α) (name : String) : NameMap α :=
  ⟨m.entries.filter (fun e => e.1 != name), m.increasing.filter _⟩

def find? (m : NameMap α) (name : String) : Option α :=
  m.entries.lookup name

def contains (m : NameMap α) (name : String) : Bool :=
  (m.find? name).isSome

def names (m : NameMap α) : List String :=
  m.entries.map (·.1)

def size (m : NameMap α) : Nat :=
  m.entries.length

def ofList (es : List (String × α)) : NameMap α :=
  es.foldl (fun m e => m.insert e.1 e.2) empty

theorem lookup_entry (n : String) (e : String × α) (es : List (String × α)) :
    (e :: es).lookup n = if n = e.1 then some e.2 else es.lookup n := by
  obtain ⟨name, value⟩ := e
  by_cases h : n = name
  · subst h; simp
  · simp [List.lookup_cons, beq_eq_false_iff_ne.2 h, h]

theorem lookup_place (name : String) (value : α) (es : List (String × α)) (n : String) :
    (place name value es).lookup n = if n = name then some value else es.lookup n := by
  induction es with
  | nil => rw [place, lookup_entry]
  | cons x es ih =>
    rw [place]
    split
    next => rw [lookup_entry]
    next =>
      split
      next heq =>
        simp only [lookup_entry]
        by_cases hn : n = name
        · rw [if_pos hn, if_pos hn]
        · rw [if_neg hn, if_neg hn, if_neg (heq ▸ hn)]
      next hne =>
        rw [lookup_entry, lookup_entry, ih]
        by_cases hn : n = x.1
        · rw [if_pos hn, if_pos hn, if_neg (fun h => hne (h.symm.trans hn))]
        · rw [if_neg hn, if_neg hn]

theorem find?_insert (m : NameMap α) (name : String) (value : α) (n : String) :
    (m.insert name value).find? n = if n = name then some value else m.find? n :=
  lookup_place name value m.entries n

theorem lookup_filter_ne (name : String) (es : List (String × α)) (n : String) :
    (es.filter (fun e => e.1 != name)).lookup n = if n = name then none else es.lookup n := by
  induction es with
  | nil => simp
  | cons x es ih =>
    rw [List.filter_cons]
    by_cases hx : x.1 = name
    · rw [if_neg (by simp [hx]), ih, lookup_entry]
      by_cases hn : n = name <;> simp [hn, hx]
    · rw [if_pos (by simp [hx]), lookup_entry, lookup_entry, ih]
      by_cases hn : n = x.1
      · rw [if_pos hn, if_pos hn, if_neg (fun h => hx (hn.symm.trans h))]
      · rw [if_neg hn, if_neg hn]

theorem find?_erase (m : NameMap α) (name n : String) :
    (m.erase name).find? n = if n = name then none else m.find? n :=
  lookup_filter_ne name m.entries n

theorem mem_names_iff (m : NameMap α) (n : String) : n ∈ m.names ↔ m.contains n = true := by
  rw [names, contains, find?]
  induction m.entries with
  | nil => simp
  | cons x es ih =>
    rw [List.map_cons, List.mem_cons, ih, lookup_entry]
    by_cases hn : n = x.1 <;> simp [hn]

theorem mem_iff_lookup {es : List (String × α)} (h : (es.map (·.1)).Nodup) (e : String × α) :
    e ∈ es ↔ es.lookup e.1 = some e.2 := by
  induction es with
  | nil => simp
  | cons x es ih =>
    obtain ⟨hx, hes⟩ := List.nodup_cons.1 h
    rw [List.mem_cons, ih hes, lookup_entry]
    by_cases hn : e.1 = x.1
    · have hout : es.lookup e.1 ≠ some e.2 := by
        rw [Ne, ← ih hes]
        exact fun he => hx (List.mem_map.2 ⟨e, he, hn⟩)
      rw [if_pos hn, Prod.ext_iff, or_iff_left hout, Option.some_inj, eq_comm (a := x.2)]
      exact and_iff_right hn
    · rw [if_neg hn, or_iff_right]
      rintro rfl
      exact hn rfl

theorem pairwise_names (m : NameMap α) : m.names.Pairwise (· < ·) :=
  List.pairwise_map.2 m.increasing

theorem nodup_names (m : NameMap α) : m.names.Nodup :=
  List.Pairwise.imp (fun h => String.ne_of_lt h) m.pairwise_names

theorem mem_entries_iff (m : NameMap α) (e : String × α) :
    e ∈ m.entries ↔ m.find? e.1 = some e.2 :=
  mem_iff_lookup m.nodup_names e

theorem find?_ofList (es : List (String × α)) (n : String) :
    (ofList es).find? n = es.reverse.lookup n := by
  rw [ofList, List.foldl_eq_foldr_reverse]
  induction es.reverse with
  | nil => rfl
  | cons e es ih => rw [List.foldr_cons, find?_insert, lookup_entry, ih]

end NameMap

end TermSearch
