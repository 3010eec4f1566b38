import TermSearch.Proofs.Settings.Structures

/-! The formats of options and of configurations. -/

namespace TermSearch

open Setting

namespace OptionKey

theorem ofKey?_eq_some_iff {s : String} {k : OptionKey} : ofKey? s = some k ↔ k.key = s := by
  constructor
  · intro h
    have hk := List.find?_some h
    exact beq_iff_eq.1 hk
  · rintro rfl
    cases k <;> decide

theorem ofKey?_eq_none_iff {s : String} : ofKey? s = none ↔ ∀ k : OptionKey, k.key ≠ s := by
  rw [Option.eq_none_iff_forall_ne_some]
  simp only [Ne, ofKey?_eq_some_iff]

def Takes : OptionKey → Setting → Prop
  | .ignoreSuffixes, v => ∃ texts, IsTexts v texts
  | _, v => ∃ b, IsFlag v b

def No : OptionKey → Setting → Refusal → Prop
  | .ignoreSuffixes => NoTexts
  | _ => NoFlag

theorem exists_no_iff (k : OptionKey) (v : Setting) : (∃ r, k.No v r) ↔ ¬ k.Takes v := by
  cases k with
  | ignoreSuffixes => exact reads_asTexts.exists_refused_iff v
  | _ => exact reads_asBoolean.exists_refused_iff v

end OptionKey

namespace Options

def Holds (o : Options) (w : Option Setting) : OptionKey → Prop
  | .normalize => GivenOr (Optionally IsFlag) none w o.normalize
  | .wordBasedMatching => GivenOr (Optionally IsFlag) none w o.wordBasedMatching
  | .orderByBestMatch => GivenOr (Optionally IsFlag) none w o.orderByBestMatch
  | .ignoreSuffixes => GivenOr (Optionally IsTexts) none w o.ignoreSuffixes

def description : Description Options OptionKey where
  expected := .options
  names := ["normalize", "word_based_matching", "order_by_best_match", "ignore_suffixes"]
  name := OptionKey.key
  other := some .unknownOption
  Accepts k v := v = .null ∨ k.Takes v
  Holds := Holds
  Refuses k v r := v ≠ .null ∧ k.No v r

theorem put_eq_error_iff {o : Options} {k : OptionKey} {v : Setting} {r : Refusal} :
    o.put k v = .error r ↔ v ≠ .null ∧ k.No v r := by
  cases k with
  | ignoreSuffixes => exact bind_pure_eq_error_iff.trans (reads_asTexts.optional.error_iff v r)
  | _ => exact bind_pure_eq_error_iff.trans (reads_asBoolean.optional.error_iff v r)

theorem holds_put {o o' : Options} {k : OptionKey} {v : Setting} (h : o.put k v = .ok o') :
    o'.Holds (some v) k := by
  cases k <;> obtain ⟨a, ha, rfl⟩ := bind_pure_eq_ok_iff.1 h
  case ignoreSuffixes => exact (reads_asTexts.optional.ok_iff v a).1 ha
  all_goals exact (reads_asBoolean.optional.ok_iff v a).1 ha

theorem holds_put_of_ne {o o' : Options} {k j : OptionKey} {v : Setting} {w : Option Setting}
    (h : o.put k v = .ok o') (hne : k ≠ j) (hw : o.Holds w j) : o'.Holds w j := by
  cases k <;> obtain ⟨a, -, rfl⟩ := bind_pure_eq_ok_iff.1 h <;> cases j <;>
    first | exact absurd rfl hne | exact hw

theorem exists_holds_iff {v : Setting} {k : OptionKey} :
    (∃ o : Options, o.Holds (some v) k) ↔ v = .null ∨ k.Takes v := by
  have hflag := exists_optionally_iff IsFlag v
  have htexts := exists_optionally_iff IsTexts v
  cases k with
  | normalize =>
    exact Iff.trans ⟨fun ⟨o, h⟩ => ⟨o.normalize, h⟩, fun ⟨b, h⟩ => ⟨{ normalize := b }, h⟩⟩ hflag
  | wordBasedMatching =>
    exact Iff.trans ⟨fun ⟨o, h⟩ => ⟨o.wordBasedMatching, h⟩,
      fun ⟨b, h⟩ => ⟨{ wordBasedMatching := b }, h⟩⟩ hflag
  | orderByBestMatch =>
    exact Iff.trans ⟨fun ⟨o, h⟩ => ⟨o.orderByBestMatch, h⟩,
      fun ⟨b, h⟩ => ⟨{ orderByBestMatch := b }, h⟩⟩ hflag
  | ignoreSuffixes =>
    exact Iff.trans ⟨fun ⟨o, h⟩ => ⟨o.ignoreSuffixes, h⟩,
      fun ⟨texts, h⟩ => ⟨{ ignoreSuffixes := texts }, h⟩⟩ htexts

theorem holds_unique {o o' : Options} {w : OptionKey → Option Setting}
    (h : ∀ k, o.Holds (w k) k) (h' : ∀ k, o'.Holds (w k) k) : o = o' := by
  have hflag := reads_asBoolean.optional
  have hnormalize : o.normalize = o'.normalize := (h .normalize).unique hflag (h' .normalize)
  have hwords : o.wordBasedMatching = o'.wordBasedMatching :=
    (h .wordBasedMatching).unique hflag (h' .wordBasedMatching)
  have horder : o.orderByBestMatch = o'.orderByBestMatch :=
    (h .orderByBestMatch).unique hflag (h' .orderByBestMatch)
  have hsuffixes : o.ignoreSuffixes = o'.ignoreSuffixes :=
    (h .ignoreSuffixes).unique reads_asTexts.optional (h' .ignoreSuffixes)
  cases o
  cases o'
  rw [Options.mk.injEq]
  exact ⟨hnormalize, hwords, horder, hsuffixes⟩

theorem shape_follows : shape.Follows {} description where
  expected := rfl
  names := rfl
  nodup := by decide
  field_of_name k := by
    have hk : OptionKey.ofKey? k.key = some k := OptionKey.ofKey?_eq_some_iff.2 rfl
    simp only [shape, description, hk]
  field_of_ne h := by
    have hk := OptionKey.ofKey?_eq_none_iff.2 h
    simp only [shape, description, hk, Option.elim]
  put_eq_error_iff _ _ _ _ := put_eq_error_iff
  holds_put := holds_put
  holds_put_of_ne := holds_put_of_ne
  holds_start k := by cases k <;> rfl
  unique := holds_unique
  exists_holds_iff _ _ := exists_holds_iff
  exists_refuses_iff k v := by
    simp only [description]
    rw [exists_and_left, k.exists_no_iff, not_or]

end Options

namespace ConfigKey

def key : ConfigKey → String
  | .option k => k.key
  | .engine => "engine"

theorem ofKey?_eq_some_iff {s : String} {k : ConfigKey} : ofKey? s = some k ↔ k.key = s := by
  by_cases hs : s = "engine"
  · subst hs
    cases k with
    | option k => cases k <;> decide
    | engine => decide
  · rw [ofKey?, if_neg hs]
    cases k with
    | option k =>
      rw [Option.map_eq_some_iff]
      simp [OptionKey.ofKey?_eq_some_iff, key]
    | engine => exact iff_of_false (by simp) (fun h => hs h.symm)

theorem ofKey?_eq_none_iff {s : String} : ofKey? s = none ↔ ∀ k : ConfigKey, k.key ≠ s := by
  rw [Option.eq_none_iff_forall_ne_some]
  simp only [Ne, ofKey?_eq_some_iff]

def Takes : ConfigKey → Setting → Prop
  | .option k, v => k.Takes v
  | .engine, v => ∃ kind, NamesEngine v kind

def No : ConfigKey → Setting → Refusal → Prop
  | .option k => k.No
  | .engine => NoEngine

theorem exists_no_iff (k : ConfigKey) (v : Setting) : (∃ r, k.No v r) ↔ ¬ k.Takes v := by
  cases k with
  | option k => exact k.exists_no_iff v
  | engine => exact reads_readEngine.exists_refused_iff v

end ConfigKey

namespace Config

def Holds (c : Config) (w : Option Setting) : ConfigKey → Prop
  | .option .normalize => GivenOr IsFlag ({} : Config).normalize w c.normalize
  | .option .wordBasedMatching =>
    GivenOr IsFlag ({} : Config).wordBasedMatching w c.wordBasedMatching
  | .option .orderByBestMatch => GivenOr IsFlag ({} : Config).orderByBestMatch w c.orderByBestMatch
  | .option .ignoreSuffixes => GivenOr IsTexts ({} : Config).ignoreSuffixes w c.ignoreSuffixes
  | .engine => GivenOr NamesEngine ({} : Config).engine w c.engine

def description : Description Config ConfigKey where
  expected := .config
  names := ["normalize", "order_by_best_match", "word_based_matching", "ignore_suffixes", "engine"]
  name := ConfigKey.key
  other := none
  Accepts := ConfigKey.Takes
  Holds := Holds
  Refuses := ConfigKey.No

theorem put_eq_error_iff {c : Config} {k : ConfigKey} {v : Setting} {r : Refusal} :
    c.put k v = .error r ↔ k.No v r := by
  rcases k with k | _
  · cases k with
    | ignoreSuffixes => exact bind_pure_eq_error_iff.trans (reads_asTexts.error_iff v r)
    | _ => exact bind_pure_eq_error_iff.trans (reads_asBoolean.error_iff v r)
  · exact bind_pure_eq_error_iff.trans (reads_readEngine.error_iff v r)

theorem holds_put {c c' : Config} {k : ConfigKey} {v : Setting} (h : c.put k v = .ok c') :
    c'.Holds (some v) k := by
  rcases k with k | _
  · cases k <;> obtain ⟨a, ha, rfl⟩ := bind_pure_eq_ok_iff.1 h
    case ignoreSuffixes => exact (reads_asTexts.ok_iff v a).1 ha
    all_goals exact (reads_asBoolean.ok_iff v a).1 ha
  · obtain ⟨kind, hkind, rfl⟩ := bind_pure_eq_ok_iff.1 h
    exact (reads_readEngine.ok_iff v kind).1 hkind

theorem holds_put_of_ne {c c' : Config} {k j : ConfigKey} {v : Setting} {w : Option Setting}
    (h : c.put k v = .ok c') (hne : k ≠ j) (hw : c.Holds w j) : c'.Holds w j := by
  rcases k with (_ | _ | _ | _) | _ <;> obtain ⟨a, -, rfl⟩ := bind_pure_eq_ok_iff.1 h <;>
    rcases j with (_ | _ | _ | _) | _ <;> first | exact absurd rfl hne | exact hw

theorem holds_unique {c c' : Config} {w : ConfigKey → Option Setting}
    (h : ∀ k, c.Holds (w k) k) (h' : ∀ k, c'.Holds (w k) k) : c = c' := by
  have hflag := reads_asBoolean
  have hnormalize : c.normalize = c'.normalize :=
    (h (.option .normalize)).unique hflag (h' (.option .normalize))
  have hwords : c.wordBasedMatching = c'.wordBasedMatching :=
    (h (.option .wordBasedMatching)).unique hflag (h' (.option .wordBasedMatching))
  have horder : c.orderByBestMatch = c'.orderByBestMatch :=
    (h (.option .orderByBestMatch)).unique hflag (h' (.option .orderByBestMatch))
  have hsuffixes : c.ignoreSuffixes = c'.ignoreSuffixes :=
    (h (.option .ignoreSuffixes)).unique reads_asTexts (h' (.option .ignoreSuffixes))
  have hengine : c.engine = c'.engine := (h .engine).unique reads_readEngine (h' .engine)
  cases c
  cases c'
  rw [Config.mk.injEq]
  exact ⟨hnormalize, horder, hwords, hsuffixes, hengine⟩

theorem exists_holds_iff {v : Setting} {k : ConfigKey} :
    (∃ c : Config, c.Holds (some v) k) ↔ k.Takes v := by
  rcases k with k | _
  · cases k with
    | normalize => exact ⟨fun ⟨c, h⟩ => ⟨c.normalize, h⟩, fun ⟨b, h⟩ => ⟨{ normalize := b }, h⟩⟩
    | wordBasedMatching =>
      exact ⟨fun ⟨c, h⟩ => ⟨c.wordBasedMatching, h⟩, fun ⟨b, h⟩ => ⟨{ wordBasedMatching := b }, h⟩⟩
    | orderByBestMatch =>
      exact ⟨fun ⟨c, h⟩ => ⟨c.orderByBestMatch, h⟩, fun ⟨b, h⟩ => ⟨{ orderByBestMatch := b }, h⟩⟩
    | ignoreSuffixes =>
      exact ⟨fun ⟨c, h⟩ => ⟨c.ignoreSuffixes, h⟩,
        fun ⟨texts, h⟩ => ⟨{ ignoreSuffixes := texts }, h⟩⟩
  · exact ⟨fun ⟨c, h⟩ => ⟨c.engine, h⟩, fun ⟨kind, h⟩ => ⟨{ engine := kind }, h⟩⟩

theorem shape_follows : shape.Follows {} description where
  expected := rfl
  names := rfl
  nodup := by decide
  field_of_name k := by
    have hk : ConfigKey.ofKey? k.key = some k := ConfigKey.ofKey?_eq_some_iff.2 rfl
    simp only [shape, description, hk]
  field_of_ne h := by
    have hk := ConfigKey.ofKey?_eq_none_iff.2 h
    simp only [shape, description, hk, Option.elim]
  put_eq_error_iff _ _ _ _ := put_eq_error_iff
  holds_put := holds_put
  holds_put_of_ne := holds_put_of_ne
  holds_start k := by rcases k with (_ | _ | _ | _) | _ <;> rfl
  unique := holds_unique
  exists_holds_iff _ _ := exists_holds_iff
  exists_refuses_iff := ConfigKey.exists_no_iff

end Config

/-- The formats of options and of configurations are exactly these. They differ in the order of a
list's items, in what null and other names mean, and in what holds of a field that is not given. -/
theorem settings_formats :
    Options.description.IsFormatOf Options.read ∧ Config.description.IsFormatOf Config.read :=
  ⟨Options.shape_follows.isFormatOf, Config.shape_follows.isFormatOf⟩

example : Options.read (.list [.null, .boolean false]) = .ok { wordBasedMatching := some false } :=
  rfl

example : Config.read (.list [.boolean true, .boolean false]) = .ok { orderByBestMatch := false } :=
  rfl

end TermSearch
