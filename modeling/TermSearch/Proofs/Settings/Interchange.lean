import TermSearch.Proofs.Search.Leniency
import TermSearch.Proofs.Settings.Formats

/-! A record of options as a configuration. Options that are given are read alike from both, and a
search does not tell the one from the other. -/

namespace TermSearch

open Setting

def Options.over (o : Options) (c : Config) : Config :=
  { c with
    normalize := o.normalize.getD c.normalize
    wordBasedMatching := o.wordBasedMatching.getD c.wordBasedMatching
    orderByBestMatch := o.orderByBestMatch.getD c.orderByBestMatch
    ignoreSuffixes := o.ignoreSuffixes.getD c.ignoreSuffixes }

theorem OptionKey.key_ne_engine (k : OptionKey) : k.key ≠ ConfigKey.engine.key := by
  cases k <;> decide

theorem Config.rules_over (c : Config) (o : Options) : (o.over c).rules {} = c.rules o := rfl

namespace Setting

def GivesOptions (fields : List (String × Setting)) : Prop :=
  ∀ name v, lastValue? fields name = some v →
    name ∈ ["normalize", "word_based_matching", "order_by_best_match", "ignore_suffixes"] ∧ v ≠ .null

theorem GivenOr.getD {α : Type} {R : Setting → α → Prop} {start : α} {w : Option Setting}
    {a : Option α} (h : GivenOr (Optionally R) none w a) (hw : ∀ v, w = some v → v ≠ .null) :
    GivenOr R start w (a.getD start) := by
  cases w with
  | none =>
    obtain rfl : a = none := h
    rfl
  | some v =>
    rcases h with _ | ⟨-, hb⟩
    · exact absurd rfl (hw .null rfl)
    · exact hb

variable {fields : List (String × Setting)}

theorem givesOptions_of_forall (h : ∀ field ∈ fields,
    field.1 ∈ ["normalize", "word_based_matching", "order_by_best_match", "ignore_suffixes"] ∧
      field.2 ≠ .null) : GivesOptions fields := by
  intro name v hv
  obtain ⟨before, after, he, -⟩ := List.lookup_eq_some_iff.1 hv
  have hmem : (name, v) ∈ fields.reverse := he ▸ List.mem_append_right _ (.head _)
  exact h (name, v) (List.mem_reverse.1 hmem)

theorem GivesOptions.exists_key (h : GivesOptions fields) {name : String} {v : Setting}
    (hv : lastValue? fields name = some v) : ∃ k : OptionKey, k.key = name := by
  have hname : name ∈ OptionKey.all.map OptionKey.key := (h name v hv).1
  obtain ⟨k, -, hk⟩ := List.mem_map.1 hname
  exact ⟨k, hk⟩

theorem GivesOptions.problem_iff (h : GivesOptions fields) {name : String} {v : Setting}
    (hv : lastValue? fields name = some v) (r : Refusal) :
    Options.description.Problem name v r ↔ Config.description.Problem name v r := by
  obtain ⟨k, hk⟩ := h.exists_key hv
  constructor
  · rintro (@⟨j, r, hj, -, hr⟩ | ⟨-, hne⟩)
    · exact .field (f := ConfigKey.option j) hj hr
    · exact absurd hk (hne k)
  · rintro (@⟨j | _, r, hj, hr⟩ | ⟨-, hne⟩)
    · exact .field (f := j) hj ⟨(h name v hv).2, hr⟩
    · exact absurd (hk.trans hj.symm) k.key_ne_engine
    · exact absurd hk (hne (.option k))

theorem GivesOptions.read_eq_error_iff (h : GivesOptions fields) (r : Refusal) :
    Options.read (.record fields) = .error r ↔ Config.read (.record fields) = .error r := by
  have hoptions : Options.read (.record fields) = .error r ↔
      First (fun entry => Options.description.Problem entry.1 entry.2) (sortedFields fields) r :=
    Options.shape_follows.foldlM_putKey_eq_error_iff
  have hconfig : Config.read (.record fields) = .error r ↔
      First (fun entry => Config.description.Problem entry.1 entry.2) (sortedFields fields) r :=
    Config.shape_follows.foldlM_putKey_eq_error_iff
  have hsame : List.Forall₂ (fun entry entry' => ∀ r, Options.description.Problem entry.1 entry.2 r ↔
      Config.description.Problem entry'.1 entry'.2 r) (sortedFields fields) (sortedFields fields) := by
    rw [List.forall₂_same]
    intro entry hentry
    exact h.problem_iff ((mem_sortedFields_iff fields entry).1 hentry)
  rw [hoptions, hconfig]
  exact first_forall₂ hsame (fun _ _ hproblem => hproblem) r

theorem GivesOptions.config_eq_over (h : GivesOptions fields) {o : Options} {c : Config}
    (ho : Options.read (.record fields) = .ok o) (hc : Config.read (.record fields) = .ok c) :
    c = o.over {} := by
  have hoptions := (Options.shape_follows.readAs_eq_ok_iff.1 ho).2
  have hconfig := (Config.shape_follows.readAs_eq_ok_iff.1 hc).2
  have hgiven (k : OptionKey) (v : Setting) (hv : lastValue? fields k.key = some v) : v ≠ .null :=
    (h k.key v hv).2
  refine Config.shape_follows.unique hconfig fun k => ?_
  rcases k with k | _
  · cases k with
    | normalize => exact (hoptions .normalize).getD (hgiven .normalize)
    | wordBasedMatching => exact (hoptions .wordBasedMatching).getD (hgiven .wordBasedMatching)
    | orderByBestMatch => exact (hoptions .orderByBestMatch).getD (hgiven .orderByBestMatch)
    | ignoreSuffixes => exact (hoptions .ignoreSuffixes).getD (hgiven .ignoreSuffixes)
  · -- The engine is no option, so that it stays what it is by default.
    have hnone : lastValue? fields ConfigKey.engine.key = none := by
      refine Option.eq_none_iff_forall_ne_some.2 fun v hv => ?_
      obtain ⟨k, hk⟩ := h.exists_key hv
      exact k.key_ne_engine hk
    have hengine : GivenOr NamesEngine .ilike (lastValue? fields ConfigKey.engine.key) .ilike := by
      rw [hnone]
      rfl
    exact hengine

end Setting

/-- What a record of options sets, it sets as well when it is read as a configuration, and it is
refused for the same reason. A search with the options is a search with that configuration. -/
theorem options_as_configuration {fields : List (String × Setting)} (h : GivesOptions fields) :
    ((∃ o, Options.read (.record fields) = .ok o) ↔
      ∃ c, Config.read (.record fields) = .ok c) ∧
    (∀ r, Options.read (.record fields) = .error r ↔ Config.read (.record fields) = .error r) ∧
    ∀ o c, Options.read (.record fields) = .ok o → Config.read (.record fields) = .ok c →
      Config.rules {} o = c.rules {} ∧
      ∀ (names : Resolver) (q : Select) (term : Option String) (columns : List String),
        (Searcher.ofConfig {}).search names q term columns o =
          (Searcher.ofConfig c).search names q term columns {} := by
  refine ⟨?_, h.read_eq_error_iff, fun o c ho hc => ?_⟩
  · simp only [exists_ok_iff, Ne, h.read_eq_error_iff]
  · have hrules : Config.rules {} o = c.rules {} := by
      rw [h.config_eq_over ho hc, Config.rules_over]
    refine ⟨hrules, fun names q term columns => ?_⟩
    refine Searcher.search_eq_of_alike (Searcher.engine_ofConfig {}) (Searcher.engine_ofConfig c) ?_
      names q term columns
    have halike : (Config.rules {} o).Alike (c.rules {}) := hrules ▸ .refl _
    exact halike

def wardFields : List (String × Setting) :=
  [("normalize", .boolean false), ("ignore_suffixes", .list [.text "Ward"])]

theorem options_as_configuration_ward :
    GivesOptions wardFields ∧
    ∃ o c, Options.read (.record wardFields) = .ok o ∧ Config.read (.record wardFields) = .ok c ∧
      (c.rules {}).normalize = false ∧ (c.rules {}).ignoreSuffixes = ["ward"] ∧
      Config.rules {} o = c.rules {} ∧
      (Searcher.ofConfig {}).search people.resolver earlierPeople (some "Lagos Ward") ["name"] o =
        (Searcher.ofConfig c).search people.resolver earlierPeople (some "Lagos Ward") ["name"]
          {} := by
  have h : GivesOptions wardFields := by
    refine givesOptions_of_forall fun field hfield => ?_
    rcases List.mem_pair.1 hfield with rfl | rfl
    · exact ⟨by decide, by simp⟩
    · exact ⟨by decide, by simp⟩
  obtain ⟨-, -, hsearch⟩ := options_as_configuration h
  have ho : Options.read (.record wardFields) =
      .ok { normalize := some false, ignoreSuffixes := some ["Ward"] } := rfl
  have hc : Config.read (.record wardFields) =
      .ok { normalize := false, ignoreSuffixes := ["Ward"] } := rfl
  obtain ⟨hrules, hsame⟩ := hsearch _ _ ho hc
  exact ⟨h, _, _, ho, hc, rfl, by decide, hrules, hsame _ _ _ _⟩

end TermSearch
