import TermSearch.Proofs.Search.Agreement
import TermSearch.Proofs.Tokens

/-! Changes of rules. Normalization and word matching only ever add rows and points, and words to
ignore only take them away; where the rules leave a setting out, a search is the same under all of its
values. -/

namespace TermSearch

section Loosened

variable {r r' : Rules} {s : String}

/-- A term accepts under the first rules what it accepts under the others, and scores no less, however
the comparisons turn out. -/
def Rules.NoStricter (r' r : Rules) (s : String) : Prop :=
  ∀ (ρ : Type) (I : Reading ρ) (p : ρ) (c : Column),
    ((Engine.ilike.condition c (.ofText s r) r).truth I p = .yes →
      (Engine.ilike.condition c (.ofText s r') r').truth I p = .yes) ∧
    ∃ m n, (Engine.ilike.score c (.ofText s r) r).value (I.like p) = some m ∧
      (Engine.ilike.score c (.ofText s r') r').value (I.like p) = some n ∧ m ≤ n

theorem Rules.noStricter_of (hn : r.normalize = true → r'.normalize = true)
    (ht : ((Term.ofText s r).matchTokens r).Sublist ((Term.ofText s r').matchTokens r')) :
    r'.NoStricter r s := by
  intro ρ I p c
  constructor
  · rw [Engine.truth_ilike_eq_yes_iff, Engine.truth_ilike_eq_yes_iff]
    rintro (hraw | ⟨hr, hstripped⟩ | ⟨hr, token, htoken, hword⟩)
    · exact .inl hraw
    · exact .inr (.inl ⟨hn hr, hstripped⟩)
    · exact .inr (.inr ⟨hn hr, token, ht.subset htoken, hword⟩)
  · refine ⟨_, _, Engine.value_score_ilike .., Engine.value_score_ilike .., ?_⟩
    refine Nat.add_le_add (Nat.add_le_add_left ?_ _) (Nat.mul_le_mul_left 10 ht.countP_le)
    split
    next h => rw [if_pos ⟨hn h.1, h.2⟩]
    next => exact Nat.zero_le _

theorem Term.matchTokens_sublist_of_ignoreSuffixes_subset
    (hw : r.wordBasedMatching = r'.wordBasedMatching) (h : r.ignoreSuffixes ⊆ r'.ignoreSuffixes)
    (s : String) :
    ((ofText s r').matchTokens r').Sublist ((ofText s r).matchTokens r) := by
  cases hr : r'.wordBasedMatching with
  | false =>
    rw [matchTokens_eq_nil s hr]
    exact List.nil_sublist _
  | true =>
    rw [matchTokens_eq_filter s hr, matchTokens_eq_filter s (hw.trans hr)]
    refine List.monotone_filter_right _ fun token htoken => ?_
    rw [Rules.isSignificant_iff] at htoken ⊢
    exact ⟨htoken.1, fun hmem => htoken.2 (h hmem)⟩

theorem Rules.normalize_noStricter (r : Rules) (s : String) :
    { r with normalize := true }.NoStricter { r with normalize := false } s :=
  noStricter_of (fun _ => rfl) (List.Sublist.refl _)

theorem Rules.wordBasedMatching_noStricter (r : Rules) (s : String) :
    { r with wordBasedMatching := true }.NoStricter { r with wordBasedMatching := false } s := by
  refine noStricter_of (fun hn => hn) ?_
  rw [Term.matchTokens_eq_nil s rfl]
  exact List.nil_sublist _

theorem Rules.noStricter_of_ignoreSuffixes_subset (hn : r'.normalize = true → r.normalize = true)
    (hw : r.wordBasedMatching = r'.wordBasedMatching) (h : r.ignoreSuffixes ⊆ r'.ignoreSuffixes)
    (s : String) : r.NoStricter r' s :=
  noStricter_of hn (Term.matchTokens_sublist_of_ignoreSuffixes_subset hw h s)

end Loosened

structure Rules.Alike (r r' : Rules) : Prop where
  normalize : r.normalize = r'.normalize
  wordBasedMatching : r.wordBasedMatching = r'.wordBasedMatching
  orderByBestMatch : r.orderByBestMatch = r'.orderByBestMatch
  ignores : r.wordBasedMatching = true → ∀ word, r.ignores word = r'.ignores word

namespace Rules.Alike

variable {r r' : Rules}

theorem refl (r : Rules) : r.Alike r :=
  ⟨rfl, rfl, rfl, fun _ _ => rfl⟩

theorem tokenize_eq (h : r.Alike r') (s : String) : tokenize s r = tokenize s r' := by
  cases hr : r.wordBasedMatching with
  | false =>
    have hr' : r'.wordBasedMatching = false := h.wordBasedMatching ▸ hr
    rw [tokenize_of_not_wordBasedMatching s hr, tokenize_of_not_wordBasedMatching s hr']
  | true =>
    have hr' : r'.wordBasedMatching = true := h.wordBasedMatching ▸ hr
    rw [tokenize_eq_filter s hr, tokenize_eq_filter s hr']
    refine List.filter_congr fun word _ => ?_
    rw [isSignificant, isSignificant, h.ignores hr]

theorem ofText_eq (h : r.Alike r') (s : String) : Term.ofText s r = Term.ofText s r' := by
  rw [Term.ofText, Term.ofText, h.tokenize_eq]

theorem matchTokens_eq (h : r.Alike r') (t : Term) : t.matchTokens r = t.matchTokens r' := by
  rw [Term.matchTokens, Term.matchTokens, h.wordBasedMatching]

theorem condition_ilike_eq (h : r.Alike r') (c : Column) (t : Term) :
    Engine.ilike.condition c t r = Engine.ilike.condition c t r' := by
  simp only [Engine.ilike, Engine.clauses, h.normalize, h.matchTokens_eq]

theorem score_ilike_eq (h : r.Alike r') (c : Column) (t : Term) :
    Engine.ilike.score c t r = Engine.ilike.score c t r' := by
  simp only [Engine.ilike, Engine.branches, h.normalize, h.matchTokens_eq]

end Rules.Alike

theorem Target.condition_congr {e : Engine} {t t' : Term} {r r' : Rules}
    (h : ∀ c, e.condition c t r = e.condition c t' r') (target : Target) :
    target.condition e t r = target.condition e t' r' := by
  cases target with
  | own c => exact h c
  | related relation c => rw [condition, condition, h]

theorem Searcher.search_eq_of_alike {s s' : Searcher} {options options' : Options}
    (he : s.engine = .ilike) (he' : s'.engine = .ilike)
    (h : (s.config.rules options).Alike (s'.config.rules options')) (names : Resolver) (q : Select)
    (term : Option String) (columns : List String) :
    s.search names q term columns options = s'.search names q term columns options' := by
  have horder (targets : List Target) (t : Term) :
      bestMatchOrder? .ilike targets t (s.config.rules options) =
        bestMatchOrder? .ilike targets t (s'.config.rules options') := by
    simp only [bestMatchOrder?, h.score_ilike_eq, h.orderByBestMatch]
  have hcondition (t : Term) : Target.condition .ilike t (s.config.rules options) =
      Target.condition .ilike t (s'.config.rules options') :=
    funext (Target.condition_congr fun c => h.condition_ilike_eq c t)
  simp only [search, attached, attachedJournal, he, he', horder, hcondition, h.ofText_eq,
    h.matchTokens_eq]

theorem Engine.condition_ilike_of_not_normalize {r : Rules} (hn : r.normalize = false) (c : Column)
    (t : Term) : ilike.condition c t r = (TextView.cast c).contains t.raw := by
  simp [ilike, clauses, hn, Condition.anyOf]

theorem Searcher.filters_search_of_not_normalize {s s' : Searcher} {options options' : Options}
    (he : s.engine = .ilike) (he' : s'.engine = .ilike)
    (hn : (s.config.rules options).normalize = false)
    (hn' : (s'.config.rules options').normalize = false) (names : Resolver) (q : Select)
    (term : Option String) (columns : List String) :
    Select.filters <$> (s.search names q term columns options).outcome =
      Select.filters <$> (s'.search names q term columns options').outcome := by
  have hcondition (x : String) :
      Target.condition .ilike (.ofText x (s.config.rules options)) (s.config.rules options) =
        Target.condition .ilike (.ofText x (s'.config.rules options'))
          (s'.config.rules options') := by
    refine funext (Target.condition_congr fun c => ?_)
    rw [Engine.condition_ilike_of_not_normalize hn, Engine.condition_ilike_of_not_normalize hn',
      Term.raw_ofText, Term.raw_ofText]
  cases hp : Passthrough.of? q (Text.trim (term.getD "")) columns with
  | some p =>
    rw [s.search_of_passthrough names options hp, s'.search_of_passthrough names options' hp]
  | none =>
    have hsearched := (Passthrough.of?_eq_none_iff q term columns).1 hp
    rw [s.search_of_not_leftAlone names options hsearched,
      s'.search_of_not_leftAlone names options' hsearched]
    cases resolveAll names q.table columns with
    | error failure => rfl
    | ok targets =>
      have hfilters : (s.attached q targets (.ofText (term.getD "") (s.config.rules options))
            (s.config.rules options)).filters =
          (s'.attached q targets (.ofText (term.getD "") (s'.config.rules options'))
            (s'.config.rules options')).filters := by
        rw [s.filters_attached, s'.filters_attached, he, he', hcondition]
      exact congrArg Except.ok hfilters

theorem Config.rules_alike {config config' : Config} {options options' : Options}
    (hn : (config.rules options).normalize = (config'.rules options').normalize)
    (hw : (config.rules options).wordBasedMatching = (config'.rules options').wordBasedMatching)
    (ho : (config.rules options).orderByBestMatch = (config'.rules options').orderByBestMatch)
    (hs : (config.rules options).wordBasedMatching = true → ∀ word,
      (∃ entry ∈ config.ignoreList options, Text.lower entry = word) ↔
        ∃ entry ∈ config'.ignoreList options', Text.lower entry = word) :
    (config.rules options).Alike (config'.rules options') where
  normalize := hn
  wordBasedMatching := hw
  orderByBestMatch := ho
  ignores hon word := by
    have hmem := hs hon (Text.lower word)
    rw [Bool.eq_iff_iff, config.ignores_rules_iff, config'.ignores_rules_iff]
    simpa only [eq_comm] using hmem

/-- Normalization and word matching lose no row and no points, and more words to ignore bring none.
Which words a search is told to ignore, by its configuration or by its options, matters only in
lowercase, without order or repetition, and only where words are matched. Without normalization the
filter depends on neither. -/
theorem settings_act_monotonically :
    (∀ (r : Rules) (s : String),
      { r with normalize := true }.NoStricter { r with normalize := false } s ∧
      { r with wordBasedMatching := true }.NoStricter { r with wordBasedMatching := false } s ∧
      ∀ suffixes, r.ignoreSuffixes ⊆ suffixes →
        r.NoStricter { r with ignoreSuffixes := suffixes } s) ∧
    (∀ (config : Config) (options : Options) (configured : List String)
      (given : Option (List String)),
      ((∀ word,
        (∃ entry ∈ config.ignoreList options, Text.lower entry = word) ↔
          ∃ entry ∈ Config.ignoreList { config with ignoreSuffixes := configured }
            { options with ignoreSuffixes := given }, Text.lower entry = word) ∨
        (config.rules options).wordBasedMatching = false) →
      ∀ (names : Resolver) (q : Select) (term : Option String) (columns : List String),
        (Searcher.ofConfig { config with ignoreSuffixes := configured }).search names q term columns
            { options with ignoreSuffixes := given } =
          (Searcher.ofConfig config).search names q term columns options) ∧
    ∀ (config config' : Config) (options options' : Options),
      (config.rules options).normalize = false → (config'.rules options').normalize = false →
      ∀ (names : Resolver) (q : Select) (term : Option String) (columns : List String),
        Select.filters <$> ((Searcher.ofConfig config).search names q term columns options).outcome =
          Select.filters <$>
            ((Searcher.ofConfig config').search names q term columns options').outcome := by
  refine ⟨fun r s => ⟨r.normalize_noStricter s, r.wordBasedMatching_noStricter s, ?_⟩, ?_, ?_⟩
  · intro suffixes h
    refine Rules.noStricter_of_ignoreSuffixes_subset ?_ ?_ ?_ s
    · exact fun hn => hn
    · rfl
    · exact h
  · intro config options configured given h names q term columns
    refine Searcher.search_eq_of_alike (Searcher.engine_ofConfig _) (Searcher.engine_ofConfig _) ?_
      names q term columns
    refine Config.rules_alike rfl rfl rfl fun hon word => ?_
    rcases h with h | hoff
    · exact (h word).symm
    · exact absurd (hoff.symm.trans hon) Bool.false_ne_true
  · intro config config' options options' hn hn' names q term columns
    exact Searcher.filters_search_of_not_normalize (Searcher.engine_ofConfig config)
      (Searcher.engine_ofConfig config') hn hn' names q term columns

theorem settings_act_monotonically_lagos :
    (Config.rules {} {}).NoStricter
      { Config.rules {} {} with ignoreSuffixes := "lagos" :: (Config.rules {} {}).ignoreSuffixes }
      "Lagos State" ∧
    (Searcher.ofConfig { ignoreSuffixes := ["STATE", "state"] }).search people.resolver
        earlierPeople (some "Lagos State") ["name"] {} =
      (Searcher.ofConfig { ignoreSuffixes := ["State"] }).search people.resolver earlierPeople
        (some "Lagos State") ["name"] {} ∧
    (Searcher.ofConfig { wordBasedMatching := false }).search people.resolver earlierPeople
        (some "Lagos State") ["name"] { ignoreSuffixes := some ["Lagos"] } =
      (Searcher.ofConfig { wordBasedMatching := false }).search people.resolver earlierPeople
        (some "Lagos State") ["name"] {} ∧
    Select.filters <$> ((Searcher.ofConfig { normalize := false }).search people.resolver
        earlierPeople (some "Lagos State") ["name"] {}).outcome =
      Select.filters <$> ((Searcher.ofConfig {}).search people.resolver earlierPeople
        (some "Lagos State") ["name"]
        { normalize := some false, wordBasedMatching := some false }).outcome := by
  obtain ⟨hrules, hwords, hfilter⟩ := settings_act_monotonically
  have hmore : (Config.rules {} {}).ignoreSuffixes ⊆
      "lagos" :: (Config.rules {} {}).ignoreSuffixes := List.subset_cons_self ..
  have hmixed : Text.lower "State" = "state" := by decide
  have hupper : Text.lower "STATE" = "state" := by decide
  have hlower : Text.lower "state" = "state" := by decide
  have hsame (word : String) : (∃ entry ∈ ["State"], Text.lower entry = word) ↔
      ∃ entry ∈ ["STATE", "state"], Text.lower entry = word := by
    simp [hmixed, hupper, hlower]
  refine ⟨(hrules _ "Lagos State").2.2 _ hmore, ?_, ?_, ?_⟩
  · exact hwords { ignoreSuffixes := ["State"] } {} ["STATE", "state"] none (.inl hsame) _ _ _ _
  · exact hwords { wordBasedMatching := false } {} _ (some ["Lagos"]) (.inr rfl) _ _ _ _
  · exact hfilter _ _ _ _ rfl rfl _ _ _ _

end TermSearch
