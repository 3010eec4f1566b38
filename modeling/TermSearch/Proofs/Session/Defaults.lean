import TermSearch.Proofs.Session.Operations

/-! The defaults over a run: the first operation that installs or reads them decides what they are. -/

namespace TermSearch

namespace Operation

/-- Whether the defaults are fixed after the operation. A search by a searcher of its own config does
not touch them, nor does the search that does nothing for a blank term. -/
def fixes : Operation → Bool
  | .install _ | .readDefaults | .defaultSearcher | .search _ | .chained _ => true
  | .searchUnlessBlank r => !r.isBlank
  | .searcherOf _ | .apply _ => false

def choice : Operation → Config
  | .install config => config
  | _ => {}

def settled (ops : List Operation) : Option Config :=
  (ops.find? fixes).map choice

def Sees (config : Config) (effect : Effect) : Operation → Prop
  | .readDefaults => effect.answer = .config config
  | .defaultSearcher => effect.answer = .searcher (.ofConfig config)
  | .search r | .chained r | .searchUnlessBlank r =>
    effect = .ofReport (Call.report ⟨.ofConfig config, r⟩) effect.session
  | .install _ | .searcherOf _ | .apply _ => True

theorem settled_append (xs ys : List Operation) :
    settled (xs ++ ys) = (settled xs).or (settled ys) := by
  rw [settled, List.find?_append, Option.map_or]
  rfl

theorem settled_singleton (op : Operation) :
    settled [op] = if op.fixes then some op.choice else none := by
  rw [settled, List.find?_singleton]
  cases op.fixes <;> rfl

theorem isSome_settled (ops : List Operation) : (settled ops).isSome = ops.any fixes := by
  rw [settled, Option.isSome_map, Bool.eq_iff_iff, List.find?_isSome, List.any_eq_true]

end Operation

def Effect.installs (effect : Effect) : Bool :=
  match effect.answer with
  | .installed accepted => accepted
  | .config _ | .searcher _ | .found _ => false

namespace Session

open Operation

variable (s : Session) (op : Operation)

theorem fixed_perform : (s.perform op).session.fixed = s.fixed.or (settled [op]) := by
  rw [settled_singleton]
  cases op with
  | install config =>
    rw [perform_install]
    rfl
  | readDefaults | defaultSearcher => exact Option.or_some.symm
  | searcherOf | apply => exact (Option.or_none ..).symm
  | search r => rw [perform_search]; exact Option.or_some.symm
  | chained r => rw [perform_chained, perform_search]; exact Option.or_some.symm
  | searchUnlessBlank r =>
    cases hb : r.isBlank with
    | true =>
      rw [perform_searchUnlessBlank_of_isBlank s hb, fixes, hb]
      exact (Option.or_none ..).symm
    | false =>
      rw [perform_searchUnlessBlank_of_not_isBlank s hb, perform_search, fixes, hb]
      exact Option.or_some.symm

theorem fixed_after (ops : List Operation) : (s.after ops).fixed = s.fixed.or (settled ops) := by
  induction ops generalizing s with
  | nil => exact (Option.or_none ..).symm
  | cons op ops ih =>
    rw [after_cons, ih, fixed_perform, Option.or_assoc, ← settled_append, List.singleton_append]

variable {op}

theorem sees_perform (h : op.fixes = true) : op.Sees (s.fixed.getD op.choice) (s.perform op) := by
  have hsearch {r : Request} (hc : s.call? op = some ⟨s.searcher, r⟩) :
      s.perform op = .ofReport (Call.report ⟨.ofConfig s.defaults, r⟩) (s.perform op).session :=
    perform_of_call? s hc
  cases op with
  | install => trivial
  | readDefaults | defaultSearcher => rfl
  | searcherOf | apply => exact nomatch h
  | search r | chained r => exact hsearch rfl
  | searchUnlessBlank r =>
    have hb : r.isBlank = false := by simpa [fixes] using h
    exact hsearch (s.call?_searchUnlessBlank hb)

theorem perform_of_not_fixes (h : op.fixes = false) (other : Session) :
    other.perform op = ⟨(s.perform op).answer, (s.perform op).journal, other⟩ := by
  cases op with
  | install | readDefaults | defaultSearcher | search | chained => exact nomatch h
  | searcherOf => rfl
  | apply => rw [perform, perform, Effect.ofReport, Effect.ofReport]
  | searchUnlessBlank r =>
    have hb : r.isBlank = true := by simpa [fixes] using h
    rw [perform_searchUnlessBlank_of_isBlank s hb, perform_searchUnlessBlank_of_isBlank other hb]

theorem installs_perform (h : (s.perform op).installs = true) :
    s.fixed = none ∧ (s.perform op).session.fixed ≠ none := by
  cases hc : s.call? op with
  | some call =>
    rw [Effect.installs, s.answer_of_call? hc] at h
    exact nomatch h
  | none =>
    cases op with
    | install config =>
      rw [perform_install] at h ⊢
      have hf : s.fixed = none := Option.isNone_iff_eq_none.1 h
      rw [hf]
      exact ⟨rfl, Option.some_ne_none config⟩
    | readDefaults | defaultSearcher | searcherOf => exact nomatch h
    | search | chained | apply => exact nomatch hc
    | searchUnlessBlank r =>
      rw [perform_searchUnlessBlank_of_isBlank s (isBlank_of_call?_eq_none s hc)] at h
      exact nomatch h

theorem countP_installs_le (ops : List Operation) :
    (s.run ops).countP Effect.installs ≤ s.fixed.isNone.toNat := by
  induction ops generalizing s with
  | nil => exact Nat.zero_le _
  | cons op ops ih =>
    have hrest := ih (s.perform op).session
    rw [run_cons, List.countP_cons]
    cases hi : (s.perform op).installs with
    | true =>
      -- The defaults are fixed from here on, so no later installation succeeds.
      obtain ⟨hs, hfixed⟩ := s.installs_perform hi
      rw [Option.isNone_eq_false_iff.2 (Option.isSome_iff_ne_none.2 hfixed)] at hrest
      rw [hs]
      simpa using hrest
    | false =>
      have hkeep : (s.perform op).session.fixed.isNone.toNat ≤ s.fixed.isNone.toNat := by
        rw [fixed_perform]
        cases s.fixed with
        | none => exact Bool.toNat_le _
        | some config => exact le_rfl
      simpa using hrest.trans hkeep

theorem warns_iff :
    (∃ event ∈ (s.perform op).journal.events, event.level = .warn) ↔
      (s.perform op).answer = .installed false := by
  cases hc : s.call? op with
  | some call =>
    rw [s.answer_of_call? hc, s.journal_of_call? hc, Call.report]
    refine iff_of_false ?_ ?_
    · rintro ⟨event, he, hlevel⟩
      rw [Searcher.level_of_mem_events he] at hlevel
      cases hlevel
    · intro hanswer
      cases hanswer
  | none =>
    rcases s.journal_of_call?_eq_none hc with ⟨ha, hj⟩ | ⟨ha, hj⟩
    · rw [hj]
      exact iff_of_true ⟨.defaultsAlreadyFixed, List.mem_singleton_self _, rfl⟩ ha
    · rw [hj]
      refine iff_of_false ?_ ha
      rintro ⟨_, he, -⟩
      exact absurd he List.not_mem_nil

end Session

structure Operation.Settles (before : List Operation) (op : Operation) (effect : Effect) : Prop where
  fixed : effect.session.fixed = settled (before ++ [op])
  installed : ∀ config, op = .install config → effect.answer = .installed (!before.any fixes)
  warned : (∃ event ∈ effect.journal.events, event.level = .warn) ↔
    effect.answer = .installed false
  sees : op.fixes = true → ∃ config, effect.session.fixed = some config ∧ op.Sees config effect
  untouched : op.fixes = false → ∀ other : Session,
    other.perform op = ⟨effect.answer, effect.journal, other⟩

theorem Session.settles_perform (before : List Operation) (op : Operation) :
    op.Settles before ((({} : Session).after before).perform op) where
  fixed := by rw [fixed_perform, fixed_after, Operation.settled_append, Option.none_or]
  installed := by
    rintro config rfl
    rw [perform_install, fixed_after, Option.none_or, ← Operation.isSome_settled, Option.not_isSome]
  warned := warns_iff _
  sees h := by
    refine ⟨_, ?_, sees_perform _ h⟩
    rw [fixed_perform, Operation.settled_singleton, if_pos h, Option.or_some]
  untouched h := perform_of_not_fixes _ h

/-- The first operation that installs or reads the defaults fixes them, and every later one goes by
what it fixed. -/
theorem defaults_fixed_once (ops : List Operation) :
    (({} : Session).after ops).fixed = Operation.settled ops ∧
    (∀ before later config, ops = before ++ later →
      (({} : Session).after before).fixed = some config →
        (({} : Session).after ops).fixed = some config) ∧
    (({} : Session).run ops).countP Effect.installs ≤ 1 ∧
    (∀ before op later, ops = before ++ op :: later →
      ∃ effect, (({} : Session).run ops)[before.length]? = some effect ∧
        op.Settles before effect) := by
  refine ⟨?_, ?_, ?_, ?_⟩
  · rw [Session.fixed_after, Option.none_or]
  · rintro before later config rfl h
    rw [Session.after_append, Session.fixed_after, h, Option.some_or]
  · exact Session.countP_installs_le {} ops
  · rintro before op later rfl
    exact ⟨_, Session.getElem?_run {} before op later, Session.settles_perform before op⟩

example (config : Config) :
    (({} : Session).run [.readDefaults, .install config]).map Effect.answer =
      [.config {}, .installed false] := rfl

end TermSearch
