import TermSearch.Proofs.Session.Operations

/-! The ways into a search by the defaults. All of them find what a searcher of these defaults finds;
one turns a blank term away before it reads them. -/

namespace TermSearch

namespace Request

variable (request : Request)

def entrances : List Operation :=
  [.search request, .chained request, .searchUnlessBlank request]

def trimmed : Request :=
  { request with term := request.term.map Text.trim }

theorem isBlank_iff : request.isBlank = true ↔
    ∀ text ∈ request.term, ∀ c ∈ text.toList, Text.isBlank c = true := by
  rw [isBlank, text, String.isEmpty_iff, trim_getD_eq_empty_iff]
  exact forall₂_congr fun text _ => Text.trim_eq_empty_iff text

end Request

namespace Searcher

variable (s : Searcher) (request : Request)

theorem answer_trimmed : s.answer request.trimmed = s.answer request := by
  obtain ⟨names, query, term, columns, options⟩ := request
  cases term with
  | none => rfl
  | some text => exact s.search_trim names options query (some text) columns

variable {request}

theorem outcome_answer_of_isBlank (h : request.isBlank = true) :
    (s.answer request).outcome = .ok request.query := by
  have hblank : ∀ text ∈ request.term, Text.trim text = "" :=
    (trim_getD_eq_empty_iff request.term).1 (String.isEmpty_iff.1 h)
  obtain ⟨p, hp⟩ := s.search_of_leftAlone request.names request.options
    (.inl hblank : request.query.LeftAlone request.term request.columns)
  rw [answer, hp]

end Searcher

namespace Operation

def turnsAway : Operation → Bool
  | .searchUnlessBlank r => r.isBlank
  | .search _ | .chained _ | .apply _ => false
  | .install _ | .readDefaults | .defaultSearcher | .searcherOf _ => false

theorem turnsAway_iff {request : Request} {op : Operation} (h : op ∈ request.entrances) :
    op.turnsAway = true ↔ op = .searchUnlessBlank request ∧ request.isBlank = true := by
  simp only [Request.entrances, List.mem_cons, List.not_mem_nil, or_false] at h
  rcases h with rfl | rfl | rfl
  · exact iff_of_false nofun fun h => nomatch h.1
  · exact iff_of_false nofun fun h => nomatch h.1
  · exact (and_iff_right rfl).symm

inductive Interchangeable : Operation → Operation → Prop where
  | same (op : Operation) : Interchangeable op op
  | entrances {request : Request} {op other : Operation} (mem : op ∈ request.entrances)
      (mem_other : other ∈ request.entrances) (enters : op.turnsAway = false)
      (enters_other : other.turnsAway = false) : Interchangeable op other

end Operation

namespace Session

open Operation

variable (s : Session) {request : Request} {op other : Operation}

theorem perform_entrance (h : op ∈ request.entrances) (henters : op.turnsAway = false) :
    s.perform op = .ofReport ((Searcher.ofConfig s.defaults).answer request) s.afterRead := by
  simp only [Request.entrances, List.mem_cons, List.not_mem_nil, or_false] at h
  rcases h with rfl | rfl | rfl
  · exact s.perform_search request
  · rw [perform_chained, perform_search]
    rfl
  · rw [s.perform_searchUnlessBlank_of_not_isBlank henters, perform_search]
    rfl

theorem perform_turnedAway (h : op ∈ request.entrances) (haway : op.turnsAway = true) :
    s.perform op = ⟨.found (.ok request.query), {}, s⟩ := by
  obtain ⟨rfl, hb⟩ := (turnsAway_iff h).1 haway
  exact s.perform_searchUnlessBlank_of_isBlank hb

theorem perform_eq_of_interchangeable (h : op.Interchangeable other) :
    s.perform op = s.perform other := by
  cases h with
  | same => rfl
  | entrances mem mem_other enters enters_other =>
    rw [s.perform_entrance mem enters, s.perform_entrance mem_other enters_other]

theorem run_eq_of_interchangeable {ops others : List Operation}
    (h : List.Forall₂ Interchangeable ops others) : s.run ops = s.run others := by
  induction h generalizing s with
  | nil => rfl
  | cons hop _ ih => rw [run_cons, run_cons, s.perform_eq_of_interchangeable hop, ih]

structure Enters (request : Request) (op : Operation) : Prop where
  found : (s.perform op).answer =
    .found ((Searcher.ofConfig s.defaults).answer request).outcome
  recorded : op.turnsAway = false →
    (s.perform op).journal = ((Searcher.ofConfig s.defaults).answer request).journal
  fixed : op.turnsAway = false → (s.perform op).session.fixed = some s.defaults
  unrecorded : op.turnsAway = true → (s.perform op).journal = {}
  unread : op.turnsAway = true → (s.perform op).session = s

theorem enters_of_mem (h : op ∈ request.entrances) : s.Enters request op where
  found := by
    cases ht : op.turnsAway with
    | false => rw [s.perform_entrance h ht, Effect.answer_ofReport]
    | true =>
      obtain ⟨-, hb⟩ := (turnsAway_iff h).1 ht
      rw [s.perform_turnedAway h ht, Searcher.outcome_answer_of_isBlank _ hb]
  recorded henters := by rw [s.perform_entrance h henters, Effect.journal_ofReport]
  fixed henters := by rw [s.perform_entrance h henters, Effect.session_ofReport, afterRead]
  unrecorded haway := by rw [s.perform_turnedAway h haway]
  unread haway := by rw [s.perform_turnedAway h haway]

end Session

/-- Every entrance finds what a searcher of the defaults finds, and leaves the same in the journal
except where it turns a blank term away, with nothing recorded and the defaults not read. Trimming the
term first is the same search, and a run is the same whichever entrances it takes. -/
theorem entrances_agree (s : Session) (request : Request) :
    (∀ config, s.fixed = some config → s.defaults = config) ∧
    (s.perform .readDefaults).session.fixed = some s.defaults ∧
    (∀ op ∈ request.entrances, s.Enters request op) ∧
    (∀ op ∈ request.entrances, op.turnsAway = true ↔ op = .searchUnlessBlank request ∧
      ∀ text ∈ request.term, ∀ c ∈ text.toList, Text.isBlank c = true) ∧
    (∀ searcher : Searcher, searcher.answer request.trimmed = searcher.answer request) ∧
    (∀ ops others, List.Forall₂ Operation.Interchangeable ops others → s.run ops = s.run others) := by
  refine ⟨?_, rfl, ?_, ?_, ?_, ?_⟩
  · intro config h
    rw [Session.defaults, h, Option.getD_some]
  · intro op h
    exact s.enters_of_mem h
  · intro op h
    rw [Operation.turnsAway_iff h, request.isBlank_iff]
  · intro searcher
    exact searcher.answer_trimmed request
  · intro ops others h
    exact s.run_eq_of_interchangeable h

end TermSearch
