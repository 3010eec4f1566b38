import TermSearch.Proofs.Search.Recorded
import TermSearch.Search.Session

/-! Runs of the operations that a program makes on searches and on the defaults they share. -/

namespace TermSearch

structure Call where
  searcher : Searcher
  request : Request

def Call.report (call : Call) : Report Select :=
  call.searcher.answer call.request

/-- The first three searches go by the defaults; `apply` goes by the config of its searcher, which may
have been made in any way. -/
inductive Operation where
  | install (config : Config)
  | readDefaults
  | defaultSearcher
  | searcherOf (config : Config)
  | search (request : Request)
  | chained (request : Request)
  | searchUnlessBlank (request : Request)
  | apply (call : Call)

inductive Answer where
  | installed (accepted : Bool)
  | config (config : Config)
  | searcher (searcher : Searcher)
  | found (outcome : Except Failure Select)

structure Effect where
  answer : Answer
  journal : Journal
  session : Session

namespace Effect

def ofReport (report : Report Select) (session : Session) : Effect :=
  ⟨.found report.outcome, report.journal, session⟩

def ofSearch (result : Report Select × Session) : Effect :=
  ofReport result.1 result.2

variable (report : Report Select) (session : Session)

@[simp] theorem answer_ofReport : (ofReport report session).answer = .found report.outcome := rfl

@[simp] theorem journal_ofReport : (ofReport report session).journal = report.journal := rfl

@[simp] theorem session_ofReport : (ofReport report session).session = session := rfl

end Effect

namespace Session

def perform (s : Session) : Operation → Effect
  | .install config =>
    let (accepted, journal, session) := s.install config
    ⟨.installed accepted, journal, session⟩
  | .readDefaults =>
    let (config, session) := s.readDefaults
    ⟨.config config, {}, session⟩
  | .defaultSearcher =>
    let (searcher, session) := s.defaultSearcher
    ⟨.searcher searcher, {}, session⟩
  | .searcherOf config => ⟨.searcher (.ofConfig config), {}, s⟩
  | .search r => .ofSearch (s.search r.names r.query r.term r.columns r.options)
  | .chained r => .ofSearch (r.query.search s r.names r.term r.columns r.options)
  | .searchUnlessBlank r =>
    .ofSearch (s.searchUnlessBlank r.names r.query r.term r.columns r.options)
  | .apply call => .ofReport call.report s

def run (s : Session) : List Operation → List Effect
  | [] => []
  | op :: ops => s.perform op :: (s.perform op).session.run ops

def after (s : Session) (ops : List Operation) : Session :=
  ops.foldl (fun s op => (s.perform op).session) s

def call? (s : Session) : Operation → Option Call
  | .search r | .chained r => some ⟨s.searcher, r⟩
  | .searchUnlessBlank r => if r.isBlank then none else some ⟨s.searcher, r⟩
  | .apply call => some call
  | .install _ | .readDefaults | .defaultSearcher | .searcherOf _ => none

def calls (s : Session) : List Operation → List Call
  | [] => []
  | op :: ops => (s.call? op).toList ++ (s.perform op).session.calls ops

variable (s : Session)

@[simp] theorem run_cons (op : Operation) (ops : List Operation) :
    s.run (op :: ops) = s.perform op :: (s.perform op).session.run ops := rfl

@[simp] theorem after_cons (op : Operation) (ops : List Operation) :
    s.after (op :: ops) = (s.perform op).session.after ops := rfl

theorem after_append (xs ys : List Operation) : s.after (xs ++ ys) = (s.after xs).after ys :=
  List.foldl_append

theorem getElem?_run (before : List Operation) (op : Operation) (later : List Operation) :
    (s.run (before ++ op :: later))[before.length]? = some ((s.after before).perform op) := by
  induction before generalizing s with
  | nil => rfl
  | cons first before ih => exact ih (s.perform first).session

theorem perform_install (config : Config) :
    s.perform (.install config) =
      ⟨.installed s.fixed.isNone,
        if s.fixed.isNone then {} else { events := [.defaultsAlreadyFixed] },
        ⟨s.fixed.or (some config)⟩⟩ := by
  obtain ⟨fixed⟩ := s
  cases fixed <;> rfl

theorem search_eq (names : Resolver) (q : Select) (term : Option String) (columns : List String)
    (options : Options) : s.search names q term columns options =
      (s.searcher.search names q term columns options, s.afterRead) := rfl

theorem perform_search (r : Request) :
    s.perform (.search r) = .ofReport (s.searcher.answer r) s.afterRead := by
  rw [perform, Effect.ofSearch, search_eq, Searcher.answer]

theorem perform_chained (r : Request) : s.perform (.chained r) = s.perform (.search r) := by
  rw [perform, perform, Select.search]

theorem perform_searchUnlessBlank_of_isBlank {r : Request} (h : r.isBlank = true) :
    s.perform (.searchUnlessBlank r) = ⟨.found (.ok r.query), {}, s⟩ := by
  have htext : (Text.trim (r.term.getD "")).isEmpty = true := h
  rw [perform, searchUnlessBlank, if_pos htext, Effect.ofSearch, Effect.ofReport]

theorem perform_searchUnlessBlank_of_not_isBlank {r : Request} (h : r.isBlank = false) :
    s.perform (.searchUnlessBlank r) = s.perform (.search r) := by
  have htext : ¬ (Text.trim (r.term.getD "")).isEmpty = true := Bool.eq_false_iff.1 h
  rw [perform_search, perform, searchUnlessBlank, if_neg htext, Effect.ofSearch, search_eq,
    Searcher.search_trim, Searcher.answer]

theorem call?_searchUnlessBlank {r : Request} (h : r.isBlank = false) :
    s.call? (.searchUnlessBlank r) = some ⟨s.searcher, r⟩ := by
  rw [call?, h, if_neg Bool.false_ne_true]

theorem isBlank_of_call?_eq_none {r : Request} (h : s.call? (.searchUnlessBlank r) = none) :
    r.isBlank = true := by
  cases hb : r.isBlank with
  | true => rfl
  | false => exact nomatch (s.call?_searchUnlessBlank hb).symm.trans h

theorem perform_of_call? {op : Operation} {call : Call} (h : s.call? op = some call) :
    s.perform op = .ofReport call.report (s.perform op).session := by
  cases op with
  | install | readDefaults | defaultSearcher | searcherOf => exact nomatch h
  | search r =>
    obtain rfl := Option.some.inj h
    rw [perform_search, Effect.session_ofReport, Call.report]
  | chained r =>
    obtain rfl := Option.some.inj h
    rw [perform_chained, perform_search, Effect.session_ofReport, Call.report]
  | searchUnlessBlank r =>
    rw [call?, Option.ite_none_left_eq_some, Bool.not_eq_true] at h
    obtain ⟨hb, h⟩ := h
    obtain rfl := Option.some.inj h
    rw [perform_searchUnlessBlank_of_not_isBlank s hb, perform_search, Effect.session_ofReport,
      Call.report]
  | apply =>
    obtain rfl := Option.some.inj h
    rw [perform, Effect.session_ofReport]

theorem answer_of_call? {op : Operation} {call : Call} (h : s.call? op = some call) :
    (s.perform op).answer = .found call.report.outcome := by
  rw [s.perform_of_call? h, Effect.answer_ofReport]

theorem journal_of_call? {op : Operation} {call : Call} (h : s.call? op = some call) :
    (s.perform op).journal = call.report.journal := by
  rw [s.perform_of_call? h, Effect.journal_ofReport]

theorem journal_of_call?_eq_none {op : Operation} (h : s.call? op = none) :
    (s.perform op).answer = .installed false ∧
        (s.perform op).journal = { events := [.defaultsAlreadyFixed] } ∨
      (s.perform op).answer ≠ .installed false ∧ (s.perform op).journal = {} := by
  cases op with
  | install config =>
    rw [perform_install]
    cases s.fixed.isNone with
    | true => exact .inr ⟨nofun, rfl⟩
    | false => exact .inl ⟨rfl, rfl⟩
  | readDefaults | defaultSearcher | searcherOf => exact .inr ⟨nofun, rfl⟩
  | search | chained | apply => exact nomatch h
  | searchUnlessBlank r =>
    rw [perform_searchUnlessBlank_of_isBlank s (s.isBlank_of_call?_eq_none h)]
    exact .inr ⟨nofun, rfl⟩

end Session

end TermSearch
