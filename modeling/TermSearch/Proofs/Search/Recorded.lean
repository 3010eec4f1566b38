import Mathlib.Algebra.Ring.Nat
import TermSearch.Proofs.Search.Outcome

/-! What a search leaves in the journal. One that fails leaves nothing; any other leaves one count and
one log entry, and they tell what became of the query. -/

namespace TermSearch

structure Request where
  names : Resolver
  query : Select
  term : Option String
  columns : List String
  options : Options

namespace Request

def text (request : Request) : String :=
  Text.trim (request.term.getD "")

def isBlank (request : Request) : Bool :=
  request.text.isEmpty

def reason (request : Request) : String :=
  if request.isBlank then "blank_term"
  else if request.columns.isEmpty then "no_columns"
  else "unsupported_backend"

def ownColumns (request : Request) : Nat :=
  request.columns.countP fun text => !Entry.hasDot text

def relatedColumns (request : Request) : Nat :=
  request.columns.countP Entry.hasDot

variable {request : Request}

theorem ownColumns_add_relatedColumns :
    request.ownColumns + request.relatedColumns = request.columns.length := by
  rw [Nat.add_comm, ownColumns, relatedColumns, List.length_eq_countP_add_countP Entry.hasDot]
  simp

theorem reason_of_passthrough {p : Passthrough}
    (h : Passthrough.of? request.query request.text request.columns = some p) :
    p.reason = request.reason := by
  rcases Passthrough.of?_eq_some_iff.1 h with ⟨ht, rfl⟩ | ⟨ht, hc, rfl⟩ | ⟨ht, hc, -, rfl⟩
  · simp [reason, isBlank, ht, Passthrough.reason]
  · simp [reason, isBlank, ht, hc, Passthrough.reason]
  · simp [reason, isBlank, ht, hc, Passthrough.reason]

end Request

namespace Searcher

variable (s : Searcher) (request : Request)

def answer : Report Select :=
  s.search request.names request.query request.term request.columns request.options

def rulesFor : Rules :=
  s.config.rules request.options

def termFor : Term :=
  .ofText (request.term.getD "") (s.rulesFor request)

def tokenCount : Nat :=
  ((s.termFor request).matchTokens (s.rulesFor request)).length

/-- The journal of a search that did not fail, and the count and the log entry in it. Histograms keep
their amounts as binary numbers, which hold every count below `2 ^ 53`. -/
structure Accounts (found : Select) (journal : Journal) (counter : Metric) (event : Event) :
    Prop where
  counted : journal.metrics.filter (·.name = "pg_search_applied_total") = [counter]
  kind : counter.kind = .counter
  amount : counter.amount = 1
  logged : journal.events = [event]
  level : event.level = .debug
  applied_iff : ("outcome", "applied") ∈ counter.labels ↔
    found.filters.length = request.query.filters.length + 1
  passedThrough_iff : ("outcome", "passthrough") ∈ counter.labels ↔ found = request.query
  skipped : found = request.query →
    journal.metrics = [counter] ∧
      counter.labels = [("outcome", "passthrough"), ("reason", request.reason)] ∧
      event.message =
        if request.reason = "unsupported_backend" then "Search skipped, backend not supported"
        else "Search skipped"
  measured : found ≠ request.query →
    journal.metrics = [.localColumns request.ownColumns, .relatedColumns request.relatedColumns,
      .searchTokens (s.tokenCount request), .searchApplied]
  columns : request.ownColumns + request.relatedColumns = request.columns.length
  amounts : found ≠ request.query → request.columns.length < 2 ^ 53 →
    s.tokenCount request < 2 ^ 53 →
    journal.metrics.map Metric.amount =
      [request.ownColumns, request.relatedColumns, s.tokenCount request, 1]
  attached : found ≠ request.query →
    ∃ ordered, event = .attached request.query.table request.columns.length request.relatedColumns
        (s.tokenCount request) ordered ∧
      (ordered = true ↔ ∃ clause, found.order = request.query.order ++ [clause])

variable {s request}

theorem accounts_of_passthrough {p : Passthrough}
    (h : Passthrough.of? request.query request.text request.columns = some p) :
    s.Accounts request request.query (p.journal request.query.table)
      (.searchPassedThrough p.reason) (p.event request.query.table) where
  counted := rfl
  kind := rfl
  amount := rfl
  logged := rfl
  level := by cases p <;> rfl
  applied_iff := by simp [Metric.labels]
  passedThrough_iff := by simp [Metric.labels]
  skipped _ := by
    rw [← Request.reason_of_passthrough h]
    refine ⟨rfl, rfl, ?_⟩
    cases p <;> simp [Passthrough.event, Passthrough.reason, Event.message]
  measured hne := absurd rfl hne
  columns := request.ownColumns_add_relatedColumns
  amounts hne := absurd rfl hne
  attached hne := absurd rfl hne

variable {targets : List Target}

theorem attached_ne (q : Select) (t : Term) (r : Rules) : s.attached q targets t r ≠ q := by
  intro h
  have hlength := congrArg (fun found : Select => found.filters.length) h
  rw [s.filters_attached q targets t r, List.length_append] at hlength
  exact absurd hlength (Nat.succ_ne_self _)

theorem isSome_bestMatchOrder?_iff (q : Select) (t : Term) (r : Rules) :
    (bestMatchOrder? s.engine targets t r).isSome = true ↔
      ∃ clause, (s.attached q targets t r).order = q.order ++ [clause] := by
  rw [order_attached]
  cases bestMatchOrder? s.engine targets t r with
  | none => simp
  | some clause => simp

section Attached

variable (hr : List.Forall₂ (StandsFor request.names request.query.table) request.columns targets)
include hr

theorem attachedJournal_eq :
    s.attachedJournal request.query targets (s.termFor request) (s.rulesFor request) =
      { metrics := [.localColumns request.ownColumns, .relatedColumns request.relatedColumns,
          .searchTokens (s.tokenCount request), .searchApplied]
        events := [.attached request.query.table request.columns.length request.relatedColumns
          (s.tokenCount request)
          (bestMatchOrder? s.engine targets (s.termFor request) (s.rulesFor request)).isSome] } := by
  have hall : targets.length = request.columns.length := hr.length_eq.symm
  have hown : (targets.filterMap Target.ownColumn?).length = request.ownColumns :=
    length_ownColumns hr
  have hrelated : request.columns.length - request.ownColumns = request.relatedColumns := by
    rw [← request.ownColumns_add_relatedColumns, Nat.add_sub_cancel_left]
  simp only [attachedJournal, hall, hown, hrelated, tokenCount]

theorem accounts_of_attached :
    s.Accounts request
      (s.attached request.query targets (s.termFor request) (s.rulesFor request))
      (s.attachedJournal request.query targets (s.termFor request) (s.rulesFor request))
      .searchApplied
      (.attached request.query.table request.columns.length request.relatedColumns
        (s.tokenCount request)
        (bestMatchOrder? s.engine targets (s.termFor request) (s.rulesFor request)).isSome) where
  counted := rfl
  kind := rfl
  amount := rfl
  logged := by rw [attachedJournal_eq hr]
  level := rfl
  applied_iff := by simp [Metric.labels, filters_attached]
  passedThrough_iff := by simp [Metric.labels, attached_ne]
  skipped h := absurd h (attached_ne _ _ _)
  measured _ := by rw [attachedJournal_eq hr]
  columns := request.ownColumns_add_relatedColumns
  amounts _ hcolumns htokens := by
    have hsum := request.ownColumns_add_relatedColumns
    have hown := Decimal.nearestWhole_of_lt (n := request.ownColumns) (by omega)
    have hrelated := Decimal.nearestWhole_of_lt (n := request.relatedColumns) (by omega)
    have htokens := Decimal.nearestWhole_of_lt htokens
    rw [attachedJournal_eq hr]
    simp only [List.map_cons, List.map_nil, Metric.amount, hown, hrelated, htokens]
  attached _ := ⟨_, rfl, isSome_bestMatchOrder?_iff _ _ _⟩

end Attached

theorem exists_accounts {found : Select} (h : (s.answer request).outcome = .ok found) :
    ∃ counter event, s.Accounts request found (s.answer request).journal counter event := by
  rw [answer] at h ⊢
  cases hp : Passthrough.of? request.query request.text request.columns with
  | some p =>
    rw [s.search_of_passthrough request.names request.options hp] at h ⊢
    obtain rfl : request.query = found := Except.ok.inj h
    exact ⟨_, _, accounts_of_passthrough hp⟩
  | none =>
    have halone := (Passthrough.of?_eq_none_iff request.query request.term request.columns).1 hp
    rw [s.search_of_not_leftAlone request.names request.options halone] at h ⊢
    cases hr : resolveAll request.names request.query.table request.columns with
    | error failure =>
      rw [hr] at h
      exact nomatch h
    | ok targets =>
      rw [hr] at h
      obtain rfl := Except.ok.inj h
      exact ⟨_, _, accounts_of_attached (resolveAll_eq_ok_iff.1 hr)⟩

theorem journal_of_answer_error {failure : Failure}
    (h : (s.answer request).outcome = .error failure) : (s.answer request).journal = {} :=
  s.journal_of_error request.names request.options h

theorem level_of_mem_events {event : Event} (h : event ∈ (s.answer request).journal.events) :
    event.level = .debug := by
  cases ho : (s.answer request).outcome with
  | error failure =>
    rw [journal_of_answer_error ho] at h
    exact absurd h List.not_mem_nil
  | ok found =>
    obtain ⟨counter, logged, ha⟩ := exists_accounts ho
    rw [ha.logged] at h
    obtain rfl := List.mem_singleton.1 h
    exact ha.level

end Searcher

end TermSearch
