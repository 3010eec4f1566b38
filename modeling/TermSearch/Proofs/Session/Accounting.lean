import TermSearch.Proofs.Session.Operations

/-! The journal over a run: each search that does not fail is counted once and logged once. -/

namespace TermSearch

namespace Journal

def appliedTotal (j : Journal) : Nat :=
  ((j.metrics.filter (·.name = "pg_search_applied_total")).map Metric.amount).sum

def debugEntries (j : Journal) : Nat :=
  j.events.countP (·.level = .debug)

end Journal

def Call.succeeds (call : Call) : Bool :=
  call.report.outcome.isOk

section Accounts

variable {s : Searcher} {request : Request} {found : Select} {journal : Journal} {counter : Metric}
  {event : Event} (h : s.Accounts request found journal counter event)
include h

theorem Searcher.Accounts.appliedTotal : journal.appliedTotal = 1 := by
  rw [Journal.appliedTotal, h.counted]
  exact congrArg (· + 0) h.amount

theorem Searcher.Accounts.debugEntries : journal.debugEntries = 1 := by
  rw [Journal.debugEntries, h.logged, List.countP_singleton, if_pos (decide_eq_true h.level)]

end Accounts

structure Session.Records (s : Session) (op : Operation) (effect : Effect) : Prop where
  answered : ∀ call, s.call? op = some call → effect.answer = .found call.report.outcome
  accounted : ∀ call found, s.call? op = some call → effect.answer = .found (.ok found) →
    ∃ counter event, call.searcher.Accounts call.request found effect.journal counter event
  failed : ∀ call failure, s.call? op = some call → effect.answer = .found (.error failure) →
    effect.journal = {}
  uncalled : s.call? op = none → effect.journal.metrics = [] ∧ effect.journal.debugEntries = 0
  blank : ∀ request, op = .searchUnlessBlank request → request.isBlank = true →
    effect = ⟨.found (.ok request.query), {}, s⟩

namespace Session

variable (s : Session) (op : Operation)

theorem records_perform : s.Records op (s.perform op) where
  answered call hc := s.answer_of_call? hc
  accounted call found hc hf := by
    rw [s.answer_of_call? hc] at hf
    rw [s.journal_of_call? hc]
    exact Searcher.exists_accounts (Answer.found.inj hf)
  failed call failure hc hf := by
    rw [s.answer_of_call? hc] at hf
    rw [s.journal_of_call? hc]
    exact Searcher.journal_of_answer_error (Answer.found.inj hf)
  uncalled hc := by
    rcases s.journal_of_call?_eq_none hc with ⟨-, hj⟩ | ⟨-, hj⟩ <;> rw [hj] <;> exact ⟨rfl, rfl⟩
  blank := by
    rintro request rfl hb
    exact s.perform_searchUnlessBlank_of_isBlank hb

theorem totals_perform :
    (s.perform op).journal.appliedTotal = (s.call? op).toList.countP Call.succeeds ∧
      (s.perform op).journal.debugEntries = (s.call? op).toList.countP Call.succeeds := by
  cases hc : s.call? op with
  | none =>
    obtain ⟨hmetrics, hdebug⟩ := (s.records_perform op).uncalled hc
    rw [hdebug, Journal.appliedTotal, hmetrics]
    exact ⟨rfl, rfl⟩
  | some call =>
    rw [s.journal_of_call? hc, Option.toList_some, List.countP_singleton, Call.succeeds]
    cases ho : call.report.outcome with
    | error failure =>
      have hnone : call.report.journal = {} := Searcher.journal_of_answer_error ho
      rw [hnone]
      exact ⟨rfl, rfl⟩
    | ok found =>
      obtain ⟨counter, event, ha⟩ := Searcher.exists_accounts ho
      exact ⟨ha.appliedTotal, ha.debugEntries⟩

theorem totals_run (ops : List Operation) :
    ((s.run ops).map (·.journal.appliedTotal)).sum = (s.calls ops).countP Call.succeeds ∧
      ((s.run ops).map (·.journal.debugEntries)).sum = (s.calls ops).countP Call.succeeds := by
  induction ops generalizing s with
  | nil => exact ⟨rfl, rfl⟩
  | cons op ops ih =>
    obtain ⟨happlied, hdebug⟩ := s.totals_perform op
    obtain ⟨hrestApplied, hrestDebug⟩ := ih (s.perform op).session
    rw [run_cons, calls, List.countP_append]
    simp only [List.map_cons, List.sum_cons]
    exact ⟨congrArg₂ (· + ·) happlied hrestApplied, congrArg₂ (· + ·) hdebug hrestDebug⟩

end Session

/-- Over a run, the searches that end without a failure are counted and logged, each once and by what
became of its query; nothing else is. -/
theorem search_accounting (s : Session) (ops : List Operation) :
    ((s.run ops).map (·.journal.appliedTotal)).sum = (s.calls ops).countP Call.succeeds ∧
    ((s.run ops).map (·.journal.debugEntries)).sum = (s.calls ops).countP Call.succeeds ∧
    (∀ before op later, ops = before ++ op :: later →
      ∃ effect, (s.run ops)[before.length]? = some effect ∧
        (s.after before).Records op effect) := by
  obtain ⟨happlied, hdebug⟩ := s.totals_run ops
  refine ⟨happlied, hdebug, ?_⟩
  rintro before op later rfl
  exact ⟨_, s.getElem?_run before op later, (s.after before).records_perform op⟩

end TermSearch
