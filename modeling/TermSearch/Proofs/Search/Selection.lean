import TermSearch.Proofs.Meaning.Database
import TermSearch.Proofs.Search.Match
import TermSearch.Proofs.Search.Outcome

/-! The rows that a query selects. Two terms that are matched alike in every single column make
searches that select the same rows. -/

namespace TermSearch

def Select.Selects (q : Select) (db : Database) (row : db.Row) : Prop :=
  ∀ c ∈ q.filters, c.truth db.reading [(q.table, row)] = .yes

theorem Target.truth_condition_congr {ρ : Type} (I : Reading ρ) {e : Engine} {t t' : Term}
    {r : Rules} (h : ∀ c p, (e.condition c t r).truth I p = (e.condition c t' r).truth I p)
    (target : Target) (p : ρ) :
    (target.condition e t r).truth I p = (target.condition e t' r).truth I p := by
  cases target with
  | own c => exact h c p
  | related relation c => simp only [condition, Condition.truth, h]

namespace Searcher

variable (s : Searcher) (names : Resolver) (q : Select) {columns : List String} (options : Options)

theorem selects_attached_iff (targets : List Target) (t : Term) (r : Rules) (db : Database)
    (row : db.Row) :
    (s.attached q targets t r).Selects db row ↔ q.Selects db row ∧ ∃ target ∈ targets,
      (target.condition s.engine t r).truth db.reading [(q.table, row)] = .yes := by
  have htable : (s.attached q targets t r).table = q.table := (s.attached_appends q targets t r).table
  rw [Select.Selects, Select.Selects, s.filters_attached, htable, List.forall_mem_append,
    List.forall_mem_singleton, Condition.truth_anyOf_eq_yes_iff]
  simp only [List.mem_map, exists_exists_and_eq_and]

theorem exists_selects_iff {term term' : String} (ht : Text.trim term ≠ "")
    (ht' : Text.trim term' ≠ "")
    (h : ∀ (db : Database) (c : Column) (p : db.Scope),
      (s.engine.condition c (.ofText term (s.config.rules options)) (s.config.rules options)).truth
          db.reading p =
        (s.engine.condition c (.ofText term' (s.config.rules options))
          (s.config.rules options)).truth db.reading p)
    {found : Select} (hs : (s.search names q (some term) columns options).outcome = .ok found) :
    ∃ found', (s.search names q (some term') columns options).outcome = .ok found' ∧
      ∀ (db : Database) (row : db.Row), found.Selects db row ↔ found'.Selects db row := by
  have halone := q.leftAlone_iff_of_ne columns ht ht'
  by_cases ha : q.LeftAlone (some term) columns
  · obtain ⟨p, hp⟩ := s.search_of_leftAlone names options ha
    obtain ⟨p', hp'⟩ := s.search_of_leftAlone names options (halone.1 ha)
    rw [hp] at hs
    obtain rfl : q = found := Except.ok.inj hs
    exact ⟨q, by rw [hp'], fun _ _ => Iff.rfl⟩
  · obtain ⟨targets, hr, rfl⟩ := s.exists_resolveAll_of_outcome names options ha hs
    refine ⟨_, by rw [s.search_of_not_leftAlone names options (mt halone.2 ha), hr], ?_⟩
    intro db row
    rw [s.selects_attached_iff, s.selects_attached_iff]
    refine and_congr_right fun _ => exists_congr fun target => and_congr_right fun _ => ?_
    have htruth := target.truth_condition_congr db.reading (h db) [(q.table, row)]
    exact htruth ▸ Iff.rfl

end Searcher

end TermSearch
