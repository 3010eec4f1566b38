/-! The three truth values of SQL, with the connectives of Kleene. -/

namespace TermSearch

inductive Truth where
  | no
  | unknown
  | yes
deriving DecidableEq

namespace Truth

def ofBool : Bool → Truth
  | true => yes
  | false => no

def ofAnswer : Option Bool → Truth
  | some b => ofBool b
  | none => unknown

def not : Truth → Truth
  | no => yes
  | unknown => unknown
  | yes => no

def and : Truth → Truth → Truth
  | no, _ => no
  | unknown, no => no
  | unknown, _ => unknown
  | yes, t => t

def or : Truth → Truth → Truth
  | no, t => t
  | unknown, yes => yes
  | unknown, _ => unknown
  | yes, _ => yes

def all (ts : List Truth) : Truth :=
  ts.foldr and yes

def any (ts : List Truth) : Truth :=
  ts.foldr or no

@[simp] theorem ofBool_eq_yes_iff (b : Bool) : ofBool b = yes ↔ b = true := by
  cases b <;> decide

@[simp] theorem ofAnswer_eq_yes_iff (a : Option Bool) : ofAnswer a = yes ↔ a = some true := by
  cases a with
  | none => decide
  | some b => cases b <;> decide

@[simp] theorem ofAnswer_eq_unknown_iff (a : Option Bool) : ofAnswer a = unknown ↔ a = none := by
  cases a with
  | none => decide
  | some b => cases b <;> decide

theorem eq_ofAnswer_of_iff {t : Truth} {a : Option Bool} (hyes : t = yes ↔ a = some true)
    (hunknown : t = unknown ↔ a = none) : t = ofAnswer a := by
  match a with
  | none => exact hunknown.2 rfl
  | some true => exact hyes.2 rfl
  | some false =>
    cases t with
    | no => rfl
    | unknown => exact nomatch hunknown.1 rfl
    | yes => exact nomatch hyes.1 rfl

@[simp] theorem and_eq_yes_iff (s t : Truth) : s.and t = yes ↔ s = yes ∧ t = yes := by
  cases s <;> cases t <;> decide

@[simp] theorem or_eq_yes_iff (s t : Truth) : s.or t = yes ↔ s = yes ∨ t = yes := by
  cases s <;> cases t <;> decide

theorem and_assoc (s t u : Truth) : (s.and t).and u = s.and (t.and u) := by
  cases s <;> cases t <;> cases u <;> rfl

theorem or_assoc (s t u : Truth) : (s.or t).or u = s.or (t.or u) := by
  cases s <;> cases t <;> cases u <;> rfl

theorem all_append (ts us : List Truth) : all (ts ++ us) = (all ts).and (all us) := by
  induction ts with
  | nil => rfl
  | cons t ts ih => exact (congrArg t.and ih).trans (and_assoc t (all ts) (all us)).symm

theorem any_append (ts us : List Truth) : any (ts ++ us) = (any ts).or (any us) := by
  induction ts with
  | nil => rfl
  | cons t ts ih => exact (congrArg t.or ih).trans (or_assoc t (any ts) (any us)).symm

theorem any_eq_yes_iff (ts : List Truth) : any ts = yes ↔ yes ∈ ts := by
  induction ts with
  | nil => simp [any]
  | cons t ts ih =>
    rw [List.mem_cons, ← ih, eq_comm (a := yes)]
    exact or_eq_yes_iff t (any ts)

theorem or_eq_unknown_iff (s t : Truth) :
    s.or t = unknown ↔ s = unknown ∧ t ≠ yes ∨ s = no ∧ t = unknown := by
  cases s <;> cases t <;> decide

theorem any_eq_unknown_iff (ts : List Truth) : any ts = unknown ↔ unknown ∈ ts ∧ yes ∉ ts := by
  induction ts with
  | nil => simp [any]
  | cons t ts ih =>
    have hor : any (t :: ts) = t.or (any ts) := rfl
    rw [hor, or_eq_unknown_iff, ih, Ne, any_eq_yes_iff, List.mem_cons, List.mem_cons]
    cases t <;> simp

theorem eq_of_iff {s t : Truth} (hyes : s = yes ↔ t = yes) (hunknown : s = unknown ↔ t = unknown) :
    s = t := by
  cases s <;> cases t <;> simp_all

theorem any_congr {ts us : List Truth} (h : ∀ t, t ∈ ts ↔ t ∈ us) : any ts = any us := by
  apply eq_of_iff
  · rw [any_eq_yes_iff, any_eq_yes_iff, h]
  · rw [any_eq_unknown_iff, any_eq_unknown_iff, h, h]

end Truth

end TermSearch
