import Mathlib.Order.Bounds.Basic
import Coalesce.Proofs.Maps
import Coalesce.Proofs.Registration

/-! The ways in which a task that is to be added and overrides are refused, and what overrides that
are not do to a look-up. -/
namespace Coalesce

structure Overrides where
  routes : Routes
  sorted : routes.Sorted

def Overrides.none : Overrides := ⟨[], Table.sorted_nil⟩

theorem isLeast_of_find? {keys : List String} (ascending : keys.Pairwise (· < ·))
    {p : String → Bool} {key : String} (found : keys.find? p = some key) :
    IsLeast {k | k ∈ keys ∧ p k = true} key := by
  obtain ⟨passes, before, after, rfl, skipped⟩ := List.find?_eq_some_iff_append.1 found
  refine ⟨⟨by simp, passes⟩, ?_⟩
  rintro k ⟨mem, passes'⟩
  obtain before | rfl | after := by simpa using mem
  · exact absurd passes' (by simpa using skipped k before)
  · exact le_refl k
  · obtain ⟨-, above, -⟩ := List.pairwise_append.1 ascending
    exact le_of_lt ((List.pairwise_cons.1 above).1 k after)

namespace Registry

variable {β : Type} {r r' : Registry β} {t : Task β} {e : Error}

def Rejects (r : Registry β) (t : Task β) (e : Error) : Prop :=
  validateTaskName t.name = .error e ∨
    validateTaskName t.name = .ok () ∧ r.contains t.name = true ∧
      e = .invalidTaskName t.name .registered

theorem register_eq_error_iff : r.register t = .error e ↔ r.Rejects t e := by
  rw [register_eq, Rejects]
  cases validateTaskName t.name with
  | error e' => simp
  | ok u =>
    cases known : r.contains t.name
    · simp
    · simp [eq_comm]

theorem names_reroute (r : Registry β) (task queue : String) :
    (r.reroute task queue).names = r.names :=
  Table.keys_modify task (fun t : Task β => { t with route := .fixed queue }) r.tasks

theorem names_pin (r : Registry β) (routes : Routes) : (r.pin routes).names = r.names := by
  induction routes generalizing r with
  | nil => rfl
  | cons p routes ih =>
    rw [pin_cons, ih, names_reroute]

/-- Each task that the overrides name has its route fixed to the queue that they give. -/
theorem find?_pin (r : Registry β) {routes : Routes} (sorted : routes.Sorted) (name : String) :
    (r.pin routes).find? name = (r.find? name).map (·.routed (routes.get? name)) := by
  induction routes generalizing r with
  | nil => exact Option.map_id'.symm
  | cons p routes ih =>
    obtain ⟨task, queue⟩ := p
    obtain ⟨below, sorted⟩ := List.pairwise_cons.1 sorted
    rw [pin_cons, ih _ sorted, find?_reroute, Table.get?_cons, Option.map_map]
    by_cases same : name = task
    · subst same
      rw [if_pos rfl, if_pos rfl, Table.get?_of_below below]
      rfl
    · rw [if_neg same, if_neg same]
      rfl

/-- What is wrong with overrides: the least of the names in them that are not registered. -/
def Strays (r : Registry β) (routes : Routes) (e : Error) : Prop :=
  ∃ task, IsLeast {key | key ∈ routes.keys ∧ r.contains key = false} task ∧
    e = .config (.overrideOfUnregistered task)

theorem overrideRoutes_eq_error_iff (o : Overrides) :
    r.overrideRoutes o.routes = .error e ↔ r.Strays o.routes e := by
  unfold overrideRoutes Strays
  split
  · next task found =>
    have least := isLeast_of_find? o.sorted found
    simp only [Bool.not_eq_true'] at least
    constructor
    · intro failed
      cases failed
      exact ⟨task, least, rfl⟩
    · rintro ⟨task', least', rfl⟩
      rw [least'.unique least]
  · next none =>
    constructor
    · nofun
    · rintro ⟨task, ⟨⟨mem, unknown⟩, -⟩, -⟩
      have known := List.find?_eq_none.1 none task mem
      rw [unknown] at known
      exact absurd rfl known

theorem overrideRoutes_eq_ok_iff {routes : Routes} :
    r.overrideRoutes routes = .ok r' ↔
      (∀ key ∈ routes.keys, r.contains key = true) ∧ r' = r.pin routes := by
  unfold overrideRoutes
  split
  · next task found =>
    have unknown := List.find?_some found
    constructor
    · nofun
    · rintro ⟨known, -⟩
      rw [known task (List.mem_of_find?_eq_some found)] at unknown
      cases unknown
  · next none =>
    have known : ∀ key ∈ routes.keys, r.contains key = true := by
      simpa using List.find?_eq_none.1 none
    constructor
    · intro done
      exact ⟨known, (Except.ok.inj done).symm⟩
    · rintro ⟨-, rfl⟩
      rfl

end Registry
end Coalesce
