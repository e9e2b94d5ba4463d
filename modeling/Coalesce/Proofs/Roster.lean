import Mathlib.Data.List.Induction
import Coalesce.Proofs.Rerouting

/-! What a registry holds after any calls, told from the calls and their answers alone: a task is
there under its name as it was first accepted, and its route is the one of the last accepted
overrides that name it. -/
namespace Coalesce.Registry

inductive Call (β : Type) where
  | register (t : Task β)
  | override (o : Overrides)

/-- A registry that is changed in place: what was done before an error stays done. -/
abbrev InPlace (β : Type) := EStateM Error (Registry β)

variable {β : Type}

namespace Call

def answer (r : Registry β) : Call β → Except Error (Registry β)
  | .register t => r.register t
  | .override o => r.overrideRoutes o.routes

def Refused (r : Registry β) (e : Error) : Call β → Prop
  | .register t => r.Rejects t e
  | .override o => r.Strays o.routes e

/-- The call in place. Routes are fixed one after the other. -/
def perform : Call β → InPlace β Unit
  | .register t => do
    match validateTaskName t.name with
    | .error e => throw e
    | .ok () =>
      if (← get).contains t.name then throw (.invalidTaskName t.name .registered)
      else modify (·.put t)
  | .override o => do
    let r ← get
    match o.routes.keys.find? fun task => !r.contains task with
    | some task => throw (.config (.overrideOfUnregistered task))
    | none => o.routes.forM fun (task, queue) => modify (·.reroute task queue)

def serve (c : Call β) (r : Registry β) : Except Error Unit × Registry β :=
  match c.perform r with
  | .ok () r => (.ok (), r)
  | .error e r => (.error e, r)

theorem forM_reroute (routes : Routes) (r : Registry β) :
    (routes.forM fun (task, queue) => modify (·.reroute task queue) : InPlace β Unit) r =
      .ok () (r.pin routes) := by
  induction routes generalizing r with
  | nil => rfl
  | cons p routes ih => exact ih (r.reroute p.1 p.2)

theorem perform_eq (c : Call β) (r : Registry β) :
    c.perform r = match c.answer r with
      | .ok r' => .ok () r'
      | .error e => .error e r := by
  cases c with
  | register t =>
    simp only [answer, register_eq, perform]
    cases validateTaskName t.name with
    | error e => rfl
    | ok u =>
      change (if r.contains t.name then throw (.invalidTaskName t.name .registered)
        else modify (·.put t) : InPlace β Unit) r = _
      cases r.contains t.name <;> rfl
  | override o =>
    simp only [answer, overrideRoutes]
    change (match o.routes.keys.find? fun task => !r.contains task with
      | some task => throw (.config (.overrideOfUnregistered task))
      | none => o.routes.forM fun (task, queue) => modify (·.reroute task queue) :
        InPlace β Unit) r = _
    cases o.routes.keys.find? fun task => !r.contains task with
    | some task => rfl
    | none => exact forM_reroute o.routes r

theorem serve_eq (c : Call β) (r : Registry β) :
    c.serve r = match c.answer r with
      | .ok r' => (.ok (), r')
      | .error e => (.error e, r) := by
  rw [serve, perform_eq]
  cases c.answer r <;> rfl

theorem answer_eq_error_iff {c : Call β} {r : Registry β} {e : Error} :
    c.answer r = .error e ↔ c.Refused r e := by
  cases c with
  | register t => exact register_eq_error_iff
  | override o => exact overrideRoutes_eq_error_iff o

def added? : Call β × Except Error Unit → Option (Task β)
  | (.register t, .ok ()) => some t
  | _ => none

def fixed? (name : String) : Call β × Except Error Unit → Option String
  | (.override o, .ok ()) => o.routes.get? name
  | _ => none

end Call

/-! Histories: calls with their answers, in order. -/

abbrev Log (β : Type) := List (Call β × Except Error Unit)

namespace Log

variable (log : Log β) (entry : Call β × Except Error Unit) (name : String)

def added : List (Task β) := log.filterMap Call.added?

def first? : Option (Task β) := log.added.find? (·.name = name)

def lastQueue? : Option String := log.reverse.findSome? (Call.fixed? name)

def push : Log β := log ++ [entry]

theorem added_push : (log.push entry).added = log.added ++ (Call.added? entry).toList := by
  rw [added, push, List.filterMap_append]
  cases added : Call.added? entry <;> simp [Log.added, added]

theorem first?_push :
    (log.push entry).first? name =
      (log.first? name).or ((Call.added? entry).toList.find? (·.name = name)) := by
  rw [first?, added_push, List.find?_append]
  rfl

theorem lastQueue?_push :
    (log.push entry).lastQueue? name = (Call.fixed? name entry).or (log.lastQueue? name) := by
  rw [lastQueue?, push, List.reverse_append, List.reverse_singleton, List.singleton_append,
    List.findSome?_cons]
  cases Call.fixed? name entry <;> rfl

end Log

def history (calls : List (Call β)) : Log β × Registry β :=
  calls.foldl (fun (log, r) c => (log.push (c, (c.serve r).1), (c.serve r).2)) ([], .empty)

/-- A registry as its history tells it. -/
structure Accounts (log : Log β) (r : Registry β) : Prop where
  names : r.names.Perm (log.added.map Task.name)
  ascending : r.names.Pairwise (· < ·)
  size : r.size = r.names.length
  valid : ∀ name ∈ r.names, validateTaskName name = .ok ()
  resolve : ∀ name, r.resolve name = match log.first? name with
    | some t => .ok (t.routed (log.lastQueue? name))
    | none => .error (.unknownTask name)

structure Kept (log : Log β) (r : Registry β) : Prop where
  sorted : r.tasks.Sorted
  names : r.names.Perm (log.added.map Task.name)
  valid : ∀ name ∈ r.names, validateTaskName name = .ok ()
  found : ∀ name, r.find? name = (log.first? name).map (·.routed (log.lastQueue? name))
  unnamed : ∀ name, r.find? name = none → log.lastQueue? name = none

theorem kept_empty : Kept ([] : Log β) .empty where
  sorted := Table.sorted_nil
  names := .refl _
  valid := List.forall_mem_nil _
  found _ := rfl
  unnamed _ _ := rfl

theorem routed_routed (t : Task β) (first last : Option String) :
    (t.routed first).routed last = t.routed (last.or first) := by
  cases last <;> rfl

namespace Kept

variable {log : Log β} {r r' : Registry β}

theorem refused (kept : Kept log r) (c : Call β) (e : Error) :
    Kept (log.push (c, .error e)) r := by
  have silent : Call.added? (c, .error e) = none ∧
      ∀ name, Call.fixed? name (c, .error e) = none := by
    cases c <;> exact ⟨rfl, fun _ => rfl⟩
  constructor
  · exact kept.sorted
  · simpa [Log.added_push, silent.1] using kept.names
  · exact kept.valid
  · simpa [Log.first?_push, Log.lastQueue?_push, silent] using kept.found
  · simpa [Log.lastQueue?_push, silent.2] using kept.unnamed

theorem registered (kept : Kept log r) {t : Task β} (accepted : r.register t = .ok r') :
    Kept (log.push (.register t, .ok ())) r' := by
  obtain ⟨valid, absent, rfl⟩ := register_eq_ok_iff.1 accepted
  have missing : r.find? t.name = none := by
    simpa [contains, Table.contains, find?] using absent
  have unknown : log.first? t.name = none := by
    simpa [missing] using (kept.found t.name).symm
  have last (name : String) :
      (log.push (.register t, .ok ())).lastQueue? name = log.lastQueue? name :=
    log.lastQueue?_push _ name
  constructor
  · exact kept.sorted.insert t.name t
  · have more : (r.put t).names.Perm (t.name :: r.names) :=
      (Table.insert_perm absent t).map Prod.fst
    rw [Log.added_push, List.map_append]
    exact more.trans ((kept.names.cons t.name).trans (List.perm_append_singleton _ _).symm)
  · intro name mem
    obtain rfl | before := Table.keys_insert_subset name mem
    · exact valid
    · exact kept.valid name before
  · intro name
    rw [find?_put, last, Log.first?_push]
    by_cases same : name = t.name
    · subst same
      simp [unknown, kept.unnamed t.name missing, Call.added?, Task.routed]
    · simp [same, Ne.symm same, kept.found name, Call.added?]
  · intro name none
    rw [find?_put] at none
    split at none
    · cases none
    · rw [last]
      exact kept.unnamed name none

theorem overridden (kept : Kept log r) {o : Overrides}
    (accepted : r.overrideRoutes o.routes = .ok r') :
    Kept (log.push (.override o, .ok ())) r' := by
  obtain ⟨known, rfl⟩ := overrideRoutes_eq_ok_iff.1 accepted
  have last (name : String) : (log.push (.override o, .ok ())).lastQueue? name =
      (o.routes.get? name).or (log.lastQueue? name) :=
    log.lastQueue?_push _ name
  constructor
  · change (r.pin o.routes).names.Pairwise (· < ·)
    rw [names_pin]
    exact kept.sorted
  · rw [names_pin, Log.added_push]
    simpa [Call.added?] using kept.names
  · rw [names_pin]
    exact kept.valid
  · intro name
    rw [find?_pin r o.sorted, kept.found, last, Log.first?_push, Option.map_map]
    simp [Call.added?, Function.comp_def, routed_routed]
  · intro name none
    rw [find?_pin r o.sorted, Option.map_eq_none_iff] at none
    have stray : o.routes.get? name = .none := by
      rw [← Option.not_isSome_iff_eq_none]
      intro given
      have there := known name (Table.contains_iff_mem_keys.1 given)
      rw [contains, Table.contains, ← find?, none] at there
      cases there
    rw [last, stray, kept.unnamed name none]
    rfl

theorem serve (kept : Kept log r) (c : Call β) :
    Kept (log.push (c, (c.serve r).1)) (c.serve r).2 := by
  rw [c.serve_eq]
  cases answer : c.answer r with
  | error e => exact kept.refused c e
  | ok r' =>
    cases c with
    | register t => exact kept.registered answer
    | override o => exact kept.overridden answer

theorem accounts (kept : Kept log r) : Accounts log r where
  names := kept.names
  ascending := kept.sorted
  size := (List.length_map _).symm
  valid := kept.valid
  resolve name := by
    rw [Registry.resolve, kept.found]
    cases log.first? name <;> rfl

end Kept

theorem kept_history (calls : List (Call β)) : Kept (history calls).1 (history calls).2 := by
  induction calls using List.reverseRecOn with
  | nil => exact kept_empty
  | append_singleton calls c ih =>
    have more : history (calls ++ [c]) =
        ((history calls).1.push (c, (c.serve (history calls).2).1),
          (c.serve (history calls).2).2) := by
      simp [history]
    rw [more]
    exact ih.serve c

/-- After any calls the registry is as its history tells it. Whatever registry a call is made on, it
is either accepted, with what the registry makes of it, or refused with nothing done: for a name
that is no good or taken, or for the least name in the overrides that is not registered. -/
theorem accounts_of_calls (calls : List (Call β)) :
    Accounts (history calls).1 (history calls).2 ∧
      ∀ (r : Registry β) (c : Call β), match c.serve r with
        | (.ok (), r') => c.answer r = .ok r' ∧ ∀ e, ¬ c.Refused r e
        | (.error e, r') => c.answer r = .error e ∧ c.Refused r e ∧ r' = r := by
  refine ⟨(kept_history calls).accounts, fun r c => ?_⟩
  rw [c.serve_eq]
  cases answer : c.answer r with
  | error e => exact ⟨rfl, Call.answer_eq_error_iff.1 answer, rfl⟩
  | ok r' =>
    refine ⟨rfl, fun e refused => ?_⟩
    rw [Call.answer_eq_error_iff.2 refused] at answer
    cases answer

end Coalesce.Registry
