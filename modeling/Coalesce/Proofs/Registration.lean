import Coalesce.Dispatch.Dispatcher

/-! What a registry holds under a name is a task of that name. A task is added under its own name
and overrides change routes and nothing else, so this is true of every registry that a dispatcher
can be built with. -/
namespace Coalesce

def Task.routed {β : Type} (t : Task β) (queue? : Option String) : Task β :=
  { t with route := (queue?.map .fixed).getD t.route }

namespace Registry

variable {β : Type}

theorem find?_put (r : Registry β) (t : Task β) (name : String) :
    (r.put t).find? name = if name = t.name then some t else r.find? name := by
  unfold put find?
  by_cases h : name = t.name
  · rw [if_pos h, h, Table.get?_insert_self]
  · rw [if_neg h, Table.get?_insert_of_ne h]

theorem contains_put (r : Registry β) (t : Task β) (name : String) :
    (r.put t).contains name = (name == t.name || r.contains name) :=
  Table.contains_insert t.name name t r.tasks

theorem register_eq (r : Registry β) (t : Task β) :
    r.register t = match validateTaskName t.name with
      | .error e => .error e
      | .ok () =>
        if r.contains t.name then .error (.invalidTaskName t.name .registered)
        else .ok (r.put t) := by
  unfold register
  cases validateTaskName t.name <;> rfl

theorem register_eq_ok_iff {r r' : Registry β} {t : Task β} :
    r.register t = .ok r' ↔
      validateTaskName t.name = .ok () ∧ r.contains t.name = false ∧ r' = r.put t := by
  rw [register_eq]
  cases validateTaskName t.name with
  | error e => simp
  | ok u =>
    cases known : r.contains t.name
    · simp [eq_comm]
    · simp

def reroute (r : Registry β) (task queue : String) : Registry β :=
  ⟨r.tasks.modify task fun t => { t with route := .fixed queue }⟩

theorem pin_cons (r : Registry β) (task queue : String) (routes : Routes) :
    r.pin ((task, queue) :: routes) = (r.reroute task queue).pin routes := rfl

theorem find?_reroute (r : Registry β) (task queue name : String) :
    (r.reroute task queue).find? name =
      (r.find? name).map (·.routed (if name = task then some queue else none)) := by
  unfold reroute find?
  rw [Table.get?_modify]
  split
  · rfl
  · exact Option.map_id'.symm

def Named (r : Registry β) : Prop := ∀ name t, r.find? name = some t → t.name = name

theorem Named.isSome_find? {r : Registry β} (named : r.Named) {name : String} {t : Task β}
    (registered : r.find? name = some t) : (r.find? t.name).isSome := by
  rw [named name t registered, registered]
  rfl

theorem named_empty : (empty : Registry β).Named := by
  intro name t h
  simp [find?, empty, Table.get?] at h

theorem Named.put {r : Registry β} (h : r.Named) (t : Task β) : (r.put t).Named := by
  intro name t' found
  rw [find?_put] at found
  split at found
  · next same => rw [same, Option.some.inj found]
  · exact h name t' found

theorem Named.reroute {r : Registry β} (h : r.Named) (task queue : String) :
    (r.reroute task queue).Named := by
  intro name t found
  rw [find?_reroute] at found
  obtain ⟨t', found', rfl⟩ := Option.map_eq_some_iff.1 found
  exact h name t' found'

theorem Named.pin {r : Registry β} (h : r.Named) (routes : Routes) : (r.pin routes).Named := by
  induction routes generalizing r with
  | nil => exact h
  | cons p routes ih => exact ih (h.reroute p.1 p.2)

theorem Named.register {r r' : Registry β} (h : r.Named) {t : Task β}
    (registered : r.register t = .ok r') : r'.Named := by
  obtain ⟨-, -, rfl⟩ := register_eq_ok_iff.1 registered
  exact h.put t

theorem Named.registerAll {tasks : List (Task β)} {r r' : Registry β} (h : r.Named)
    (registered : r.registerAll tasks = .ok r') : r'.Named := by
  induction tasks generalizing r with
  | nil =>
    cases registered
    exact h
  | cons t tasks ih =>
    unfold Registry.registerAll at registered
    split at registered
    · cases registered
    · cases first : r.register t with
      | error e =>
        rw [first] at registered
        cases registered
      | ok r₁ =>
        rw [first] at registered
        exact ih (h.register first) registered

theorem exists_of_assemble {tasks : List (Task β)} {sweep : β} {overrides : Option Routes}
    {r : Registry β} (assembled : assemble tasks sweep overrides = .ok r) :
    ∃ given, registerAll empty tasks = .ok given ∧
      r = (given.put (Task.ofBody sweepTask sweep)).pin (overrides.getD []) := by
  unfold assemble at assembled
  cases given : registerAll empty tasks with
  | error e =>
    rw [given] at assembled
    cases assembled
  | ok r₁ =>
    rw [given] at assembled
    simp only [bind, Except.bind] at assembled
    split at assembled
    · cases assembled
    · exact ⟨r₁, rfl, (Except.ok.inj assembled).symm⟩

theorem named_of_assemble {tasks : List (Task β)} {sweep : β} {overrides : Option Routes}
    {r : Registry β} (assembled : assemble tasks sweep overrides = .ok r) : r.Named := by
  obtain ⟨given, registered, rfl⟩ := exists_of_assemble assembled
  exact ((named_empty.registerAll registered).put _).pin _

theorem find?_of_resolve {r : Registry β} {name : String} {t : Task β}
    (h : r.resolve name = .ok t) : r.find? name = some t := by
  unfold resolve at h
  cases found : r.find? name with
  | none =>
    rw [found] at h
    cases h
  | some t' =>
    rw [found] at h
    exact congrArg some (Except.ok.inj h)

theorem isSome_find?_pin (r : Registry β) (routes : Routes) (name : String) :
    ((r.pin routes).find? name).isSome = (r.find? name).isSome := by
  induction routes generalizing r with
  | nil => rfl
  | cons p routes ih => rw [pin_cons, ih, find?_reroute, Option.isSome_map]

theorem eq_sweepTask_of_assemble {sweep : β} {overrides : Option Routes} {r : Registry β}
    (assembled : assemble [] sweep overrides = .ok r) {name : String}
    (known : (r.find? name).isSome) : name = sweepTask := by
  obtain ⟨given, registered, rfl⟩ := exists_of_assemble assembled
  cases registered
  rw [isSome_find?_pin, find?_put] at known
  split at known
  · next same => exact same
  · cases known

end Registry

namespace Dispatcher

variable {β : Type}

/-- A dispatcher of a running process: it was set up from settings, tasks and overrides. -/
def Built (d : Dispatcher β) : Prop :=
  ∃ settings tasks sweep overrides, Dispatcher.build settings tasks sweep overrides = .ok d

theorem Built.named {d : Dispatcher β} (built : d.Built) : d.registry.Named := by
  obtain ⟨settings, tasks, sweep, overrides, h⟩ := built
  unfold Dispatcher.build at h
  cases assembled : Registry.assemble tasks sweep overrides with
  | error e =>
    rw [assembled] at h
    cases h
  | ok r =>
    rw [assembled] at h
    cases h
    exact Registry.named_of_assemble assembled

theorem eq_of_trigger {d : Dispatcher β} {fresh : String} {context : Context} {mode : Mode}
    {task : String} {input : TaskInput} {t : Trigger} {events : List Event}
    {state : Trigger.State}
    (h : d.trigger fresh context mode task input = .ok (t, events, state)) :
    ∃ spec, d.registry.resolve task = .ok spec ∧
      t = Trigger.ofTask d.settings fresh spec input ∧
      state = (t.start d.settings context mode).2 := by
  unfold trigger at h
  cases resolved : d.registry.resolve task with
  | error e =>
    rw [resolved] at h
    cases h
  | ok spec =>
    rw [resolved] at h
    have pair := Except.ok.inj h
    have trigger := congrArg Prod.fst pair
    have start := congrArg (fun p => p.2.2) pair
    subst trigger
    exact ⟨spec, rfl, rfl, start.symm⟩

theorem Built.identity_of_trigger {d : Dispatcher β} (built : d.Built) {fresh : String}
    {context : Context} {mode : Mode} {task : String} {input : TaskInput} {t : Trigger}
    {events : List Event} {state : Trigger.State}
    (h : d.trigger fresh context mode task input = .ok (t, events, state)) :
    t.identity = ⟨task, input.args⟩ := by
  obtain ⟨spec, resolved, rfl, -⟩ := eq_of_trigger h
  have named := built.named task spec (Registry.find?_of_resolve resolved)
  change Identity.mk spec.name input.args = _
  rw [named]

theorem eq_unknownTask_of_handle {d : Dispatcher β} {fresh : String} {m : Message} {e : Error}
    (refused : d.handle fresh m = .error e) : e = .unknownTask m.task := by
  unfold handle trigger Registry.resolve at refused
  cases found : d.registry.find? m.task with
  | some spec =>
    rw [found] at refused
    cases refused
  | none =>
    rw [found] at refused
    cases refused
    rfl

theorem Built.eq_of_handle {d : Dispatcher β} (built : d.Built) {fresh : String} {m : Message}
    {t : Trigger} {events : List Event} {state : Trigger.State}
    (started : d.handle fresh m = .ok (t, events, state)) :
    (d.registry.find? m.task).isSome ∧ t.task = m.task ∧ t.input = ⟨m.args, m.kwargs⟩ ∧
      state = .at .acquiring := by
  obtain ⟨spec, resolved, rfl, rfl⟩ := eq_of_trigger started
  have found := Registry.find?_of_resolve resolved
  refine ⟨?_, built.named m.task spec found, rfl, ?_⟩
  · rw [found]
    rfl
  · unfold Trigger.start
    rw [if_neg nofun]

end Dispatcher
end Coalesce
