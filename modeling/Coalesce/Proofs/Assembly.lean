import Mathlib.Data.List.Induction
import Coalesce.Proofs.Rerouting

/-! How a dispatcher's registry is put together. The overrides are checked before the sweep is
there and applied after it, and yet the outcome is that of adding all tasks, then the sweep, and
then overriding routes in the registry itself. -/
namespace Coalesce.Registry

variable {β : Type}

inductive Offends (earlier : List (Task β)) (t : Task β) : Error → Prop where
  | reserved (name : t.name = sweepTask) :
      Offends earlier t (.invalidTaskName sweepTask .reserved)
  | invalid {e : Error} (apart : t.name ≠ sweepTask) (flawed : validateTaskName t.name = .error e) :
      Offends earlier t e
  | repeated (apart : t.name ≠ sweepTask) (valid : validateTaskName t.name = .ok ())
      (again : t.name ∈ earlier.map Task.name) :
      Offends earlier t (.invalidTaskName t.name .registered)

def Fine (tasks : List (Task β)) : Prop :=
  ∀ before t after e, tasks = before ++ t :: after → ¬ Offends before t e

def FirstOffence (tasks : List (Task β)) (e : Error) : Prop :=
  ∃ before t after, tasks = before ++ t :: after ∧ Fine before ∧ Offends before t e

def Unknown (tasks : List (Task β)) (routes : Routes) (key : String) : Prop :=
  key ∈ routes.keys ∧ key ≠ sweepTask ∧ key ∉ tasks.map Task.name

variable {tasks : List (Task β)} {t : Task β} {e e' : Error} {r r' : Registry β}

theorem Offends.unique {earlier : List (Task β)} (offends : Offends earlier t e)
    (offends' : Offends earlier t e') : e = e' := by
  cases offends <;> cases offends' <;> simp_all

theorem FirstOffence.not_fine (offence : FirstOffence tasks e) : ¬ Fine tasks := by
  obtain ⟨before, t, after, same, -, offends⟩ := offence
  exact fun fine => fine before t after e same offends

theorem FirstOffence.unique (offence : FirstOffence tasks e) (offence' : FirstOffence tasks e') :
    e = e' := by
  obtain ⟨before, t, after, rfl, fine, offends⟩ := offence
  obtain ⟨before', t', after', same, fine', offends'⟩ := offence'
  -- a task that offends is not among those before the other
  obtain ⟨_ | ⟨_, more⟩, rfl, rest⟩ | ⟨_ | ⟨_, more⟩, rfl, rest⟩ := List.append_eq_append_iff.1 same
  · cases rest
    rw [List.append_nil] at offends'
    exact offends.unique offends'
  · cases rest
    exact absurd offends (fine' before t more e rfl)
  · cases rest
    rw [List.append_nil] at offends
    exact offends.unique offends'
  · cases rest
    exact absurd offends' (fine before' t' more e' rfl)

theorem FirstOffence.append_singleton (offence : FirstOffence tasks e) (t : Task β) :
    FirstOffence (tasks ++ [t]) e := by
  obtain ⟨before, s, after, rfl, fine, offends⟩ := offence
  exact ⟨before, s, after ++ [t], by simp, fine, offends⟩

theorem fine_nil : Fine ([] : List (Task β)) := by
  intro before t after e same
  simp at same

theorem Fine.append_singleton (fine : Fine tasks) (sound : ∀ e, ¬ Offends tasks t e) :
    Fine (tasks ++ [t]) := by
  intro before s after e same offends
  obtain rfl | ⟨init, last, rfl⟩ := List.eq_nil_or_concat after
  · obtain ⟨rfl, single⟩ := List.append_inj' same rfl
    cases single
    exact sound e offends
  · have same' : tasks ++ [t] = (before ++ s :: init) ++ [last] := by simpa using same
    obtain ⟨rfl, -⟩ := List.append_inj' same' rfl
    exact fine before s init e rfl offends

/-! Adding the tasks that are given. -/

def accept (r : Registry β) (t : Task β) : Except Error (Registry β) :=
  if t.name = sweepTask then .error (.invalidTaskName sweepTask .reserved) else r.register t

theorem registerAll_append_singleton (r : Registry β) (tasks : List (Task β)) (t : Task β) :
    r.registerAll (tasks ++ [t]) = (r.registerAll tasks).bind (·.accept t) := by
  induction tasks generalizing r with
  | nil =>
    simp only [List.nil_append, registerAll, Except.bind, accept]
    split
    · rfl
    · cases r.register t <;> rfl
  | cons s tasks ih =>
    rw [List.cons_append, registerAll, registerAll]
    split
    · rfl
    · cases r.register s with
      | error e => rfl
      | ok r' => exact ih r'

structure Gathered (tasks : List (Task β)) (r : Registry β) : Prop where
  registered : tasks.foldlM register empty = .ok r
  contains : ∀ name, r.contains name = true ↔ name ∈ tasks.map Task.name

theorem Gathered.accept_cases (gathered : Gathered tasks r) (t : Task β) :
    (∃ r', r.accept t = .ok r' ∧ (∀ e, ¬ Offends tasks t e) ∧ Gathered (tasks ++ [t]) r') ∨
      ∃ e, r.accept t = .error e ∧ Offends tasks t e := by
  unfold accept
  split
  · next name => exact .inr ⟨_, rfl, .reserved name⟩
  · next apart =>
    cases added : r.register t with
    | error e =>
      refine .inr ⟨e, rfl, ?_⟩
      obtain flawed | ⟨valid, known, rfl⟩ := register_eq_error_iff.1 added
      · exact .invalid apart flawed
      · exact .repeated apart valid ((gathered.contains t.name).1 known)
    | ok r' =>
      obtain ⟨valid, absent, rfl⟩ := register_eq_ok_iff.1 added
      refine .inl ⟨_, rfl, ?_, ?_, fun name => ?_⟩
      · rintro e (name | ⟨-, flawed⟩ | ⟨-, -, again⟩)
        · exact apart name
        · rw [valid] at flawed
          cases flawed
        · rw [(gathered.contains t.name).2 again] at absent
          cases absent
      · rw [List.foldlM_append, gathered.registered]
        change (r.register t).bind .ok = _
        rw [added]
        rfl
      · rw [contains_put, Bool.or_eq_true, gathered.contains, beq_iff_eq, List.map_append]
        simp [or_comm]

theorem registerAll_cases (tasks : List (Task β)) :
    (∃ given, registerAll empty tasks = .ok given ∧ Fine tasks ∧ Gathered tasks given) ∨
      ∃ e, registerAll empty tasks = .error e ∧ FirstOffence tasks e := by
  induction tasks using List.reverseRecOn with
  | nil =>
    exact .inl ⟨empty, rfl, fine_nil, rfl,
      fun name => by simp [contains, empty, Table.contains, Table.get?]⟩
  | append_singleton tasks t ih =>
    rw [registerAll_append_singleton]
    obtain ⟨given, all, fine, gathered⟩ | ⟨e, failed, offence⟩ := ih
    · rw [all]
      obtain ⟨r', admitted, sound, more⟩ | ⟨e, refused, offends⟩ := gathered.accept_cases t
      · exact .inl ⟨r', admitted, fine.append_singleton sound, more⟩
      · exact .inr ⟨e, refused, tasks, t, [], rfl, fine, offends⟩
    · rw [failed]
      exact .inr ⟨e, rfl, offence.append_singleton t⟩

/-! The overrides, and a dispatcher with what was put together. -/

def withSweep (r : Registry β) (sweep : β) : Registry β := r.put (Task.ofBody sweepTask sweep)

theorem contains_withSweep (r : Registry β) (sweep : β) (name : String) :
    (r.withSweep sweep).contains name = (name == sweepTask || r.contains name) :=
  contains_put r (Task.ofBody sweepTask sweep) name

theorem assemble_eq {given : Registry β} (all : registerAll empty tasks = .ok given) (sweep : β)
    (overrides : Option Routes) :
    assemble tasks sweep overrides =
      (given.withSweep sweep).overrideRoutes (overrides.getD []) := by
  have exempt : (fun task => !(given.withSweep sweep).contains task) =
      fun task => task != sweepTask && !given.contains task := by
    funext task
    rw [contains_withSweep, Bool.not_or]
    rfl
  unfold assemble overrideRoutes
  rw [all, exempt]
  rfl

theorem Gathered.strays_iff {given : Registry β} (gathered : Gathered tasks given) (sweep : β)
    {routes : Routes} :
    (given.withSweep sweep).Strays routes e ↔
      ∃ key, IsLeast {key | Unknown tasks routes key} key ∧
        e = .config (.overrideOfUnregistered key) := by
  have unknown (key : String) :
      (given.withSweep sweep).contains key = false ↔
        key ≠ sweepTask ∧ key ∉ tasks.map Task.name := by
    rw [contains_withSweep, Bool.or_eq_false_iff, beq_eq_false_iff_ne, ← gathered.contains,
      Bool.not_eq_true]
  simp only [Strays, Unknown, unknown]

end Coalesce.Registry

namespace Coalesce.Dispatcher

open Registry

variable {β : Type}

/-- Why no dispatcher can be built: for its tasks, and only with fine ones for its overrides. -/
inductive Unfit (tasks : List (Task β)) (routes : Routes) : Error → Prop where
  | offence {e : Error} (first : FirstOffence tasks e) : Unfit tasks routes e
  | unknown {key : String} (fine : Fine tasks)
      (least : IsLeast {key | Unknown tasks routes key} key) :
      Unfit tasks routes (.config (.overrideOfUnregistered key))

/-- What was built agrees with overriding routes in a registry of all tasks and the sweep. -/
structure Agrees (settings : Settings) (tasks : List (Task β)) (sweep : β) (routes : Routes)
    (built : Except Error (Dispatcher β)) : Prop where
  fails : (∃ e, built = .error e) ↔
    (∃ before t after e, tasks = before ++ t :: after ∧ Offends before t e) ∨
      ∃ key, Unknown tasks routes key
  reason : ∀ e, built = .error e ↔ Unfit tasks routes e
  same : Fine tasks → ∃ given, tasks.foldlM register .empty = .ok given ∧
    built = ((given.withSweep sweep).overrideRoutes routes).map fun r => ⟨r, settings⟩
  sweeps : ∀ d, built = .ok d → Fine tasks ∧
    d.registry.resolve sweepTask =
      .ok ((Task.ofBody sweepTask sweep).routed (routes.get? sweepTask))

variable {settings : Settings} {tasks : List (Task β)} {sweep : β} {routes : Routes}

theorem agrees_of_offence {e : Error} (first : FirstOffence tasks e) :
    Agrees settings tasks sweep routes (.error e) where
  fails := by
    obtain ⟨before, t, after, same, -, offends⟩ := first
    exact ⟨fun _ => .inl ⟨before, t, after, e, same, offends⟩, fun _ => ⟨e, rfl⟩⟩
  reason e' := by
    constructor
    · intro same
      cases same
      exact .offence first
    · rintro (first' | ⟨fine, -⟩)
      · rw [first.unique first']
      · exact absurd fine first.not_fine
  same fine := absurd fine first.not_fine
  sweeps _ built := by cases built

theorem resolve_sweepTask (given : Registry β) (o : Overrides) (sweep : β) :
    ((given.withSweep sweep).pin o.routes).resolve sweepTask =
      .ok ((Task.ofBody sweepTask sweep).routed (o.routes.get? sweepTask)) := by
  unfold resolve withSweep
  rw [find?_pin _ o.sorted, find?_put]
  rfl

section Fine

variable {given : Registry β} {o : Overrides} {key : String}

theorem agrees_of_stray (fine : Fine tasks) (gathered : Gathered tasks given)
    (least : IsLeast {key | Unknown tasks o.routes key} key) :
    Agrees settings tasks sweep o.routes (.error (.config (.overrideOfUnregistered key))) where
  fails := ⟨fun _ => .inr ⟨key, least.1⟩, fun _ => ⟨_, rfl⟩⟩
  reason e := by
    constructor
    · intro same
      cases same
      exact .unknown fine least
    · rintro (first | ⟨-, least'⟩)
      · exact absurd fine first.not_fine
      · rw [least'.unique least]
  same _ := by
    have strays := (gathered.strays_iff sweep).2 ⟨key, least, rfl⟩
    exact ⟨given, gathered.registered, by rw [(overrideRoutes_eq_error_iff o).2 strays]; rfl⟩
  sweeps _ built := by cases built

theorem agrees_of_known (fine : Fine tasks) (gathered : Gathered tasks given)
    (known : ∀ key ∈ o.routes.keys, (given.withSweep sweep).contains key = true) :
    Agrees settings tasks sweep o.routes
      (.ok ⟨(given.withSweep sweep).pin o.routes, settings⟩) := by
  have none (key : String) : ¬ Unknown tasks o.routes key := by
    rintro ⟨mem, other, absent⟩
    have there := known key mem
    rw [contains_withSweep, Bool.or_eq_true, beq_iff_eq, gathered.contains] at there
    exact there.elim other absent
  refine ⟨⟨nofun, ?_⟩, fun e => ⟨nofun, ?_⟩, fun _ => ?_, fun d built => ?_⟩
  · rintro (⟨before, t, after, e, same, offends⟩ | ⟨key, unknown⟩)
    · exact absurd offends (fine before t after e same)
    · exact absurd unknown (none key)
  · rintro (first | ⟨-, least⟩)
    · exact absurd fine first.not_fine
    · exact absurd least.1 (none _)
  · exact ⟨given, gathered.registered, by rw [overrideRoutes_eq_ok_iff.2 ⟨known, rfl⟩]; rfl⟩
  · cases built
    exact ⟨fine, resolve_sweepTask given o sweep⟩

theorem agrees_of_fine (fine : Fine tasks) (gathered : Gathered tasks given) (o : Overrides) :
    Agrees settings tasks sweep o.routes
      (((given.withSweep sweep).overrideRoutes o.routes).map fun r => ⟨r, settings⟩) := by
  cases overridden : (given.withSweep sweep).overrideRoutes o.routes with
  | error e =>
    have strays := (overrideRoutes_eq_error_iff o).1 overridden
    obtain ⟨key, least, rfl⟩ := (gathered.strays_iff sweep).1 strays
    exact agrees_of_stray fine gathered least
  | ok r =>
    obtain ⟨known, rfl⟩ := overrideRoutes_eq_ok_iff.1 overridden
    exact agrees_of_known fine gathered known

end Fine

/-- Building a dispatcher fails for a task that has the name of the sweep, an invalid name or one
that was given before, or else for the least name in the overrides that is neither a task's nor the
sweep's. With fine tasks it ends as overriding routes does in a registry of all of them and the
sweep, and a dispatcher that was built has the sweep under its name. -/
theorem build_agrees (settings : Settings) (tasks : List (Task β)) (sweep : β)
    (overrides : Option Overrides) :
    Agrees settings tasks sweep (overrides.getD .none).routes
      (build settings tasks sweep (overrides.map Overrides.routes)) := by
  have routes : (overrides.map Overrides.routes).getD [] = (overrides.getD .none).routes := by
    cases overrides <;> rfl
  obtain ⟨given, all, fine, gathered⟩ | ⟨e, failed, first⟩ := registerAll_cases tasks
  · have built : build settings tasks sweep (overrides.map Overrides.routes) =
        ((given.withSweep sweep).overrideRoutes (overrides.getD .none).routes).map
          fun r => ⟨r, settings⟩ := by
      rw [build, assemble_eq all, routes]
      rfl
    rw [built]
    exact agrees_of_fine fine gathered _
  · have built : build settings tasks sweep (overrides.map Overrides.routes) = .error e := by
      rw [build, assemble, failed]
      rfl
    rw [built]
    exact agrees_of_offence first

end Coalesce.Dispatcher
