import Coalesce.Proofs.Drive
import Coalesce.Proofs.Interleaving
import Coalesce.Proofs.LockName
import Coalesce.Proofs.Maps

/-! Crash recovery. With nobody else at work, one sweep publishes a message for each flag whose name
can be resolved, and handling these messages runs each task once and takes its flag down. -/
namespace Coalesce.Recovery

open Interleaving (Stores)
open Memory.Flags (names_perm)

structure Ledger (κ : Type) where
  stores : Stores κ
  invoked : List (String × TaskInput)

variable {κ β : Type} [DecidableEq κ]

/-- Every step succeeds, and a task touches nothing. How it ends may hang on what was invoked
before. -/
def steady (key : String → κ) (call : Nat) (now : Timestamp)
    (outcome : List (String × TaskInput) → String → TaskInput → Except Error Json) :
    Backend (Ledger κ) where
  answer
    | .invoke task input, s =>
      (outcome s.invoked task input, { s with invoked := s.invoked ++ [(task, input)] })
    | r, s =>
      let (reply, stores) := s.stores.answer key call now .answered r
      (reply, { s with stores })

section
variable (key : String → κ) (call : Nat) (now : Timestamp)
  (outcome : List (String × TaskInput) → String → TaskInput → Except Error Json)

theorem answer_release (lock : String) (flags : Memory.Flags) (broker : Memory.Broker)
    (archived : List Nat) (invoked : List (String × TaskInput)) :
    (steady key call now outcome).answer (.release lock)
        ⟨⟨[(key lock, call)], flags, broker, archived⟩, invoked⟩ =
      (.ok (), ⟨⟨[], flags, broker, archived⟩, invoked⟩) := by
  simp [steady, Stores.answer, Stores.free, Interleaving.Verdict.reply]

theorem drive_acquiring (t : Trigger) {s : Ledger κ} (free : s.stores.locks = []) :
    ∃ result, (t.drive (steady key call now outcome) (.at .acquiring) s).2 =
      (result, ⟨s.stores.lower t.lock, s.invoked ++ [(t.task, t.input)]⟩) := by
  obtain ⟨⟨locks, flags, broker, archived⟩, invoked⟩ := s
  cases free
  let b := steady key call now outcome
  let taken (flags : Memory.Flags) : Stores κ := ⟨[(key t.lock, call)], flags, broker, archived⟩
  let invoked' := invoked ++ [(t.task, t.input)]
  let after : Ledger κ := ⟨⟨[], flags.lower t.lock, broker, archived⟩, invoked'⟩
  let checked : Ledger κ := ⟨taken (flags.lower t.lock), invoked'⟩
  have down : b.answer (.isRaised t.lock) checked = (.ok false, checked) := by
    simp [b, checked, taken, steady, Stores.answer, Interleaving.Verdict.on,
      Interleaving.Verdict.reply, Interleaving.Verdict.isEffective]
  have freed : b.answer (.release t.lock) checked = (.ok (), after) := answer_release ..
  have started : (t.drive b (.at .acquiring) ⟨⟨[], flags, broker, archived⟩, invoked⟩).2 =
      (t.drive b (t.resume (.running 1) (outcome invoked t.task t.input)).2 checked).2 :=
    calc
      _ = (t.drive b (.at (.clearing 1)) ⟨taken flags, invoked⟩).2 :=
        t.snd_drive_at b (p := .acquiring) rfl
      _ = (t.drive b (.at (.running 1)) ⟨taken (flags.lower t.lock), invoked⟩).2 :=
        t.snd_drive_at b (p := .clearing 1) rfl
      _ = _ := t.snd_drive_at b (p := .running 1) rfl
  rw [started]
  cases outcome invoked t.task t.input with
  | ok result =>
    refine ⟨.ok (.completed result 1), ?_⟩
    calc
      _ = (t.drive b (.at (.checking 1 result)) checked).2 := rfl
      _ = (t.drive b (.at (.releasing (.caughtUp result 1))) checked).2 :=
        t.snd_drive_at b (p := .checking 1 result) down
      _ = (t.drive b (.done (.ok (.completed result 1))) after).2 :=
        t.snd_drive_at b (p := .releasing (.caughtUp result 1)) freed
      _ = _ := t.snd_drive_done b _ after
  | error cause =>
    let failure := Error.task t.task cause
    have stillDown : b.answer (.isRaised t.lock) after = (.ok false, after) := by
      simp [b, after, steady, Stores.answer, Interleaving.Verdict.on,
        Interleaving.Verdict.reply, Interleaving.Verdict.isEffective]
    refine ⟨.error failure, ?_⟩
    calc
      _ = (t.drive b (.at (.releasing (.failed failure))) checked).2 := rfl
      _ = (t.drive b (.at (.rechecking failure)) after).2 :=
        t.snd_drive_at b (p := .releasing (.failed failure)) freed
      _ = (t.drive b (.done (.error failure)) after).2 :=
        t.snd_drive_at b (p := .rechecking failure) stillDown
      _ = _ := t.snd_drive_done b _ after

variable (d : Dispatcher β) (fresh : Nat → String)

/-! The sweep. -/

def resubmission (id : String) (identity : Identity) (task : Task β) : Delivery :=
  (d.publisher.prepare id task ⟨identity.args, []⟩ .default).delivery

def resubmissions : Nat → List Flag → List Delivery
  | _, [] => []
  | n, flag :: rest =>
    ((d.resolve? flag.name).map fun found =>
        resubmission d (fresh (n + 1)) found.1 found.2).toList ++
      resubmissions (n + 1) rest

def Ledger.post (s : Ledger κ) (ds : List Delivery) : Ledger κ :=
  { s with stores := { s.stores with broker := ⟨s.stores.broker.deliveries ++ ds⟩ } }

omit [DecidableEq κ] in
theorem Ledger.post_nil (s : Ledger κ) : s.post [] = s := by
  simp [post]

omit [DecidableEq κ] in
theorem Ledger.post_append (s : Ledger κ) (ds es : List Delivery) :
    s.post (ds ++ es) = (s.post ds).post es := by
  simp [post]

variable {d}

theorem drive_next (accepting : d.settings.bypassBroker = false) (flags : List Flag)
    (report : SweepReport) {s : Ledger κ} (free : s.stores.locks = []) :
    ∃ report', ((d.sweep fresh).drive (steady key call now outcome)
        (Sweep.next report flags).2 s).2 =
      (.ok report', s.post (resubmissions d fresh report.scanned flags)) := by
  induction flags generalizing report s with
  | nil =>
    refine ⟨report, ?_⟩
    rw [resubmissions, Ledger.post_nil]
    exact (d.sweep fresh).snd_drive_done _ _ s
  | cons flag rest ih =>
    let sw := d.sweep fresh
    let b := steady key call now outcome
    let probed := { report with scanned := report.scanned + 1 }
    have probe : (sw.drive b (Sweep.next report (flag :: rest)).2 s).2 =
        (sw.drive b (sw.orphaned probed flag.name rest).2 s).2 := by
      obtain ⟨⟨locks, up, broker, archived⟩, invoked⟩ := s
      cases free
      exact sw.snd_drive_free b rfl (answer_release ..)
    rw [probe, resubmissions]
    cases found : d.resolve? flag.name with
    | none =>
      rw [Dispatcher.orphaned_of_unresolved _ _ found]
      exact ih { probed with unresolved := probed.unresolved ++ [flag.name] } free
    | some resolved =>
      obtain ⟨id, task⟩ := resolved
      let p := d.publisher.prepare (fresh probed.scanned) task ⟨id.args, []⟩ .default
      let counted := { probed with resubmitted := probed.resubmitted ++ [flag.name] }
      have published : (sw.drive b (.at (.publishing probed flag.name rest p)) s).2 =
          (sw.drive b (Sweep.next counted rest).2 (s.post [p.delivery])).2 :=
        sw.snd_drive_at b (p := .publishing probed flag.name rest p) rfl
      obtain ⟨report', last⟩ := ih counted (s := s.post [p.delivery]) free
      have delivered : p.delivered = true := by
        change (!d.settings.bypassBroker) = true
        rw [accepting]
        rfl
      refine ⟨report', ?_⟩
      rw [Dispatcher.orphaned_of_resolved _ _ found, if_pos delivered, Ledger.post_append]
      exact published.trans last

theorem drive_sweep (accepting : d.settings.bypassBroker = false) {s : Ledger κ}
    (free : s.stores.locks = []) :
    ∃ report, ((d.sweep fresh).drive (steady key call now outcome) Sweep.start.2 s).2 =
      (.ok report, s.post (resubmissions d fresh 0 s.stores.flags.list)) := by
  obtain ⟨report, swept⟩ := drive_next key call now outcome fresh accepting s.stores.flags.list
    .empty free
  have listed : ((d.sweep fresh).drive (steady key call now outcome) Sweep.start.2 s).2 =
      ((d.sweep fresh).drive (steady key call now outcome)
        (Sweep.next .empty s.stores.flags.list).2 s).2 :=
    (d.sweep fresh).snd_drive_at _ (p := .listing) rfl
  exact ⟨report, listed.trans swept⟩

/-! Handling messages. -/

variable (d) in
/-- Reads a message in the form it has in a queue and executes its task. -/
def handle {σ : Type} (b : Backend σ) (id : String) (payload : Json) (s : σ) :
    Except Error Outcome × σ :=
  match Message.decode payload with
  | .error mismatch => (.error (.json mismatch), s)
  | .ok m =>
    match d.handle id m with
    | .error e => (.error e, s)
    | .ok (t, _, state) => (t.drive b state s).2

variable (d) in
/-- Handles messages one after the other. The ids are for messages that come of that in turn. -/
def handleAll {σ : Type} (b : Backend σ) (ids : Nat → String) : Nat → List Delivery → σ → σ
  | _, [], s => s
  | n, x :: rest, s => handleAll b ids (n + 1) rest (handle d b (ids n) x.message.toJson s).2

theorem decode_toJson (id task : String) (args : List Json) :
    Message.decode (Message.ofTask id task args).toJson = .ok (.ofTask id task args) := rfl

structure Plain (d : Dispatcher β) (m : Message) : Prop where
  bare : m = .ofTask m.id m.task m.args
  known : (d.registry.find? m.task).isSome

def invocation (m : Message) : String × TaskInput := (m.task, ⟨m.args, []⟩)

def Ledger.settle (s : Ledger κ) (x : Delivery) : Ledger κ :=
  ⟨s.stores.lower x.message.identity.lockName, s.invoked ++ [invocation x.message]⟩

theorem handle_plain (named : d.registry.Named) {x : Delivery} (plain : Plain d x.message)
    (id : String) {s : Ledger κ} (free : s.stores.locks = []) :
    (handle d (steady key call now outcome) id x.message.toJson s).2 = s.settle x := by
  obtain ⟨task, known⟩ := Option.isSome_iff_exists.1 plain.known
  obtain ⟨queue, exchange, n, name, args, kwargs, extra⟩ := x
  cases plain.bare
  let t := Trigger.ofTask d.settings id task ⟨args, []⟩
  have started : d.handle id (.ofTask n name args) =
      .ok (t, t.start d.settings .autocommit .execute) := by
    have resolved : d.registry.resolve name = .ok task := by
      change d.registry.find? name = some task at known
      rw [Registry.resolve, known]
    change d.trigger id .autocommit .execute name ⟨args, []⟩ = _
    rw [Dispatcher.trigger, resolved]
    rfl
  obtain ⟨result, run⟩ := drive_acquiring key call now outcome t free
  have handled : handle d (steady key call now outcome) id (Message.ofTask n name args).toJson s =
      (result, ⟨s.stores.lower t.lock, s.invoked ++ [(t.task, t.input)]⟩) := by
    rw [handle, decode_toJson]
    dsimp only
    rw [started]
    exact run
  have same : task.name = name := named name task known
  cases same
  exact congrArg Prod.snd handled

theorem handleAll_plain (named : d.registry.Named) (ids : Nat → String) (n : Nat)
    {order : List Delivery} (plain : ∀ x ∈ order, Plain d x.message) {s : Ledger κ}
    (free : s.stores.locks = []) :
    handleAll d (steady key call now outcome) ids n order s = order.foldl Ledger.settle s := by
  induction order generalizing n s with
  | nil => rfl
  | cons x order ih =>
    have first := handle_plain key call now outcome named (plain x List.mem_cons_self) (ids n) free
    rw [handleAll, first]
    exact ih (n + 1) (fun y mem => plain y (List.mem_cons_of_mem x mem)) free

end

/-! The flags that are up. -/

theorem isRaised_iff {flags : Memory.Flags} {name : String} :
    flags.isRaised name = true ↔ ∃ flag ∈ flags.list, flag.name = name := by
  rw [Memory.Flags.isRaised, Table.contains_iff_mem_keys, ← (names_perm flags).mem_iff,
    List.mem_map]

/-! What has become of names and invocations. -/

section
variable (s : Ledger κ) (order : List Delivery)

omit [DecidableEq κ]

def lockOf (x : Delivery) : String := x.message.identity.lockName

theorem invoked_settle :
    (order.foldl Ledger.settle s).invoked =
      s.invoked ++ order.map fun x => invocation x.message := by
  induction order generalizing s with
  | nil => simp
  | cons x order ih =>
    rw [List.foldl_cons, ih]
    simp [Ledger.settle]

theorem locks_settle : (order.foldl Ledger.settle s).stores.locks = s.stores.locks := by
  induction order generalizing s with
  | nil => rfl
  | cons x order ih => exact ih (s.settle x)

theorem get?_settle_of_not_mem {name : String} (other : name ∉ order.map lockOf) :
    (order.foldl Ledger.settle s).stores.flags.rows.get? name = s.stores.flags.rows.get? name := by
  induction order generalizing s with
  | nil => rfl
  | cons x order ih =>
    rw [List.map_cons, List.mem_cons, not_or] at other
    rw [List.foldl_cons, ih _ other.2]
    exact Table.get?_erase_of_ne other.1 _

theorem get?_settle_of_mem {name : String} (mem : name ∈ order.map lockOf) :
    (order.foldl Ledger.settle s).stores.flags.rows.get? name = none := by
  induction order generalizing s with
  | nil => cases mem
  | cons x order ih =>
    rw [List.foldl_cons]
    by_cases again : name ∈ order.map lockOf
    · exact ih _ again
    · have same : name = lockOf x := (List.mem_cons.1 mem).resolve_right again
      rw [get?_settle_of_not_mem _ _ again, same]
      exact Table.get?_erase_self _ _

end

section
variable {d : Dispatcher β} {fresh : Nat → String}

theorem identity_resubmission (named : d.registry.Named) {id : Identity} {task : Task β}
    (registered : d.registry.find? id.task = some task) (n : String) :
    (resubmission d n id task).message.identity = id := by
  have same : task.name = id.task := named id.task task registered
  change Identity.mk task.name id.args = id
  rw [same]

theorem plain_resubmission (named : d.registry.Named) {id : Identity} {task : Task β}
    (registered : d.registry.find? id.task = some task) (n : String) :
    Plain d (resubmission d n id task).message :=
  ⟨rfl, named.isSome_find? registered⟩

theorem mem_resubmissions {flags : List Flag} {n : Nat} {x : Delivery}
    (mem : x ∈ resubmissions d fresh n flags) :
    ∃ flag ∈ flags, ∃ m id task, d.resolve? flag.name = some (id, task) ∧
      x = resubmission d (fresh m) id task := by
  induction flags generalizing n with
  | nil => cases mem
  | cons flag rest ih =>
    rw [resubmissions] at mem
    obtain first | later := List.mem_append.1 mem
    · obtain ⟨⟨id, task⟩, found, rfl⟩ := Option.map_eq_some_iff.1 (Option.mem_toList.1 first)
      exact ⟨flag, List.mem_cons_self, n + 1, id, task, found, rfl⟩
    · obtain ⟨other, among, rest⟩ := ih later
      exact ⟨other, List.mem_cons_of_mem flag among, rest⟩

theorem handleAll_resubmissions (key : String → κ) (call : Nat) (now : Timestamp)
    (outcome : List (String × TaskInput) → String → TaskInput → Except Error Json)
    (named : d.registry.Named) (ids : Nat → String) {flags : List Flag} {order : List Delivery}
    (among : ∀ x ∈ order, x ∈ resubmissions d fresh 0 flags) {s : Ledger κ}
    (free : s.stores.locks = []) :
    handleAll d (steady key call now outcome) ids 0 order s = order.foldl Ledger.settle s := by
  refine handleAll_plain key call now outcome named ids 0 (fun x mem => ?_) free
  obtain ⟨flag, -, n, id, task, found, rfl⟩ := mem_resubmissions (among x mem)
  exact plain_resubmission named (Dispatcher.of_resolve? found).2 (fresh n)

def Faithful (d : Dispatcher β) (name : String) : Prop :=
  ∀ id task, d.resolve? name = some (id, task) → id.lockName = name

theorem lockOf_resubmission (named : d.registry.Named) {name : String} (faithful : Faithful d name)
    {id : Identity} {task : Task β} (found : d.resolve? name = some (id, task)) (n : String) :
    lockOf (resubmission d n id task) = name := by
  rw [lockOf, identity_resubmission named (Dispatcher.of_resolve? found).2]
  exact faithful id task found

variable (fresh) in
theorem filter_resubmissions (named : d.registry.Named) {flags : List Flag}
    (distinct : (flags.map Flag.name).Nodup) (faithful : ∀ flag ∈ flags, Faithful d flag.name)
    {flag : Flag} (mem : flag ∈ flags) {id : Identity} {task : Task β}
    (found : d.resolve? flag.name = some (id, task)) (n : Nat) :
    ∃ m, (resubmissions d fresh n flags).filter (fun x => lockOf x = flag.name) =
      [resubmission d (fresh m) id task] := by
  induction flags generalizing n with
  | nil => cases mem
  | cons first rest ih =>
    rw [List.map_cons, List.nodup_cons] at distinct
    have later := fun other among => faithful other (List.mem_cons_of_mem first among)
    rw [resubmissions, List.filter_append]
    obtain rfl | among := List.mem_cons.1 mem
    · have others :
          (resubmissions d fresh (n + 1) rest).filter (fun x => lockOf x = flag.name) = [] := by
        refine List.filter_eq_nil_iff.2 fun x published => ?_
        obtain ⟨other, among, m, id', task', found', rfl⟩ := mem_resubmissions published
        rw [lockOf_resubmission named (later other among) found', decide_eq_true_eq]
        intro clash
        exact distinct.1 (List.mem_map.2 ⟨other, among, clash⟩)
      have own := lockOf_resubmission named (faithful flag mem) found (fresh (n + 1))
      refine ⟨n + 1, ?_⟩
      simp [others, found, own]
    · have ne : first.name ≠ flag.name := by
        intro clash
        exact distinct.1 (List.mem_map.2 ⟨flag, among, clash.symm⟩)
      have apart : ((d.resolve? first.name).map fun found =>
          resubmission d (fresh (n + 1)) found.1 found.2).toList.filter
            (fun x => lockOf x = flag.name) = [] := by
        refine List.filter_eq_nil_iff.2 fun x published => ?_
        obtain ⟨⟨id', task'⟩, found', rfl⟩ :=
          Option.map_eq_some_iff.1 (Option.mem_toList.1 published)
        rw [lockOf_resubmission named (faithful first List.mem_cons_self) found', decide_eq_true_eq]
        exact ne
      rw [apart]
      exact ih distinct.2 later among (n + 1)

end

/-- What flags are raised under: the lock name of a task that is not the sweep, with arguments whose
numbers are read as they are written. -/
def Written (name : String) : Prop :=
  ∃ id : Identity, id.lockName = name ∧ validateTaskName id.task = .ok () ∧ id.task ≠ sweepTask ∧
    Json.Ordered (.arr id.args) ∧
    ∀ x ∈ Json.floats (.arr id.args), Json.parse (Json.compact (.float x)) = .ok (.float x)

theorem Written.faithful {d : Dispatcher β} {name : String} (written : Written name) :
    Faithful d name := by
  obtain ⟨id, rfl, valid, -, ordered, numbers⟩ := written
  intro id' task found
  rw [Identity.eq_of_ofLockName valid ordered numbers (Dispatcher.of_resolve? found).1]

/-- How a dispatcher deals with the flags that were up `before`: which messages it publishes, which
tasks it invokes, and which flags are up `after`. -/
structure Repaired (d : Dispatcher β) (fresh : Nat → String) (before : Memory.Flags)
    (published : List Delivery) (invoked : List (String × TaskInput)) (after : Memory.Flags) :
    Prop where
  sent : ∀ name id task, before.isRaised name = true → d.resolve? name = some (id, task) →
    ∃ n p, d.publication (fresh n) id.task ⟨id.args, []⟩ .default = .ok p ∧
      published.filter (fun x => x.message.identity.lockName = name) = [p.delivery]
  ran : ∀ name id task, before.isRaised name = true → d.resolve? name = some (id, task) →
    invoked.filter (fun i => Identity.lockName ⟨i.1, i.2.args⟩ = name) = [(id.task, ⟨id.args, []⟩)]
  cleared : ∀ name id task, before.isRaised name = true → d.resolve? name = some (id, task) →
    after.isRaised name = false
  kept : ∀ name, d.resolve? name = none → after.rows.get? name = before.rows.get? name

section
variable {d : Dispatcher β} (fresh : Nat → String) {flags : Memory.Flags} {order : List Delivery}

theorem filter_of_perm (named : d.registry.Named) (sorted : flags.rows.Sorted)
    (written : ∀ name, flags.isRaised name = true → Written name)
    (perm : order.Perm (resubmissions d fresh 0 flags.list)) {name : String} {id : Identity}
    {task : Task β} (up : flags.isRaised name = true)
    (found : d.resolve? name = some (id, task)) :
    ∃ n, order.filter (fun x => lockOf x = name) = [resubmission d (fresh n) id task] := by
  have faithful : ∀ flag ∈ flags.list, Faithful d flag.name :=
    fun flag mem => (written _ (isRaised_iff.2 ⟨flag, mem, rfl⟩)).faithful
  have distinct : (flags.list.map Flag.name).Nodup :=
    (names_perm _).nodup_iff.2 (Table.nodup_of_sorted sorted)
  obtain ⟨flag, mem, rfl⟩ := isRaised_iff.1 up
  obtain ⟨n, one⟩ := filter_resubmissions fresh named distinct faithful mem found 0
  have same := perm.filter fun x => decide (lockOf x = flag.name)
  rw [one] at same
  exact ⟨n, List.perm_singleton.1 same⟩

omit [DecidableEq κ] in
theorem repaired_of_perm (named : d.registry.Named) {s : Ledger κ} (same : s.stores.flags = flags)
    (sorted : flags.rows.Sorted) (written : ∀ name, flags.isRaised name = true → Written name)
    (perm : order.Perm (resubmissions d fresh 0 flags.list)) :
    Repaired d fresh flags (resubmissions d fresh 0 flags.list)
      (order.map fun x => invocation x.message) (order.foldl Ledger.settle s).stores.flags := by
  refine ⟨?sent, ?ran, ?cleared, ?kept⟩
  case sent =>
    intro name id task up found
    obtain ⟨n, one⟩ := filter_of_perm fresh named sorted written (List.Perm.refl _) up found
    have resolved : d.registry.resolve id.task = .ok task := by
      rw [Registry.resolve, (Dispatcher.of_resolve? found).2]
    refine ⟨n, _, ?_, one⟩
    rw [Dispatcher.publication, resolved]
    rfl
  case ran =>
    intro name id task up found
    obtain ⟨n, one⟩ := filter_of_perm fresh named sorted written perm up found
    have own : task.name = id.task := named id.task task (Dispatcher.of_resolve? found).2
    rw [List.filter_map]
    change (order.filter fun x => decide (lockOf x = name)).map _ = _
    rw [one, ← own]
    rfl
  case cleared =>
    intro name id task up found
    obtain ⟨n, one⟩ := filter_of_perm fresh named sorted written perm up found
    have mem : resubmission d (fresh n) id task ∈ order.filter fun x => lockOf x = name := by
      rw [one]
      exact List.mem_singleton_self _
    obtain ⟨among, own⟩ := List.mem_filter.1 mem
    rw [Memory.Flags.isRaised, Table.contains,
      get?_settle_of_mem _ _ (List.mem_map.2 ⟨_, among, of_decide_eq_true own⟩)]
    rfl
  case kept =>
    intro name unknown
    rw [← same]
    refine get?_settle_of_not_mem s order fun mem => ?_
    obtain ⟨x, among, own⟩ := List.mem_map.1 mem
    obtain ⟨flag, up, n, id, task, found, rfl⟩ := mem_resubmissions (perm.subset among)
    have faithful := (written _ (isRaised_iff.2 ⟨flag, up, rfl⟩)).faithful (d := d)
    rw [lockOf_resubmission named faithful found] at own
    rw [own, unknown] at found
    cases found

end

/-- With no lock held and no step failing, one sweep and the handling of its messages in any order
repair all flags that can be resolved. -/
theorem repaired_of_handled (key : String → κ) (call : Nat) (now : Timestamp)
    (outcome : List (String × TaskInput) → String → TaskInput → Except Error Json)
    {d : Dispatcher β} (built : d.Built) (accepting : d.settings.bypassBroker = false)
    {s : Ledger κ} (free : s.stores.locks = []) (sorted : s.stores.flags.rows.Sorted)
    (written : ∀ name, s.stores.flags.isRaised name = true → Written name)
    (fresh ids : Nat → String) :
    ∃ report swept published,
      ((d.sweep fresh).drive (steady key call now outcome) Sweep.start.2 s).2 =
        (.ok report, swept) ∧
      swept.stores.broker.deliveries = s.stores.broker.deliveries ++ published ∧
      ∀ order, order.Perm published →
        let after := handleAll d (steady key call now outcome) ids 0 order swept
        after.stores.locks = [] ∧
          ∃ invoked, after.invoked = s.invoked ++ invoked ∧
            Repaired d fresh s.stores.flags published invoked after.stores.flags := by
  let published := resubmissions d fresh 0 s.stores.flags.list
  obtain ⟨report, swept⟩ := drive_sweep key call now outcome fresh accepting free
  refine ⟨report, s.post published, published, swept, rfl, fun order perm => ?_⟩
  have handled : handleAll d (steady key call now outcome) ids 0 order (s.post published) =
      order.foldl Ledger.settle (s.post published) :=
    handleAll_resubmissions key call now outcome built.named ids
      (fun x mem => perm.subset mem) free
  rw [handled]
  refine ⟨(locks_settle _ order).trans free, order.map fun x => invocation x.message,
    invoked_settle _ order, ?_⟩
  exact repaired_of_perm fresh built.named rfl sorted written perm

/-! A dispatcher with a computed route, and flags of which one is for a task that it does not
know. -/

def mailer : Dispatcher Unit :=
  ⟨⟨[(sweepTask, .ofBody sweepTask ()),
    ("mail.send",
      ⟨"mail.send", (), .computed fun args => "shard_" ++ toString args.length, .broadcast⟩),
    ("tick", .ofBody "tick" ())]⟩, .default⟩

theorem mailer_built : mailer.Built :=
  ⟨.default,
    [⟨"mail.send", (), .computed fun args => "shard_" ++ toString args.length, .broadcast⟩,
      .ofBody "tick" ()], (), none, rfl⟩

def mail : Identity :=
  ⟨"mail.send", [.str "a:b", .obj [("rate", .float ⟨false, 0x3ff8000000000000, by decide⟩)]]⟩

def orphans : Ledger String :=
  ⟨⟨[], ⟨[("gone", ⟨0, 0⟩), ("mail.send:[\"a:b\",\x7b\"rate\":1.5\x7d]", ⟨1, 0⟩), ("tick", ⟨2, 0⟩)],
    3, 3⟩, .empty, []⟩, []⟩

theorem orphans_written (name : String) (up : orphans.stores.flags.isRaised name = true) :
    Written name := by
  have mem := Table.contains_iff_mem_keys.1 up
  have names : name = "gone" ∨ name = mail.lockName ∨ name = "tick" := by
    have text : mail.lockName = "mail.send:[\"a:b\",\x7b\"rate\":1.5\x7d]" := by decide +kernel
    rw [text]
    simpa [orphans, Table.keys] using mem
  obtain rfl | rfl | rfl := names
  · exact ⟨⟨"gone", []⟩, rfl, rfl, by decide, trivial, by simp [Json.floats, Json.floatsItems]⟩
  · exact ⟨mail, rfl, rfl, by decide, by decide +kernel, by decide +kernel⟩
  · exact ⟨⟨"tick", []⟩, rfl, rfl, by decide, trivial, by simp [Json.floats, Json.floatsItems]⟩

def failsOnce (past : List (String × TaskInput)) (_ : String) (_ : TaskInput) : Except Error Json :=
  if past.isEmpty then .error (.other "full") else .ok .null

/-- The mail is sent to the queue that its route computes, and the flag of the unknown task
stays. -/
theorem repaired_of_handled_orphans :
    ∃ report swept published n,
      ((mailer.sweep toString).drive (steady id 0 ⟨3, 0⟩ failsOnce) Sweep.start.2 orphans).2 =
        (.ok report, swept) ∧
      swept.stores.broker.deliveries = published ∧
      published.filter (fun x => x.message.identity.lockName = mail.lockName) =
        [⟨"shard_2", .broadcast, .ofTask n "mail.send" mail.args⟩] ∧
      ∀ order, order.Perm published →
        let after := handleAll mailer (steady id 0 ⟨3, 0⟩ failsOnce) toString 0 order swept
        after.stores.locks = [] ∧ after.stores.flags.isRaised mail.lockName = false ∧
          after.stores.flags.rows.get? "gone" = some ⟨0, 0⟩ := by
  have read : Identity.ofLockName mail.lockName = .ok mail :=
    Identity.ofLockName_of_shallow rfl (by decide +kernel) (by decide +kernel) (by decide +kernel)
  obtain ⟨task, known⟩ : ∃ task, mailer.resolve? mail.lockName = some (mail, task) := by
    unfold Dispatcher.resolve?
    rw [read]
    exact ⟨_, rfl⟩
  have up : orphans.stores.flags.isRaised mail.lockName = true := by decide +kernel
  obtain ⟨report, swept, published, run, new, handled⟩ :=
    repaired_of_handled id 0 ⟨3, 0⟩ failsOnce mailer_built rfl (s := orphans) rfl
      (by decide +kernel) orphans_written toString toString
  obtain ⟨-, invoked, -, repaired⟩ := handled published (List.Perm.refl _)
  obtain ⟨n, p, publication, one⟩ := repaired.sent _ _ _ up known
  refine ⟨report, swept, published, toString n, run, new, ?_, fun order perm => ?_⟩
  · rw [one]
    cases publication
    rfl
  · obtain ⟨free, invoked', -, repaired'⟩ := handled order perm
    exact ⟨free, repaired'.cleared _ _ _ up known, repaired'.kept "gone" rfl⟩

/-- A number whose text is read as its neighbour. -/
def misread : Identity := ⟨"tick", [.float ⟨false, 0x4d85e50bf72f2bba, by decide⟩]⟩

/-- The message for its flag is one for the neighbour, and the flag stays up. -/
theorem isRaised_misread :
    let s : Ledger String := ⟨⟨[], ⟨[(misread.lockName, ⟨0, 0⟩)], 1, 1⟩, .empty, []⟩, []⟩
    validateTaskName misread.task = .ok () ∧
      misread.lockName = "tick:[2.8822281110819753e+65]" ∧ ∃ report swept,
      ((mailer.sweep toString).drive (steady id 0 ⟨1, 0⟩ failsOnce) Sweep.start.2 s).2 =
        (.ok report, swept) ∧
      swept.stores.broker.deliveries.map (fun x => x.message.identity.lockName) =
        ["tick:[2.882228111081975e+65]"] ∧
      let after := handleAll mailer (steady id 0 ⟨1, 0⟩ failsOnce) toString 0
        swept.stores.broker.deliveries swept
      after.stores.flags.isRaised misread.lockName = true := by
  intro s
  let published := resubmissions mailer toString 0 s.stores.flags.list
  obtain ⟨report, swept⟩ := drive_sweep id 0 ⟨1, 0⟩ failsOnce toString (d := mailer) rfl
    (s := s) rfl
  have handled := handleAll_resubmissions id 0 ⟨1, 0⟩ failsOnce mailer_built.named toString
    (fun x (mem : x ∈ published) => mem) (s := s.post published) rfl
  have up : (published.foldl Ledger.settle (s.post published)).stores.flags.isRaised
      misread.lockName = true := by decide +kernel
  refine ⟨rfl, by decide +kernel, report, s.post published, swept, by decide +kernel, ?_⟩
  exact (congrArg (fun s => s.stores.flags.isRaised misread.lockName) handled).trans up

end Coalesce.Recovery
