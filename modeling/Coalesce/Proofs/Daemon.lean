import Coalesce.CommandLine.Run
import Coalesce.Proofs.LockName
import Coalesce.Proofs.Sweeping

/-! The sweep of the command line. Its dispatcher knows no task but the sweep, so it leaves the
flags of all other tasks up and sends no message for them. -/
namespace Coalesce

namespace CommandLine

theorem dispatcher_built {config : Config} {files : Files} {d : Dispatcher Unit}
    (built : dispatcher config files = .ok d) :
    d.Built ∧ ∀ name, (d.registry.find? name).isSome → name = sweepTask := by
  unfold dispatcher at built
  cases routes : config.routes files with
  | error e =>
    rw [routes] at built
    cases built
  | ok overrides =>
    rw [routes] at built
    have build : Dispatcher.build config.settings [] () overrides = .ok d := built
    refine ⟨⟨_, _, _, _, build⟩, fun name known => ?_⟩
    unfold Dispatcher.build at build
    cases assembled : Registry.assemble [] () overrides with
    | error e =>
      rw [assembled] at build
      cases build
    | ok r =>
      rw [assembled] at build
      cases build
      exact Registry.eq_sweepTask_of_assemble assembled known

end CommandLine

namespace Daemon

open Server (Database Known Resolved sweeping_done)

variable {β : Type} {d : Dispatcher β}

/-! The sweep as a task. -/

structure Kept (d : Dispatcher β) (free : UInt64 → Prop) (start db : Database) : Prop where
  key : db.key = start.key
  column : db.column = start.column
  flags : ∀ flag ∈ start.link.tables.flags, flag.name ≠ sweepTask → flag ∈ db.link.tables.flags
  appends : start.link.tables.Appends (Known d start.column) db.link.tables
  clear : ∀ g ∈ db.sessions.grants, ¬free g.2

/-- The result of the task is a report that resubmits nothing but what can be resolved, and that
names all other flags whose locks are free. -/
def Reported (d : Dispatcher β) (free : UInt64 → Prop) (start : Database) (result : Json) : Prop :=
  ∃ report : SweepReport, result = report.toJson ∧ Resolved d report ∧
    ∀ flag ∈ start.link.tables.flags, flag.name ≠ sweepTask → free (start.key flag.name) →
      d.resolve? flag.name = none → flag.name ∈ report.unresolved

/-- What an execution of the sweep keeps on its way to being completed. Of one that has left this
way, to hand its work to a message or to fail, nothing is said. -/
def Executing (d : Dispatcher β) (free : UInt64 → Prop) (start : Database) :
    Trigger.State → Database → Prop
  | .at .acquiring, db => Kept d free start db
  | .at (.clearing _), db => Kept d free start db
  | .at (.running _), db => Kept d free start db
  | .at (.checking _ result), db => Kept d free start db ∧ Reported d free start result
  | .at (.releasing (.caughtUp result _)), db =>
    Kept d free start db ∧ Reported d free start result
  | .done (.ok (.completed result _)), db => Kept d free start db ∧ Reported d free start result
  | _, _ => True

section
variable {free : UInt64 → Prop} {start db db' : Database}

theorem Kept.grow (h : Kept d free start db) (grown : db.Grows (Known d start.column) db')
    (clear : ∀ g ∈ db'.sessions.grants, ¬free g.2) : Kept d free start db' := by
  refine ⟨grown.key.trans h.key, grown.column.trans h.column, fun flag up other => ?_,
    h.appends.trans grown.tables.appends, clear⟩
  rw [grown.tables.flags]
  exact h.flags flag up other

theorem Kept.lower (h : Kept d free start db) :
    Kept d free start (db.perform (Server.Flags.lower sweepTask)).2 := by
  have key := (db.key_perform (Server.Flags.lower sweepTask)).trans h.key
  have column := (db.column_perform (Server.Flags.lower sweepTask)).trans h.column
  have sessions := db.sessions_perform (Server.Flags.lower sweepTask)
  obtain same | lowered := db.tables_lower sweepTask
  · exact ⟨key, column, same ▸ h.flags, same ▸ h.appends, sessions ▸ h.clear⟩
  · refine ⟨key, column, fun flag up other => ?_, ?_, sessions ▸ h.clear⟩
    · rw [lowered]
      exact List.mem_filter.2 ⟨h.flags flag up other, decide_eq_true other⟩
    · rw [lowered]
      exact h.appends.trans (.of_eq rfl)

theorem Kept.swept (h : Kept d free start db) (named : d.registry.Named) (fresh : Nat → String)
    {report : SweepReport} (swept : (db.sweep d fresh).2 = (.ok report, db')) :
    Kept d free start db' ∧ Reported d free start report.toJson := by
  have done := sweeping_done named fresh h.clear
  rw [swept] at done
  have grown : db.Grows (Known d start.column) db' := h.column ▸ done.grows
  refine ⟨h.grow grown done.clear, report, rfl, done.told, fun flag up other held unknown => ?_⟩
  exact done.owed flag (h.flags flag up other) (h.key ▸ held) unknown

theorem executing_returned (t : Trigger) (handoff : Trigger.Handoff) (reply : Except Error Unit) :
    Executing d free start (.done (handoff.returned t reply)) db := by
  cases handoff <;> cases reply <;> trivial

section
variable {t : Trigger}

theorem Kept.acquire (h : Kept d free start db) (lock : t.lock = sweepTask)
    (own : ¬free (start.key sweepTask)) (taken : db.acquire t.lock = (.ok true, db')) :
    Kept d free start db' := by
  have grown := db.grows_acquire (P := Known d start.column) t.lock
  have grants := db.acquire_cases t.lock
  rw [taken] at grown grants
  obtain ⟨-, session, granted, -⟩ | ⟨ne, -⟩ := grants
  · refine h.grow grown fun g mem => ?_
    rw [granted, lock, h.key] at mem
    obtain rfl | before := List.mem_cons.1 mem
    · exact own
    · exact h.clear g before
  · exact absurd rfl ne

theorem Kept.run (h : Kept d free start db) (named : d.registry.Named) (task : t.task = sweepTask)
    {fresh : Nat → String} {result : Json}
    (ran : Database.sweepRunner d fresh t.task t.input db = (.ok result, db')) :
    Kept d free start db' ∧ Reported d free start result := by
  obtain ⟨found, after, swept⟩ : ∃ found after, (db.sweep d fresh).2 = (found, after) :=
    ⟨_, _, rfl⟩
  have first : (db.sweep d fresh).2.1 = found := congrArg Prod.fst swept
  have second : (db.sweep d fresh).2.2 = after := congrArg Prod.snd swept
  have same : Database.sweepRunner d fresh t.task t.input db =
      (found.map SweepReport.toJson, after) := by
    rw [Database.sweepRunner, if_pos task, ← first, ← second]
  rw [ran] at same
  obtain ⟨mapped, rfl⟩ := Prod.mk.inj same
  cases found with
  | error e => cases mapped
  | ok report =>
    cases mapped
    exact h.swept named fresh swept

theorem Kept.look (h : Kept d free start db) {reply : Except Error Bool}
    (looked : db.perform (Server.Flags.isRaised t.lock) = (reply, db')) :
    Kept d free start db' := by
  have grown := db.grows_perform (P := Known d start.column) (Server.Flags.grows_isRaised t.lock)
  have sessions := db.sessions_perform (Server.Flags.isRaised t.lock)
  rw [looked] at grown sessions
  exact h.grow grown (sessions ▸ h.clear)

theorem Kept.release (h : Kept d free start db) {reply : Except Error Unit}
    (released : db.release t.lock = (reply, db')) : Kept d free start db' := by
  have grown := db.grows_release (P := Known d start.column) t.lock
  have fewer := db.grants_release_subset t.lock
  rw [released] at grown fewer
  exact h.grow grown fun g mem => h.clear g (fewer g mem)

theorem Executing.step (named : d.registry.Named) (lock : t.lock = sweepTask)
    (task : t.task = sweepTask) (own : ¬free (start.key sweepTask)) (fresh : Nat → String)
    (p : Trigger.Point) (h : Executing d free start (.at p) db) :
    let answer := (Database.backend (Database.sweepRunner d fresh)).answer (p.request t) db
    Executing d free start (t.resume p answer.1).2 answer.2 := by
  intro answer
  obtain ⟨reply, db', answered⟩ : ∃ reply db', answer = (reply, db') := ⟨_, _, rfl⟩
  obtain ⟨sent, next, -⟩ := t.follows_resume p reply
  rw [answered]
  dsimp only
  generalize (t.resume p reply).2 = st at next ⊢
  cases next with
  | taken => exact Kept.acquire h lock own answered
  | cleared cycle =>
    -- The flag that is lowered is that of the sweep, which no flag of an application can be.
    have kept := Kept.lower h
    rw [← lock] at kept
    obtain rfl : _ = db' := congrArg Prod.snd answered
    exact kept
  | ran => exact Kept.run h named task answered
  | unseen => exact ⟨Kept.look h.1 answered, h.2⟩
  | again => exact Kept.look h.1 answered
  | caughtUp => exact ⟨Kept.release h.1 answered, h.2⟩
  | bypassed | published | unpublished => exact executing_returned t _ _
  | _ => trivial

end

end

/-- The flag of a task of an application, whichever arguments it is to be run for. -/
def Applied (name : String) : Prop :=
  ∃ id : Identity, id.lockName = name ∧ validateTaskName id.task = .ok () ∧ id.task ≠ sweepTask

theorem Applied.ne_sweepTask {name : String} (applied : Applied name) : name ≠ sweepTask := by
  obtain ⟨id, rfl, valid, other⟩ := applied
  intro same
  have sweep : (⟨sweepTask, []⟩ : Identity).lockName = sweepTask := rfl
  rw [← sweep] at same
  exact other (congrArg Identity.task (Identity.lockName_inj valid rfl same))

theorem Applied.unresolved {name : String} (applied : Applied name)
    (only : ∀ task, (d.registry.find? task).isSome → task = sweepTask) :
    d.resolve? name = none := by
  obtain ⟨id, rfl, valid, other⟩ := applied
  cases found : d.resolve? id.lockName with
  | none => rfl
  | some resolved =>
    obtain ⟨read, task⟩ := resolved
    obtain ⟨parsed, registered⟩ := Dispatcher.of_resolve? found
    have sweep : read.task = sweepTask := only read.task (by rw [registered]; rfl)
    rw [Identity.task_of_ofLockName valid parsed] at sweep
    exact absurd sweep other

def Unlocked (db : Database) (name : String) : Prop :=
  db.key name ≠ db.key sweepTask ∧ ∀ g ∈ db.sessions.grants, g.2 ≠ db.key name

theorem kept_migrate {free : UInt64 → Prop} {db db' : Database} {result : Except Error Unit}
    (clear : ∀ g ∈ db.sessions.grants, ¬free g.2) (migrated : db.migrate = (result, db')) :
    Kept d free db db' := by
  have same : db' = (db.perform .control).2 := by
    unfold Database.migrate at migrated
    split at migrated
    · next answer => rw [answer]; exact (congrArg Prod.snd migrated).symm
    · exact (congrArg Prod.snd migrated).symm
  have kept : Kept d free db db :=
    ⟨rfl, rfl, fun _ up _ => up, .of_eq rfl, clear⟩
  rw [same]
  exact kept.grow (db.grows_perform Server.Query.grows_control)
    ((db.sessions_perform _) ▸ clear)

theorem kept_runSweep {free : UInt64 → Prop} {start db db' : Database} (built : d.Built)
    (own : ¬free (start.key sweepTask)) (kept : Kept d free start db) {id : String}
    {fresh : Nat → String} {result : Json} {cycles : Nat}
    (swept : db.runSweep d id fresh = (.ok (.completed result cycles), db')) :
    Kept d free start db' ∧ Reported d free start result := by
  unfold Database.runSweep Dispatcher.call at swept
  dsimp only at swept
  split at swept
  · cases swept
  · next t events state triggered =>
    have triggered : d.triggerSweep id .autocommit = .ok (t, events, state) := triggered
    have identity : t.identity = ⟨sweepTask, []⟩ := built.identity_of_trigger triggered
    have task : t.task = sweepTask := congrArg Identity.task identity
    have lock : t.lock = sweepTask := by rw [Trigger.lock, identity]; rfl
    obtain ⟨spec, -, -, rfl⟩ := Dispatcher.eq_of_trigger triggered
    have begun : Executing d free start (t.start d.settings .autocommit .execute).2 db := kept
    have done := t.drive_keeps (Database.backend (Database.sweepRunner d fresh))
      (fun p _ h => h.step built.named lock task own fresh p) begun
    obtain ⟨first, second⟩ := Prod.mk.inj swept
    rw [first, second] at done
    exact done

section

open CommandLine

variable {config : Config} {files : Files} {ids : Command.Ids} {db migrated db' : Database}
  {d : Dispatcher Unit} {result : Json} {cycles : Nat}

/-- A sweep from the command line that is completed has resubmitted no flag of an application and
left all of them up. Those whose locks are free are reported as unresolved, and what was sent was
sent for the sweep task. -/
theorem unresolved_of_swept (built : dispatcher config files = .ok d)
    (ready : db.migrate = (.ok (), migrated))
    (swept : migrated.runSweep d ids.sweep ids.resubmissions =
      (.ok (.completed result cycles), db')) :
    Command.sweep.carryOut config files ids db = (.ok (.printed (result.pretty ++ "\n")), db') ∧
      ∃ report : SweepReport, result = report.toJson ∧
        (∀ flag ∈ db.link.tables.flags, Applied flag.name →
          flag.name ∉ report.resubmitted ∧ flag ∈ db'.link.tables.flags ∧
            (Unlocked db flag.name → flag.name ∈ report.unresolved)) ∧
        ∀ queue, ∃ new,
          db'.link.tables.entries queue = db.link.tables.entries queue ++ new ∧
            ∀ e ∈ new, ∃ m : Message,
              e.text = db.column.giveBack m.toJson.compact ∧ m.task = sweepTask := by
  obtain ⟨setUp, only⟩ := dispatcher_built built
  -- The sweep is granted its own lock, which is no obstacle to the flags that have other keys.
  let free (key : UInt64) : Prop := key ≠ db.key sweepTask ∧ ∀ g ∈ db.sessions.grants, g.2 ≠ key
  have clear : ∀ g ∈ db.sessions.grants, ¬free g.2 := fun g mem held => held.2 g mem rfl
  have before : Kept d free db migrated := kept_migrate clear ready
  obtain ⟨kept, report, rfl, resolved, left⟩ :=
    kept_runSweep setUp (fun own => own.1 rfl) before swept
  refine ⟨?_, report, rfl, fun flag up applied => ⟨fun mem => ?_, ?_, fun unlocked => ?_⟩,
    fun queue => ?_⟩
  · rw [Command.carryOut, ready]
    dsimp only
    rw [Command.work, built]
    dsimp only
    rw [swept]
    rfl
  · exact resolved _ mem (applied.unresolved only)
  · exact kept.flags flag up applied.ne_sweepTask
  · exact left flag up applied.ne_sweepTask unlocked (applied.unresolved only)
  · obtain ⟨new, appended, known⟩ := kept.appends queue
    refine ⟨new, appended, fun e mem => ?_⟩
    obtain ⟨m, written, registered⟩ := known e mem
    exact ⟨m, written, only m.task registered⟩

/-! A server that nobody else uses, with a flag that was left up. -/

def left : Flag := ⟨"app.send:[1]", ⟨1700000000, 0⟩⟩

def server : Database :=
  ⟨⟨⟨[left], [], []⟩, ⟨1700000060, 0⟩, [], []⟩, .empty,
    fun name => if name = sweepTask then 0xf2a41fdb40bea48a else 0x734ea7eecfd9e718, ⟨id⟩⟩

def plain : Config :=
  ⟨"postgres://localhost/app", none, "info", "dispatch", 20, true, false, 60, none⟩

def noFiles : Files := fun _ => .error .notFound

def sweeper : Dispatcher Unit := ⟨⟨[(sweepTask, .ofBody sweepTask ())]⟩, plain.settings⟩

/-- A sweep takes and gives back locks, and changes nothing else here. -/
def held (sessions : Server.Sessions UInt64) : Database := { server with sessions }

theorem list_held (sessions : Server.Sessions UInt64) :
    (held sessions).perform Server.Flags.list = (.ok [left], held sessions) := by
  have sorted : Server.Tables.sortedFlags ⟨[left], [], []⟩ = [left] := List.mergeSort_singleton _
  change (Except.ok (Server.Tables.sortedFlags ⟨[left], [], []⟩), held sessions) = _
  rw [sorted]

theorem sweep_held {before during after : Server.Sessions UInt64}
    (taken : (held before).acquire left.name = (.ok true, held during))
    (freed : (held during).release left.name = (.ok (), held after)) :
    ((held before).sweep sweeper toString).2 = (.ok ⟨1, [], 0, [left.name], []⟩, held after) := by
  let sw := sweeper.sweep toString
  let b := Database.backend Database.noTasks
  have listed : b.answer .raised (held before) = (.ok [left], held before) := list_held before
  have unknown : sweeper.resolve? left.name = none := by decide +kernel
  calc
    _ = (sw.drive b (.at (.probing ⟨1, [], 0, [], []⟩ left.name [])) (held before)).2 :=
      sw.snd_drive_at b (p := .listing) listed
    _ = (sw.drive b (sw.orphaned ⟨1, [], 0, [], []⟩ left.name []).2 (held after)).2 :=
      sw.snd_drive_free b taken freed
    _ = (sw.drive b (.done (.ok ⟨1, [], 0, [left.name], []⟩)) (held after)).2 := by
      rw [Dispatcher.orphaned_of_unresolved _ _ unknown]
      rfl
    _ = _ := sw.snd_drive_done b _ _

theorem runSweep_held :
    ((held .empty).runSweep sweeper "sweep" toString).1 =
      .ok (.completed (SweepReport.toJson ⟨1, [], 0, [left.name], []⟩) 1) := by
  let report : SweepReport := ⟨1, [], 0, [left.name], []⟩
  let t := Trigger.ofTask plain.settings "sweep" (.ofBody sweepTask ()) ⟨[], []⟩
  let b := Database.backend (Database.sweepRunner sweeper toString)
  let own := (0, server.key sweepTask)
  let other := (1, server.key left.name)
  let before := held ⟨[own], [], [own], [], 1⟩
  let after := held ⟨[own], [1], [own], [], 2⟩
  let last := held ⟨[], [0, 1], [], [], 2⟩
  have lock : t.lock = sweepTask := by
    change (⟨sweepTask, []⟩ : Identity).lockName = sweepTask
    rfl
  have acquired : b.answer (.acquire t.lock) (held .empty) = (.ok true, before) := by
    rw [lock]
    rfl
  have lowered : b.answer (.lower t.lock) before = (.ok (), before) := by
    rw [lock]
    rfl
  let during := held ⟨[other, own], [], [other, own], [], 2⟩
  have probed : before.acquire left.name = (.ok true, during) := rfl
  have dropped : during.release left.name = (.ok (), after) := rfl
  have swept : (before.sweep sweeper toString).2 = (.ok report, after) := sweep_held probed dropped
  have ran : b.answer (.invoke sweepTask ⟨[], []⟩) before = (.ok report.toJson, after) := by
    change ((before.sweep sweeper toString).2.1.map SweepReport.toJson,
      (before.sweep sweeper toString).2.2) = _
    rw [swept]
    rfl
  have down : b.answer (.isRaised t.lock) after = (.ok false, after) := by
    rw [lock]
    rfl
  have freed : b.answer (.release t.lock) after = (.ok (), last) := by
    rw [lock]
    rfl
  have ends : (t.drive b (.at .acquiring) (held .empty)).2 =
      (.ok (.completed report.toJson 1), last) := calc
    _ = (t.drive b (.at (.clearing 1)) before).2 := t.snd_drive_at b (p := .acquiring) acquired
    _ = (t.drive b (.at (.running 1)) before).2 := t.snd_drive_at b (p := .clearing 1) lowered
    _ = (t.drive b (.at (.checking 1 report.toJson)) after).2 :=
      t.snd_drive_at b (p := .running 1) ran
    _ = (t.drive b (.at (.releasing (.caughtUp report.toJson 1))) after).2 :=
      t.snd_drive_at b (p := .checking 1 report.toJson) down
    _ = (t.drive b (.done (.ok (.completed report.toJson 1))) last).2 :=
      t.snd_drive_at b (p := .releasing (.caughtUp report.toJson 1)) freed
    _ = _ := t.snd_drive_done b _ _
  exact congrArg Prod.fst ends

/-- The sweep is completed, and the flag is up and reported as unresolved. -/
theorem unresolved_of_swept_left :
    ∃ (report : SweepReport) (db : Database),
      Command.sweep.carryOut plain noFiles ⟨"sweep", toString⟩ server =
        (.ok (.printed (report.toJson.pretty ++ "\n")), db) ∧
      left.name ∉ report.resubmitted ∧ left.name ∈ report.unresolved ∧
        left ∈ db.link.tables.flags := by
  let ids : Command.Ids := ⟨"sweep", toString⟩
  have built : dispatcher plain noFiles = .ok sweeper := rfl
  have ready : server.migrate = (.ok (), held .empty) := rfl
  have swept : (held .empty).runSweep sweeper ids.sweep ids.resubmissions =
      (.ok (.completed (SweepReport.toJson ⟨1, [], 0, [left.name], []⟩) 1), _) :=
    Prod.ext runSweep_held rfl
  have applied : Applied left.name := ⟨⟨"app.send", [.int ⟨1, by decide, by decide⟩]⟩,
    by decide +kernel, rfl, by decide⟩
  obtain ⟨printed, report, same, flags, -⟩ := unresolved_of_swept built ready swept
  obtain ⟨unsent, up, unresolved⟩ := flags left List.mem_cons_self applied
  exact ⟨report, _, same ▸ printed, unsent, unresolved ⟨by decide, List.forall_mem_nil _⟩, up⟩

end

end Daemon
end Coalesce
