import Coalesce.Proofs.Drive
import Coalesce.Proofs.Registration
import Coalesce.Proofs.Statements

/-! A sweep on the server, with statements refused at any point: it lowers no flag, sends messages
for registered tasks only, and reports flags as resubmitted only if it knows their tasks. -/
namespace Coalesce.Server

variable {β : Type} {d : Dispatcher β}

def Known (d : Dispatcher β) (column : Column) (text : String) : Prop :=
  ∃ m : Message, text = column.giveBack m.toJson.compact ∧ (d.registry.find? m.task).isSome

def Resolved (d : Dispatcher β) (report : SweepReport) : Prop :=
  ∀ name ∈ report.resubmitted, d.resolve? name ≠ none

def Told (d : Dispatcher β) : Sweep.State → Prop
  | .at .listing => True
  | .at (.probing report _ _) => Resolved d report
  | .at (.leaving report _ _) => Resolved d report
  | .at (.publishing report flag _ p) =>
    Resolved d report ∧ d.resolve? flag ≠ none ∧
      (d.registry.find? p.delivery.message.task).isSome
  | .done (.ok report) => Resolved d report
  | .done (.error _) => True

/-- A flag that the sweep has yet to look at, or has left as it was. -/
def Owed (name : String) : Sweep.State → Prop
  | .at .listing => True
  | .at (.probing report flag rest) =>
    name ∈ report.unresolved ∨ name = flag ∨ name ∈ rest.map Flag.name
  | .at (.leaving report flag rest) =>
    name ∈ report.unresolved ∨ name = flag ∨ name ∈ rest.map Flag.name
  | .at (.publishing report _ rest _) => name ∈ report.unresolved ∨ name ∈ rest.map Flag.name
  | .done (.ok report) => name ∈ report.unresolved
  | .done (.error _) => True

/-- No key in `free` is granted, but that of the flag which is being probed. -/
def Clear (free : UInt64 → Prop) : Sweep.State → Database → Prop
  | .at (.leaving _ flag _), db =>
    ∃ session grants leased, db.sessions.grants = (session, db.key flag) :: grants ∧
      db.sessions.leased = (session, db.key flag) :: leased ∧ ∀ g ∈ grants, ¬free g.2
  | .done (.error _), _ => True
  | _, db => ∀ g ∈ db.sessions.grants, ¬free g.2

structure Sweeping (d : Dispatcher β) (free : UInt64 → Prop) (start : Database)
    (state : Sweep.State) (db : Database) : Prop where
  grows : start.Grows (Known d start.column) db
  told : Told d state
  clear : Clear free state db
  owed : ∀ flag ∈ start.link.tables.flags, free (start.key flag.name) →
    d.resolve? flag.name = none → Owed flag.name state

variable {free : UInt64 → Prop} {start db : Database}

theorem told_next {report : SweepReport} (told : Resolved d report) (flags : List Flag) :
    Told d (Sweep.next report flags).2 := by
  cases flags <;> exact told

theorem owed_next {name : String} {report : SweepReport} {flags : List Flag}
    (owed : name ∈ report.unresolved ∨ name ∈ flags.map Flag.name) :
    Owed name (Sweep.next report flags).2 := by
  cases flags with
  | nil => exact owed.resolve_right (by simp)
  | cons flag rest => simpa [Sweep.next, Owed] using owed

theorem clear_next (clear : ∀ g ∈ db.sessions.grants, ¬free g.2) (report : SweepReport)
    (flags : List Flag) : Clear free (Sweep.next report flags).2 db := by
  cases flags <;> exact clear

theorem Sweeping.next {report : SweepReport} {flags : List Flag}
    (grows : start.Grows (Known d start.column) db)
    (told : Resolved d report) (clear : ∀ g ∈ db.sessions.grants, ¬free g.2)
    (owed : ∀ flag ∈ start.link.tables.flags, free (start.key flag.name) →
      d.resolve? flag.name = none →
        flag.name ∈ report.unresolved ∨ flag.name ∈ flags.map Flag.name) :
    Sweeping d free start (Sweep.next report flags).2 db :=
  ⟨grows, told_next told flags, clear_next clear report flags,
    fun flag up held unknown => owed_next (owed flag up held unknown)⟩

theorem Sweeping.listing (h : Sweeping d free start (.at .listing) db)
    {reply : Except Error (List Flag)} {db' : Database}
    (answered : db.perform Flags.list = (reply, db')) (fresh : Nat → String) :
    Sweeping d free start ((d.sweep fresh).resume .listing reply).2 db' := by
  have grown := db.grows_perform (P := Known d start.column) Flags.grows_list
  have sessions := db.sessions_perform Flags.list
  have listed (flags : List Flag) := @db.list_of_answered flags
  rw [answered] at grown sessions listed
  cases reply with
  | error e => exact ⟨h.grows.trans grown, trivial, trivial, fun _ _ _ _ => trivial⟩
  | ok flags =>
    refine .next (h.grows.trans grown) (by simp [Resolved, SweepReport.empty]) ?_ ?_
    · rw [sessions]
      exact h.clear
    · intro flag up held unknown
      have perm : flags.Perm start.link.tables.flags := by
        rw [← h.grows.tables.flags]
        exact listed flags rfl
      exact .inr (List.mem_map_of_mem (perm.mem_iff.2 up))

theorem Sweeping.probing {report : SweepReport} {flag : String} {rest : List Flag}
    (h : Sweeping d free start (.at (.probing report flag rest)) db) {reply : Except Error Bool}
    {db' : Database} (answered : db.acquire flag = (reply, db')) (fresh : Nat → String) :
    Sweeping d free start ((d.sweep fresh).resume (.probing report flag rest) reply).2 db' := by
  have grown := db.grows_acquire (P := Known d start.column) flag
  have grants := db.acquire_cases flag
  have key : db.key = start.key := h.grows.key
  rw [answered] at grown grants
  have grows := h.grows.trans grown
  obtain ⟨rfl, session, granted, leased⟩ | ⟨ne, busy, same⟩ := grants
  · refine ⟨grows, h.told,
      ⟨session, db.sessions.grants, db.sessions.leased, ?_, ?_, h.clear⟩, h.owed⟩
    · rw [granted, grown.key]
    · rw [leased, grown.key]
  · match reply with
    | .error e => exact ⟨grows, trivial, trivial, fun _ _ _ _ => trivial⟩
    | .ok true => exact absurd rfl ne
    | .ok false =>
      refine .next grows h.told ?_ ?_
      · rw [same]
        exact h.clear
      · intro other up held unknown
        obtain left | probed | later := h.owed other up held unknown
        · exact .inl left
        · -- The lock of this flag is free, so it is not found busy.
          obtain ⟨g, mem, lock⟩ := busy rfl
          rw [key, ← probed] at lock
          exact absurd (lock ▸ held) (h.clear g mem)
        · exact .inr later

theorem Sweeping.publishing {report : SweepReport} {flag : String} {rest : List Flag}
    {p : Publication} (h : Sweeping d free start (.at (.publishing report flag rest p)) db)
    {reply : Except Error Unit} {db' : Database}
    (answered : db.perform (Queues.publish db.column p.delivery) = (reply, db'))
    (fresh : Nat → String) :
    Sweeping d free start ((d.sweep fresh).resume (.publishing report flag rest p) reply).2
      db' := by
  obtain ⟨told, resolved, known⟩ := h.told
  have carried : Known d start.column (db.column.giveBack p.delivery.message.toJson.compact) :=
    ⟨_, by rw [h.grows.column], known⟩
  have grown := db.grows_perform (Queues.grows_publish carried)
  have sessions := db.sessions_perform (Queues.publish db.column p.delivery)
  rw [answered] at grown sessions
  have clear : ∀ g ∈ db'.sessions.grants, ¬free g.2 := by
    rw [sessions]
    exact h.clear
  match reply with
  | .error e => exact .next (h.grows.trans grown) told clear h.owed
  | .ok () =>
    refine .next (h.grows.trans grown) (fun name mem => ?_) clear h.owed
    obtain before | now := List.mem_append.1 mem
    · exact told name before
    · obtain rfl := List.mem_singleton.1 now
      exact resolved

theorem Sweeping.orphaned (named : d.registry.Named) (fresh : Nat → String) {report : SweepReport}
    {flag : String} {rest : List Flag} (grows : start.Grows (Known d start.column) db)
    (told : Resolved d report) (clear : ∀ g ∈ db.sessions.grants, ¬free g.2)
    (owed : ∀ other ∈ start.link.tables.flags, free (start.key other.name) →
      d.resolve? other.name = none →
        other.name ∈ report.unresolved ∨ other.name = flag ∨ other.name ∈ rest.map Flag.name) :
    Sweeping d free start ((d.sweep fresh).orphaned report flag rest).2 db := by
  cases found : d.resolve? flag with
  | none =>
    rw [Dispatcher.orphaned_of_unresolved _ _ found]
    refine .next grows told clear fun other up held unknown => ?_
    obtain before | probed | later := owed other up held unknown
    · exact .inl (List.mem_append_left _ before)
    · exact .inl (List.mem_append_right _ (List.mem_singleton.2 probed))
    · exact .inr later
  | some resolved =>
    obtain ⟨id, task⟩ := resolved
    -- Nothing is owed to a flag that is resolved.
    have others : ∀ other ∈ start.link.tables.flags, free (start.key other.name) →
        d.resolve? other.name = none →
          other.name ∈ report.unresolved ∨ other.name ∈ rest.map Flag.name := by
      intro other up held unknown
      obtain before | probed | later := owed other up held unknown
      · exact .inl before
      · rw [probed, found] at unknown
        cases unknown
      · exact .inr later
    rw [Dispatcher.orphaned_of_resolved _ _ found]
    split
    · have known := named.isSome_find? (Dispatcher.of_resolve? found).2
      exact ⟨grows, ⟨told, by simp [found], known⟩, clear, others⟩
    · refine .next grows (fun name mem => ?_) clear others
      obtain before | now := List.mem_append.1 mem
      · exact told name before
      · obtain rfl := List.mem_singleton.1 now
        simp [found]

theorem Sweeping.leaving (named : d.registry.Named) {report : SweepReport} {flag : String}
    {rest : List Flag} (h : Sweeping d free start (.at (.leaving report flag rest)) db)
    {reply : Except Error Unit} {db' : Database} (answered : db.release flag = (reply, db'))
    (fresh : Nat → String) :
    Sweeping d free start ((d.sweep fresh).resume (.leaving report flag rest) reply).2 db' := by
  have grown := db.grows_release (P := Known d start.column) flag
  obtain ⟨session, grants, leased, newest, handle, clear⟩ := h.clear
  have left := db.grants_release_newest flag newest handle
  rw [answered] at grown left
  have grows := h.grows.trans grown
  match reply with
  | .error e => exact ⟨grows, trivial, trivial, fun _ _ _ _ => trivial⟩
  | .ok () =>
    exact .orphaned named fresh grows h.told (fun g mem => clear g (left rfl g mem)) h.owed

theorem Sweeping.step (named : d.registry.Named) (fresh : Nat → String) (p : Sweep.Point)
    (h : Sweeping d free start (.at p) db) :
    let answer := (Database.backend Database.noTasks).answer p.request db
    Sweeping d free start ((d.sweep fresh).resume p answer.1).2 answer.2 := by
  cases p with
  | listing => exact h.listing rfl fresh
  | probing report flag rest => exact h.probing rfl fresh
  | leaving report flag rest => exact h.leaving named rfl fresh
  | publishing report flag rest p => exact h.publishing rfl fresh

theorem sweeping_start (clear : ∀ g ∈ db.sessions.grants, ¬free g.2) :
    Sweeping d free db Sweep.start.2 db :=
  ⟨.refl db, trivial, clear, fun _ _ _ _ => trivial⟩

theorem sweeping_done (named : d.registry.Named) (fresh : Nat → String)
    (clear : ∀ g ∈ db.sessions.grants, ¬free g.2) :
    Sweeping d free db (.done (db.sweep d fresh).2.1) (db.sweep d fresh).2.2 :=
  (d.sweep fresh).drive_keeps (Database.backend Database.noTasks)
    (fun p _ h => h.step named fresh p) (sweeping_start clear)

end Coalesce.Server
