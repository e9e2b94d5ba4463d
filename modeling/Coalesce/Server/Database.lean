import Coalesce.Dispatch.Call
import Coalesce.Server.Flags
import Coalesce.Server.Queues
import Coalesce.Server.Sessions

/-! The server as a backend of dispatchers: its locks, flags and queues answer the requests of
triggers and sweeps. -/
namespace Coalesce.Server

/-- The server takes a lock name for the key that `key` makes of it, and keeps payloads in `column`.
A session that is closed ends before the next statement. -/
structure Database where
  link : Link
  sessions : Sessions UInt64
  key : String → UInt64
  column : Column

namespace Database

variable (db : Database)

def report (event : Event) : Database :=
  { db with link := { db.link with events := db.link.events ++ [event] } }

def perform {α : Type} (q : Query α) : Except Error α × Database :=
  match q db.link with
  | .ok a link => (.ok a, { db with link })
  | .error e link => (.error e, { db with link })

def withVerdict {α : Type} (act : Verdict → α × Sessions UInt64) : Except Error α × Database :=
  let (result, db) := db.perform .control
  match result with
  | .ok () =>
    let (a, sessions) := act .answered
    (.ok a, { db with sessions })
  | .error e =>
    let (_, sessions) := act (.failed false)
    (.error e, { db with sessions })

def acquire (lock : String) : Except Error Bool × Database :=
  let (result, db) := db.withVerdict (db.sessions.acquire (db.key lock))
  (result.map fun attempt => attempt matches .taken _, db)

def endSessions : Database := { db with sessions := db.sessions.finishAll }

def release (lock : String) : Except Error Unit × Database :=
  match db.sessions.handle? (db.key lock) with
  | none => (.ok (), db)
  | some session =>
    let (result, db) := db.withVerdict (db.sessions.release session (db.key lock))
    match result with
    | .ok .notHeld =>
      let event := Event.warn "advisory lock was not held at release, closing session"
        [("lock", lock)]
      (.ok (), (db.report event).endSessions)
    | .ok _ => (.ok (), db.endSessions)
    | .error e => (.error e, db.endSessions)

def drop (lock : String) : Database :=
  match db.sessions.handle? (db.key lock) with
  | none => db
  | some session =>
    let event := Event.warn "advisory lock dropped without release, closing session"
      [("lock", lock)]
    { db.report event with sessions := (db.sessions.drop session).finishAll }

abbrev Runner := String → TaskInput → Database → Except Error Json × Database

def answer (run : Runner) : (r : Request) → Database → r.Reply × Database
  | .acquire lock, db => db.acquire lock
  | .release lock, db => db.release lock
  | .raise flag, db => db.perform (Flags.raise flag)
  | .isRaised flag, db => db.perform (Flags.isRaised flag)
  | .lower flag, db => db.perform (Flags.lower flag)
  | .raised, db => db.perform Flags.list
  | .publish d, db => db.perform (Queues.publish db.column d)
  | .invoke task input, db => run task input db

def backend (run : Runner) : Backend Database := ⟨answer run⟩

def noTasks : Runner := fun task _ db => (.error (.unknownTask task), db)

def migrate : Except Error Unit × Database :=
  match db.perform .control with
  | (.error (.database fault), db) => (.error (.migration fault), db)
  | answer => answer

def ping : Except Error Unit × Database := db.perform .control

variable {β : Type}

/-- The sweep of a dispatcher. What it reports comes back apart from what the link reports. -/
def sweep (d : Dispatcher β) (fresh : Nat → String) :
    List Event × Except Error SweepReport × Database :=
  let s := d.sweep fresh
  let (events, state) := Sweep.start
  let (more, result, db) := s.drive (backend noTasks) state db
  (events ++ more, result, db)

def sweepRunner (d : Dispatcher β) (fresh : Nat → String) : Runner := fun task input db =>
  if task = sweepTask then
    let (_, result, db) := db.sweep d fresh
    (result.map SweepReport.toJson, db)
  else noTasks task input db

/-- Dispatches the sweep task like any other task, so that sweeps at the same time coalesce. -/
def runSweep (d : Dispatcher β) (id : String) (fresh : Nat → String) :
    Except Error Outcome × Database :=
  let (_, result, db) := d.call (backend (sweepRunner d fresh)) id (.runSweep .autocommit) db
  (result, db)

end Database
end Coalesce.Server
