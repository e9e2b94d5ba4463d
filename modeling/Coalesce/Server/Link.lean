import Coalesce.Server.Tables
import Coalesce.Telemetry.Event

/-! Statements sent to the server over a link. Each statement either does its work and answers, or
is refused and does nothing; a transaction does all its work or none. -/
namespace Coalesce.Server

/-- `verdicts` are those on the statements to come: a text is the reason of a refusal. Reports are
made on this side of the link and no transaction takes them back. -/
structure Link where
  tables : Tables
  clock : Timestamp
  verdicts : List (Option String)
  events : List Event

abbrev Query := EStateM Error Link

namespace Query

variable {α : Type}

def report (event : Event) : Query Unit := fun l => .ok () { l with events := l.events ++ [event] }

def statement? (work : Timestamp → Tables → Except String (α × Tables)) : Query α := fun l =>
  match l.verdicts with
  | some reason :: rest => .error (.database (.returned reason)) { l with verdicts := rest }
  | verdicts =>
    let l := { l with verdicts := verdicts.tail }
    match work l.clock l.tables with
    | .ok (a, tables) => .ok a { l with tables }
    | .error reason => .error (.database (.returned reason)) l

def statement (work : Timestamp → Tables → α × Tables) : Query α :=
  statement? fun now tables => .ok (work now tables)

def control : Query Unit := statement fun _ tables => ((), tables)

/-- An error before the end of the commit puts the tables back as they were. -/
def transaction (body : Query α) : Query α := fun l =>
  let whole : Query α := do
    control
    let a ← body
    control
    return a
  match whole l with
  | .ok a l => .ok a l
  | .error e failed => .error e { failed with tables := l.tables }

def tablesAfter (q : Query α) (l : Link) : Tables :=
  match q l with
  | .ok _ l => l.tables
  | .error _ l => l.tables

end Query
end Coalesce.Server
