import Coalesce.Error
import Coalesce.Flag

/-! What the server keeps for good: a table of flags, queues of messages, and the notices that were
sent to those who listen. -/
namespace Coalesce.Server

/-- How the server keeps JSON: what it is given is a text, and the text that it gives back may be
another one. -/
structure Column where
  giveBack : String → String

/-- A message in a queue, with its payload as the server will give it back. It is hidden until
`visibleAt`, in seconds. -/
structure Entry where
  id : Nat
  readCount : Nat
  visibleAt : Int
  text : String

structure Received where
  id : Nat
  readCount : Nat
  payload : Json

/-- The place of the payload in what a read answers. -/
def payloadColumn : Nat := 4

def Entry.received (e : Entry) : Except Error Received :=
  match Json.parse e.text with
  | .ok payload => .ok ⟨e.id, e.readCount, payload⟩
  | .error reason => .error (.database (.unreadable payloadColumn reason))

/-- Messages in order of their ids, which count from 1 and are never given again. -/
structure Queue where
  entries : List Entry
  archived : List Nat
  sent : Nat

namespace Queue

def empty : Queue := ⟨[], [], 0⟩

variable (q : Queue)

def send (now : Int) (text : String) : Nat × Queue :=
  let id := q.sent + 1
  (id, { q with entries := q.entries ++ [⟨id, 0, now, text⟩], sent := id })

def next? (now : Int) : Option Entry := q.entries.find? (·.visibleAt ≤ now)

def hide (id : Nat) (wake : Int) : Queue :=
  { q with
    entries := q.entries.map fun e =>
      if e.id = id then { e with readCount := e.readCount + 1, visibleAt := wake } else e }

/-- The visible entry of the lowest id, as it is after being read. -/
def read (now : Int) (seconds : Nat) : Option Entry × Queue :=
  match q.next? now with
  | none => (none, q)
  | some e =>
    (some { e with readCount := e.readCount + 1, visibleAt := now + seconds },
      q.hide e.id (now + seconds))

def discard (id : Nat) : Queue := { q with entries := q.entries.filter (·.id ≠ id) }

/-- Takes a message out and remembers its id. An unknown id changes nothing. -/
def archive (id : Nat) : Queue :=
  if q.entries.any (·.id == id) then
    { q.discard id with archived := q.archived ++ [id] }
  else q

end Queue

/-- The flags stand in the order in which they were raised, one row for a name at most. A notice
names the queue that it is about. -/
structure Tables where
  flags : List Flag
  queues : Table Queue
  notices : List String

namespace Tables

def empty : Tables := ⟨[], [], []⟩

variable (t : Tables)

def isRaised (name : String) : Bool := t.flags.any (·.name == name)

def raise (name : String) (now : Timestamp) : Raise × Tables :=
  if t.isRaised name then (.alreadyUp, t)
  else (.created, { t with flags := t.flags ++ [⟨name, now⟩] })

def lower (name : String) : Tables := { t with flags := t.flags.filter (·.name ≠ name) }

def flagOrder (a b : Flag) : Bool :=
  if a.raisedAt = b.raisedAt then a.name ≤ b.name else a.raisedAt.le b.raisedAt

def sortedFlags : List Flag := t.flags.mergeSort flagOrder

def ensureQueue (name : String) : Tables :=
  if t.queues.contains name then t
  else { t with queues := t.queues.insert name .empty }

def notify (queue : String) : Tables := { t with notices := t.notices ++ [queue] }

def onQueue? {α : Type} (name : String) (change : Queue → α × Queue) : Option (α × Tables) :=
  (t.queues.get? name).map fun q =>
    let (a, q) := change q
    (a, { t with queues := t.queues.insert name q })

end Tables
end Coalesce.Server
