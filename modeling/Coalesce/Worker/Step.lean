import Coalesce.Dispatch.Dispatcher
import Coalesce.Server.Queues

/-! A worker: it reads one message at a time from its queue and triggers the task in it. A message
is taken out of the queue when its trigger is accounted for, and otherwise it is read again once it
is visible. -/
namespace Coalesce

structure WorkerConfig where
  queue : String
  visibility : Nat
  poll : Nat
  deriving DecidableEq

namespace WorkerConfig

def default : WorkerConfig := ⟨defaultQueueName, 60, 5⟩

def ofQueue (queue : String) : WorkerConfig := { default with queue }

def describe (c : WorkerConfig) : String :=
  Text.record "WorkerConfig"
    [("queue", Text.quote c.queue), ("visibility_timeout", toString c.visibility),
      ("poll_interval", toString c.poll ++ "s")]

end WorkerConfig

namespace Worker

inductive Request where
  | read (queue : String) (seconds : Nat)
  | archive (queue : String) (id : Nat)
  | dispatch (request : Coalesce.Request)

abbrev Request.Reply : Request → Type
  | .read .. => Except Error (Option Server.Received)
  | .archive .. => Except Error Unit
  | .dispatch r => r.Reply

inductive Point where
  | reading
  | handling (entry : Server.Received) (m : Message) (t : Trigger) (p : Trigger.Point)
  | archiving (entry : Server.Received)

/-- The result says whether there was a message. -/
inductive State where
  | at (point : Point)
  | done (result : Except Error Bool)

variable (c : WorkerConfig)

def Point.request : Point → Request
  | .reading => .read c.queue c.visibility
  | .handling _ _ t p => .dispatch (p.request t)
  | .archiving entry => .archive c.queue entry.id

def andThen (events : List Event) (next : List Event × State) : List Event × State :=
  (events ++ next.1, next.2)

def consuming (entry : Server.Received) : Event :=
  .span "dispatch.consume"
    [("queue.name", c.queue), ("queue.msg_id", toString entry.id)]

/-- What is done with a message whose handling has ended. A failed task is not tried again; a task
that is not known may be known to another worker; any other error leaves the message to be read
again. -/
def handled (entry : Server.Received) (m : Message) :
    Except Error Outcome → List Event × State
  | .ok outcome =>
    ([.debug "message handled" [("id", m.id), ("outcome", outcome.label)]],
      .at (.archiving entry))
  | .error (.task name cause) =>
    ([.error "task failed"
        [("id", m.id), ("read_ct", toString entry.readCount),
          ("error", (Error.task name cause).message)]],
      .at (.archiving entry))
  | .error (.unknownTask task) =>
    ([.warn "no registered task for message, leaving it on the queue"
        [("id", m.id), ("task", task)]],
      .done (.ok true))
  | .error e => ([], .done (.error e))

def settled (entry : Server.Received) (m : Message) (t : Trigger) :
    Trigger.State → List Event × State
  | .at p => ([], .at (.handling entry m t p))
  | .done result => handled entry m result

variable {β : Type} (d : Dispatcher β) (fresh : String)

/-- A message that cannot be read as one is of no use to anybody and is taken out. -/
def received (entry : Server.Received) : List Event × State :=
  match Message.decode entry.payload with
  | .error mismatch =>
    ([.error "malformed task message, archiving"
        [("msg_id", toString entry.id), ("error", (Error.json mismatch).message)]],
      .at (.archiving entry))
  | .ok m =>
    andThen [.filled [("dispatch.task", m.task)]]
      (match d.handle fresh m with
        | .error e => handled entry m (.error e)
        | .ok (t, events, state) => andThen events (settled entry m t state))

def resume : (p : Point) → (p.request c).Reply → List Event × State
  | .reading, reply =>
    match (reply : Except Error (Option Server.Received)) with
    | .error e => ([], .done (.error e))
    | .ok none => ([], .done (.ok false))
    | .ok (some entry) => andThen [consuming c entry] (received d fresh entry)
  | .handling entry m t p, reply =>
    let (events, state) := t.resume p reply
    andThen events (settled entry m t state)
  | .archiving _, reply =>
    match (reply : Except Error Unit) with
    | .error e => ([], .done (.error e))
    | .ok () => ([], .done (.ok true))

def start : State := .at .reading

end Worker

end Coalesce
