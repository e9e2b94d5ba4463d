import Coalesce.Message
import Coalesce.Server.Link

/-! Message queues kept by the server. A broadcast exchange is the set of the queues whose names
start with the name of the exchange and the separator. -/
namespace Coalesce.Server.Queues

def readyChannel : String := "dispatch_ready"

def broadcastSeparator : String := "__"

def broadcastQueue (exchange suffix : String) : String := exchange ++ broadcastSeparator ++ suffix

def operated (queue operation : String) : Query Unit :=
  Query.report (.counted (.queueOperation queue operation))

def ensure (queue : String) : Query Unit :=
  .statement fun _ tables => ((), tables.ensureQueue queue)

def create (queue : String) : Query Unit := do
  ensure queue
  operated queue "create"

def missing (queue : String) : String := "relation \"pgmq.q_" ++ queue ++ "\" does not exist"

def onQueue {α : Type} (queue : String) (change : Timestamp → Queue → α × Queue) : Query α :=
  .statement? fun now tables =>
    match tables.onQueue? queue (change now) with
    | some answer => .ok answer
    | none => .error (missing queue)

section
variable (column : Column)

/-- Inside of a transaction: makes the queue if need be, sends, and gives notice. -/
def sendOn (queue : String) (payload : Json) : Query Nat := do
  ensure queue
  let id ← onQueue queue fun now q => q.send now.seconds (column.giveBack payload.compact)
  Query.statement fun _ tables => ((), tables.notify queue)
  operated queue "send"
  return id

def send (queue : String) (payload : Json) : Query Nat :=
  .transaction (sendOn column queue payload)

def sendToAll (payload : Json) : List String → Query Unit
  | [] => return
  | queue :: rest => do
    let _ ← sendOn column queue payload
    sendToAll payload rest

end

def names (start : String) : Query (List String) :=
  .statement fun _ tables =>
    (tables.queues.keys.filter fun name => start.toList.isPrefixOf name.toList, tables)

/-- A broadcast that nobody is bound to reaches nobody, which is no fault; otherwise all bound
queues get the message or none does. -/
def publish (column : Column) (d : Delivery) : Query Unit := do
  match d.exchange with
  | .direct =>
    let _ ← send column d.queue d.message.toJson
  | .broadcast =>
    let bound ← names (d.queue ++ broadcastSeparator)
    if bound = [] then
      Query.report (.debug "no queues bound to broadcast exchange"
        [("exchange", d.queue), ("id", d.message.id)])
    else Query.transaction (sendToAll column d.message.toJson bound)

/-- A payload that cannot be read back is found out only when its message is hidden already. -/
def received : Option Entry → Query (Option Received)
  | none => return none
  | some entry =>
    match entry.received with
    | .ok message => return some message
    | .error e => throw e

def read (queue : String) (seconds : Nat) : Query (Option Received) := do
  let entry ← onQueue queue fun now q => q.read now.seconds seconds
  let message ← received entry
  operated queue (if message.isSome then "read" else "read_empty")
  return message

def archive (queue : String) (id : Nat) : Query Unit := do
  onQueue queue fun _ q => ((), q.archive id)
  operated queue "archive"

def discard (queue : String) (id : Nat) : Query Unit := do
  onQueue queue fun _ q => ((), q.discard id)
  operated queue "delete"

end Coalesce.Server.Queues
