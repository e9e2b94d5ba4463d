import Coalesce.Dispatch.SweepLoop
import Coalesce.Memory.Store

/-! Scripted tasks, and the world in which a simulated dispatcher works: stores in memory, planned
faults, gates, and a record of what was reported. -/
namespace Coalesce.Simulation

inductive FaultPoint where
  | acquire
  | release
  | raise
  | isRaised
  | lower
  | listing
  | publish
  deriving DecidableEq

def FaultPoint.label : FaultPoint → String
  | .acquire => "acquire"
  | .release => "release"
  | .raise => "create"
  | .isRaised => "exists"
  | .lower => "delete"
  | .listing => "list"
  | .publish => "publish"

def FaultPoint.ofLabel? (label : String) : Option FaultPoint :=
  [.acquire, .release, .raise, .isRaised, .lower, .listing, .publish].find? (·.label = label)

/-- How one passage through a fault point goes. A lock is busy without being looked at when it is
`contended`, which changes nothing elsewhere; a failed release frees its lock unless it is
`kept`. -/
inductive Verdict where
  | ok
  | unavailable
  | brokenPipe
  | contended
  | kept
  deriving DecidableEq

def Verdict.ofLabel (label : String) : Verdict :=
  if label = "fail" then .unavailable
  else if label = "io" then .brokenPipe
  else if label = "contend" then .contended
  else if label = "fail_keep" then .kept
  else .ok

def Verdict.passes : Verdict → Bool
  | .ok => true
  | .contended => true
  | _ => false

def Verdict.error (point : FaultPoint) : Verdict → Error
  | .brokenPipe => .io (point.label ++ " broken pipe")
  | _ => .other (point.label ++ " unavailable")

/-- What can be asked for, from outside or inside of a task. A call without a target is about the
task it is made in, and a flag without a name is that of the task's lock. -/
inductive Verb where
  | trigger (mode : Mode) (target : Option (String × List Json)) (kwargs : Table Json)
      (context : Context)
  | publish (task : String) (input : TaskInput) (addressing : Addressing)
  | handle (message : Json)
  | drain
  | take
  | sweep
  | runSweep (context : Context)
  | tick
  | loop (interval : Nat) (advances : List Nat)
  | orphan
  | hold (lock : String)
  | release (lock : String)
  | drop (lock : String)
  | isHeld (lock : String)
  | raise (flag : Option String)
  | lower (flag : Option String)
  | isRaised (flag : String)
  | raised
  | plan (point : FaultPoint) (verdicts : List Verdict)
  | spawn (job : String) (verb : Verb)
  | openGate (gate : String)
  | join (job : String)
  | abort (job : String)
  | info
  | unknown

/-- What ends another step hands that step's answer on, which is no error of its own. -/
def Verb.handsOn : Verb → Bool
  | .join _ => true
  | .abort _ => true
  | _ => false

inductive Action where
  | finish (value : Json)
  | echo
  | fail (text : String)
  | panic (text : String)
  | pass (gate : String)
  | call (label : String) (verb : Verb) (propagate : Bool)

/-- A scripted task has a list of actions for each of its runs, the last of which is used for all
later runs as well. -/
inductive Body where
  | scripted (runs : List (List Action))
  | sweep

inductive Answer where
  | nothing
  | text (text : String)
  | yes (value : Bool)
  | names (names : List String)
  | outcome (result : Except Error Outcome)
  | publication (result : Except Error Publication)
  | report (result : Except Error SweepReport)
  | failure (error : Error)
  | taskFailure (error : Error)
  | drained (handled : List (Delivery × Except Error Outcome))
  | deliveries (taken : List Delivery)
  | looped (sent : List Nat)
  | handle (lock : String)
  | info
  | panicked (text : String)

def Answer.error? : Answer → Option Error
  | .outcome (.error e) => some e
  | .publication (.error e) => some e
  | .report (.error e) => some e
  | .failure e => some e
  | _ => none

def describeHandle (lock : String) : String :=
  Text.record "LockHandle" [("name", Text.quote lock)]

structure Invocation where
  task : String
  input : TaskInput
  run : Nat

def Invocation.lock (i : Invocation) : String := Identity.lockName ⟨i.task, i.input.args⟩

def Invocation.echo (i : Invocation) : Json :=
  .obj [("args", .arr i.input.args), ("kwargs", .obj i.input.kwargs), ("run", .ofNat i.run)]

structure Nested where
  task : String
  run : Nat
  label : String
  answer : Answer

structure World where
  dispatcher : Dispatcher Body
  locks : Memory.Locks
  flags : Memory.Flags
  broker : Memory.Broker
  /-- How many deliveries were there when the step began. -/
  seen : Nat
  plans : List (FaultPoint × List Verdict)
  handles : List String
  permits : Table Nat
  runs : Table Nat
  /-- Every id and every instant is made from the next number. -/
  serial : Nat
  events : List Event
  nested : List Nested
  tally : Tally

namespace World

def ofDispatcher (d : Dispatcher Body) : World :=
  ⟨d, .empty, .empty, .empty, 0, [], [], [], [], 0, [], [], []⟩

variable (w : World)

def emit (events : List Event) : World :=
  { w with events := w.events ++ events, tally := w.tally.countAll events }

def clock : Timestamp := ⟨w.serial, 0⟩

def fresh (n : Nat) : String := MessageId.ofBits (w.serial * Nat.pow 2 32 + n)

def nextSerial : World := { w with serial := w.serial + 1 }

def setPlan (point : FaultPoint) (verdicts : List Verdict) : World :=
  { w with plans := (point, verdicts) :: w.plans.filter (·.1 ≠ point) }

def verdict (point : FaultPoint) : Verdict × World :=
  match w.plans.lookup point with
  | some (v :: vs) => (v, w.setPlan point vs)
  | _ => (.ok, w)

def free (lock : String) : World := { w with locks := w.locks.free lock }

def raise (flag : String) : Raise × World :=
  let (found, flags) := w.flags.raise flag w.clock
  (found, { w with flags }.nextSerial)

def lower (flag : String) : World := { w with flags := w.flags.lower flag }

def deliver (d : Delivery) : World := { w with broker := w.broker.publish d }

def acquire (lock : String) : Bool × World :=
  let (taken, locks) := w.locks.acquire lock
  (taken, { w with locks })

def takeDeliveries : List Delivery × World :=
  (w.broker.deliveries, { w with broker := .empty, seen := 0 })

def guarded {α : Type} (point : FaultPoint) (step : World → α × World) : Except Error α × World :=
  let (v, w) := w.verdict point
  if v.passes then
    let (answer, w) := step w
    (.ok answer, w)
  else (.error (v.error point), w)

def send (d : Delivery) (w : World) : Except Error Unit × World :=
  w.guarded .publish fun w => ((), w.deliver d)

def answerAcquire (lock : String) : Except Error Bool × World :=
  match w.verdict .acquire with
  | (.contended, w) => (.ok false, w)
  | (.ok, w) =>
    let (taken, w) := w.acquire lock
    (.ok taken, w)
  | (v, w) => (.error (v.error .acquire), w)

def answerRelease (lock : String) : Except Error Unit × World :=
  match w.verdict .release with
  | (.kept, w) => (.error (Verdict.error .release .kept), w)
  | (v, w) => (if v.passes then .ok () else .error (v.error .release), w.free lock)

def answer : (r : Request) → r.Reply × World
  | .acquire lock => w.answerAcquire lock
  | .release lock => w.answerRelease lock
  | .raise flag => w.guarded .raise (·.raise flag)
  | .isRaised flag => w.guarded .isRaised fun w => (w.flags.isRaised flag, w)
  | .lower flag => w.guarded .lower fun w => ((), w.lower flag)
  | .raised => w.guarded .listing fun w => (w.flags.list, w)
  | .publish d => send d w
  | .invoke task _ => (.error (.unknownTask task), w)

def invoke (task : String) (input : TaskInput) : Invocation × World :=
  let run := (w.runs.get? task).getD 0 + 1
  (⟨task, input, run⟩, { w with runs := w.runs.insert task run })

end World

def script (runs : List (List Action)) (run : Nat) : List Action :=
  match runs[min run runs.length - 1]? with
  | some actions => actions
  | none => []

end Coalesce.Simulation
