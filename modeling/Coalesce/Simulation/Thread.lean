import Coalesce.Simulation.World

/-! One thread of a simulation: what it does next, and the calls that wait for it below. -/
namespace Coalesce.Simulation

inductive Kind where
  | outcome
  | report
  | run
  | answer

abbrev Kind.Value : Kind → Type
  | .outcome => Except Error Outcome
  | .report => Except Error SweepReport
  | .run => Except Error Json
  | .answer => Answer

structure Looping where
  schedule : SweepLoop
  now : Nat
  advances : List Nat
  sent : List Nat

/-- The calls below a call that hands back a value of some kind, the innermost first. -/
inductive Stack : Kind → Type where
  | bottom : Stack .answer
  | answered (below : Stack .answer) : Stack .outcome
  | reported (below : Stack .answer) : Stack .report
  | ticked (below : Stack .answer) : Stack .outcome
  | looping (loop : Looping) (below : Stack .answer) : Stack .outcome
  | draining (handled : List (Delivery × Except Error Outcome)) (current : Delivery)
      (rest : List Delivery) (below : Stack .answer) : Stack .outcome
  | running (t : Trigger) (cycle : Nat) (below : Stack .outcome) : Stack .run
  | sweeping (below : Stack .run) : Stack .report
  | within (own : Invocation) (label : String) (propagate : Bool) (rest : List Action)
      (below : Stack .run) : Stack .answer

def Stack.locks : {k : Kind} → Stack k → List String
  | _, .bottom => []
  | _, .answered below => below.locks
  | _, .reported below => below.locks
  | _, .ticked below => below.locks
  | _, .looping _ below => below.locks
  | _, .draining _ _ _ below => below.locks
  | _, .running t _ below => t.lock :: below.locks
  | _, .sweeping below => below.locks
  | _, .within _ _ _ _ below => below.locks

inductive Thread where
  | calling (own : Option Invocation) (verb : Verb) (below : Stack .answer)
  | triggering (t : Trigger) (state : Trigger.State) (below : Stack .outcome)
  | sweeping (s : Sweep Body) (state : Sweep.State) (below : Stack .report)
  | acting (own : Invocation) (actions : List Action) (below : Stack .run)
  | draining (handled : List (Delivery × Except Error Outcome)) (rest : List Delivery)
      (below : Stack .answer)
  | looping (loop : Looping) (below : Stack .answer)
  | returning (k : Kind) (value : k.Value) (below : Stack k)

def Thread.locks : Thread → List String
  | .calling _ _ below => below.locks
  | .triggering _ _ below => below.locks
  | .sweeping _ _ below => below.locks
  | .acting _ _ below => below.locks
  | .draining _ _ below => below.locks
  | .looping _ below => below.locks
  | .returning _ _ below => below.locks

inductive Control where
  | spawn (job : String) (verb : Verb)
  | openGate (gate : String)
  | join (job : String)
  | abort (job : String)

inductive Progress where
  | step (w : World) (thread : Thread)
  | waits (w : World) (gate : String) (thread : Thread)
  | controls (w : World) (control : Control) (below : Stack .answer)
  | ended (w : World) (answer : Answer)

namespace Thread

def give (w : World) (answer : Answer) (below : Stack .answer) : Progress :=
  .step w (.returning .answer answer below)

def begin (w : World) (below : Stack .outcome)
    (started : Except Error (Trigger × List Event × Trigger.State)) : Progress :=
  match started with
  | .error e => .step w (.returning .outcome (.error e) below)
  | .ok (t, events, state) => .step (w.nextSerial.emit events) (.triggering t state below)

def publish (w : World) (below : Stack .answer) (task : String) (input : TaskInput)
    (a : Addressing) : Progress :=
  match w.dispatcher.registry.resolve task with
  | .error e => give w (.publication (.error e)) below
  | .ok t =>
    let (events, result, w) := w.dispatcher.publisher.publish World.send (w.fresh 0) t input a
      w.nextSerial
    give (w.emit events) (.publication result) below

def flagName (own : Option Invocation) (flag : Option String) : String :=
  match flag, own with
  | some name, _ => name
  | none, some i => i.lock
  | none, none => ""

def call (w : World) (own : Option Invocation) (below : Stack .answer) : Verb → Progress
  | .trigger mode target kwargs context =>
    let (task, args) := match target, own with
      | some target, _ => target
      | none, some i => (i.task, i.input.args)
      | none, none => ("", [])
    begin w (.answered below)
      (w.dispatcher.trigger (w.fresh 0) context mode task ⟨args, kwargs⟩)
  | .publish task input addressing => publish w below task input addressing
  | .handle message =>
    match Message.decode message with
    | .error mismatch => give w (.outcome (.error (.json mismatch))) below
    | .ok m => begin w (.answered below) (w.dispatcher.handle (w.fresh 0) m)
  | .drain =>
    let (taken, w) := w.takeDeliveries
    .step w (.draining [] taken below)
  | .take =>
    let (taken, w) := w.takeDeliveries
    give w (.deliveries taken) below
  | .sweep =>
    let s := w.dispatcher.sweep w.fresh
    let (events, state) := Sweep.start
    .step (w.nextSerial.emit events) (.sweeping s state (.reported below))
  | .runSweep context =>
    begin w (.answered below) (w.dispatcher.triggerSweep (w.fresh 0) context)
  | .tick => begin w (.ticked below) (w.dispatcher.triggerSweep (w.fresh 0) .autocommit)
  | .loop interval advances =>
    match SweepLoop.ofInterval interval with
    | .error e => give w (.failure e) below
    | .ok schedule =>
      .step (w.emit [schedule.started]) (.looping ⟨schedule, 0, advances, []⟩ below)
  | .orphan => give w (.taskFailure droppedDispatcher) below
  | .hold lock =>
    match w.acquire lock with
    | (true, w) => give { w with handles := lock :: w.handles } (.handle lock) below
    | (false, w) => give w .nothing below
  | .release lock =>
    if w.handles.contains lock then
      let w := { w with handles := w.handles.erase lock }
      give ((w.emit [releasing lock]).free lock) (.text "released") below
    else give w .nothing below
  | .drop lock =>
    if w.handles.contains lock then
      give ({ w with handles := w.handles.erase lock }.free lock) (.text "dropped") below
    else give w .nothing below
  | .isHeld lock => give w (.yes (w.locks.isHeld lock)) below
  | .raise flag =>
    let (found, w) := w.raise (flagName own flag)
    give w (.text found.text) below
  | .lower flag => give (w.lower (flagName own flag)) .nothing below
  | .isRaised flag => give w (.yes (w.flags.isRaised flag)) below
  | .raised => give w (.names (w.flags.list.map (·.name))) below
  | .plan point verdicts => give (w.setPlan point verdicts) .nothing below
  | .spawn job verb => .controls w (.spawn job verb) below
  | .openGate gate => .controls w (.openGate gate) below
  | .join job => .controls w (.join job) below
  | .abort job => .controls w (.abort job) below
  | .info => give w .info below
  | .unknown => give w .nothing below

def invoke (w : World) (t : Trigger) (cycle : Nat) (below : Stack .outcome) : Progress :=
  match w.dispatcher.registry.find? t.task with
  | none => .step w (.returning .run (.error (.unknownTask t.task)) (.running t cycle below))
  | some task =>
    match task.body with
    | .scripted runs =>
      let (own, w) := w.invoke t.task t.input
      .step w (.acting own (script runs own.run) (.running t cycle below))
    | .sweep =>
      let s := w.dispatcher.sweep w.fresh
      let (events, state) := Sweep.start
      .step (w.nextSerial.emit events)
        (.sweeping s state (.sweeping (.running t cycle below)))

def trigger (w : World) (t : Trigger) (below : Stack .outcome) : Trigger.State → Progress
  | .done result => .step w (.returning .outcome result below)
  | .at (.running cycle) => invoke w t cycle below
  | .at p =>
    let (reply, w) := w.answer (p.request t)
    let (events, state) := t.resume p reply
    .step (w.emit events) (.triggering t state below)

def sweep (w : World) (s : Sweep Body) (below : Stack .report) : Sweep.State → Progress
  | .done result => .step w (.returning .report result below)
  | .at p =>
    let (reply, w) := w.answer p.request
    let (events, state) := s.resume p reply
    .step (w.emit events) (.sweeping s state below)

/-- A panic gives up every call of the thread, and the locks of those calls with them. -/
def panic (w : World) (text : String) (below : Stack .run) : Progress :=
  .ended (below.locks.foldl World.free w) (.panicked text)

def act (w : World) (own : Invocation) (below : Stack .run) : List Action → Progress
  | [] => .step w (.returning .run (.ok .null) below)
  | .finish value :: _ => .step w (.returning .run (.ok value) below)
  | .echo :: _ => .step w (.returning .run (.ok own.echo) below)
  | .fail text :: _ => .step w (.returning .run (.error (.other text)) below)
  | .panic text :: _ => panic w text below
  | .pass gate :: rest =>
    match (w.permits.get? gate).getD 0 with
    | 0 => .waits w gate (.acting own rest below)
    | n + 1 => .step { w with permits := w.permits.insert gate n } (.acting own rest below)
  | .call label verb propagate :: rest =>
    let propagate := propagate && !verb.handsOn
    .step w (.calling (some own) verb (.within own label propagate rest below))

def drain (w : World) (handled : List (Delivery × Except Error Outcome)) (below : Stack .answer) :
    List Delivery → Progress
  | [] => give w (.drained handled) below
  | d :: rest =>
    begin w (.draining handled d rest below) (w.dispatcher.handle (w.fresh 0) d.message)

/-- A tick that is due comes before the clock goes on. -/
def loop (w : World) (l : Looping) (below : Stack .answer) : Progress :=
  if l.schedule.due ≤ l.now then
    begin w (.looping { l with schedule := l.schedule.ticked l.now } below)
      (w.dispatcher.triggerSweep (w.fresh 0) .autocommit)
  else
    let sent := l.sent ++ [w.broker.deliveries.length]
    match l.advances with
    | [] => give (w.emit [SweepLoop.stopping]) (.looped sent) below
    | a :: rest => .step w (.looping { l with now := l.now + a, advances := rest, sent } below)

def handBack (w : World) : (k : Kind) → k.Value → Stack k → Progress
  | _, answer, .bottom => .ended w answer
  | _, result, .answered below => give w (.outcome result) below
  | _, result, .reported below => give w (.report result) below
  | _, result, .ticked below => give (w.emit [SweepLoop.report result]) .nothing below
  | _, result, .looping l below =>
    .step (w.emit [SweepLoop.report result]) (.looping l below)
  | _, result, .draining handled current rest below =>
    .step w (.draining (handled ++ [(current, result)]) rest below)
  | _, result, .running t cycle below =>
    let (events, state) := t.resume (.running cycle) result
    .step (w.emit events) (.triggering t state below)
  | _, result, .sweeping below =>
    .step w (.returning .run (result.map SweepReport.toJson) below)
  | _, answer, .within own label propagate rest below =>
    let w := { w with nested := w.nested ++ [⟨own.task, own.run, label, answer⟩] }
    match propagate, Answer.error? answer with
    | true, some e => .step w (.returning .run (.error (.other e.message)) below)
    | _, _ => .step w (.acting own rest below)

def step (w : World) : Thread → Progress
  | .calling own verb below => call w own below verb
  | .triggering t state below => trigger w t below state
  | .sweeping s state below => sweep w s below state
  | .acting own actions below => act w own below actions
  | .draining handled rest below => drain w handled below rest
  | .looping l below => loop w l below
  | .returning k value below => handBack w k value below

end Thread
end Coalesce.Simulation
