import Coalesce.Simulation.Thread

/-! Running threads in turn. A thread runs until it waits at a gate or ends; who spawns a thread or
opens a gate goes on when no other thread can. -/
namespace Coalesce.Simulation

/-- `waiting` lists the threads at gates in the order in which they came there, `settling` those
that let the others run first, the last one first. -/
structure Schedule where
  world : World
  ready : List (Nat × Thread)
  waiting : List (String × Nat × Thread)
  settling : List (Nat × Stack .answer)
  ended : List (Nat × Answer)
  jobs : Table Nat
  next : Nat

namespace Schedule

def ofWorld (w : World) : Schedule := ⟨w, [], [], [], [], [], 0⟩

variable (s : Schedule)

def add (thread : Thread) : Nat × Schedule :=
  (s.next, { s with ready := s.ready ++ [(s.next, thread)], next := s.next + 1 })

def forget (job : String) : Schedule := { s with jobs := s.jobs.erase job }

def continueWith (id : Nat) (answer : Answer) (below : Stack .answer) : Schedule :=
  { s with ready := (id, .returning .answer answer below) :: s.ready }

def settle (id : Nat) (below : Stack .answer) : Schedule :=
  { s with settling := (id, below) :: s.settling }

/-- The first thread at a gate passes it; without one the gate stays open for the next. -/
def openGate (gate : String) : Schedule :=
  match s.waiting.find? (·.1 = gate) with
  | some (_, id, thread) =>
    { s with
      waiting := s.waiting.filter (·.2.1 ≠ id)
      ready := s.ready ++ [(id, thread)] }
  | none =>
    let permits := s.world.permits
    let w := { s.world with permits := permits.insert gate ((permits.get? gate).getD 0 + 1) }
    { s with world := w }

def dropped (locks : List String) : Schedule :=
  { s with world := locks.foldl World.free s.world }

def cancel (id : Nat) : Schedule :=
  let locks :=
    (s.waiting.filter (·.2.1 = id)).flatMap (·.2.2.locks) ++
      (s.ready.filter (·.1 = id)).flatMap (·.2.locks) ++
      (s.settling.filter (·.1 = id)).flatMap (·.2.locks)
  { s.dropped locks with
    waiting := s.waiting.filter (·.2.1 ≠ id)
    ready := s.ready.filter (·.1 ≠ id)
    settling := s.settling.filter (·.1 ≠ id) }

def control (id : Nat) (below : Stack .answer) : Control → Schedule
  | .spawn job verb =>
    let (child, s) := s.add (.calling none verb .bottom)
    { s with jobs := s.jobs.insert job child }.settle id below
  | .openGate gate => (s.openGate gate).settle id below
  | .join job =>
    match s.jobs.get? job with
    | none => s.continueWith id .nothing below
    | some child =>
      match s.ended.lookup child with
      | some answer => (s.forget job).continueWith id answer below
      | none => s.continueWith id (.text "running") below
  | .abort job =>
    match s.jobs.get? job with
    | none => s.continueWith id .nothing below
    | some child =>
      match s.ended.lookup child with
      | some answer => (s.forget job).continueWith id answer below
      | none =>
        let s := s.forget job
        if child = id then s.dropped below.locks
        else (s.cancel child).continueWith id (.text "cancelled") below

def step? : Option Schedule :=
  match s.ready with
  | (id, thread) :: rest =>
    let s := { s with ready := rest }
    some (match thread.step s.world with
      | .step w thread => { s with world := w, ready := (id, thread) :: s.ready }
      | .waits w gate thread => { s with world := w, waiting := s.waiting ++ [(gate, id, thread)] }
      | .controls w control below => { s with world := w }.control id below control
      | .ended w answer => { s with world := w, ended := (id, answer) :: s.ended })
  | [] =>
    match s.settling with
    | (id, below) :: rest => some ({ s with settling := rest }.continueWith id .nothing below)
    | [] => none

def run : Nat → Schedule → Schedule
  | 0, s => s
  | fuel + 1, s =>
    match s.step? with
    | some s => run fuel s
    | none => s

/-- No script comes near this many steps. -/
def stepLimit : Nat := 1000000000000

def perform (verb : Verb) : Answer × Schedule :=
  let (id, s) := s.add (.calling none verb .bottom)
  let s := run stepLimit s
  ((s.ended.lookup id).getD .nothing, s)

end Schedule

structure Snapshot where
  answer : Answer
  held : Nat
  flags : List String
  attempts : Nat
  inserts : Nat
  sent : List Delivery
  nested : List Nested
  events : List Event

def Schedule.snapshot (s : Schedule) (answer : Answer) : Snapshot :=
  { answer
    held := s.world.locks.held.length
    flags := s.world.flags.names
    attempts := s.world.flags.attempts
    inserts := s.world.flags.inserts
    sent := s.world.broker.deliveries.drop s.world.seen
    nested := s.world.nested
    events := s.world.events }

def Schedule.forgetStep (s : Schedule) : Schedule :=
  { s with
    world :=
      { s.world with events := [], nested := [], seen := s.world.broker.deliveries.length } }

def perform : List Verb → Schedule → List Snapshot × Tally
  | [], s => ([], s.world.tally)
  | verb :: rest, s =>
    let (answer, s) := s.perform verb
    let (snapshots, tally) := perform rest s.forgetStep
    (s.snapshot answer :: snapshots, tally)

end Coalesce.Simulation
