import Coalesce.Memory.Store
import Coalesce.Proofs.Registration
import Coalesce.Worker.Step

/-! Calls of many processes on the same locks, flags and messages, their steps in any order. One
step is one request of one call with its answer. An invocation begins with one step and ends with
another, so that other calls come in between; what a task does meanwhile is left open, and the calls
it makes are calls like any other, the sweep of the built-in task among them. -/
namespace Coalesce.Interleaving

/-- How a step on a store comes back. A step that fails may have taken effect all the same. -/
inductive Verdict where
  | answered
  | failed (cause : Error) (effective : Bool)

namespace Verdict

variable {σ α : Type}

def isAnswered : Verdict → Bool
  | .answered => true
  | .failed .. => false

def isEffective : Verdict → Bool
  | .answered => true
  | .failed _ effective => effective

def reply (v : Verdict) (value : α) : Except Error α :=
  match v with
  | .answered => .ok value
  | .failed cause _ => .error cause

def on (v : Verdict) (s : σ) (step : α × σ) : Except Error α × σ :=
  (v.reply step.1, if v.isEffective then step.2 else s)

end Verdict

/-- A lock is kept under the key of its name with the number of the call that has it. Messages are
numbered as they are published, and those that a worker has dealt with are archived. -/
structure Stores (κ : Type) where
  locks : List (κ × Nat)
  flags : Memory.Flags
  broker : Memory.Broker
  archived : List Nat

namespace Stores

variable {κ : Type} (s : Stores κ)

def raise (flag : String) (now : Timestamp) : Stores κ :=
  { s with flags := (s.flags.raise flag now).2 }

def lower (flag : String) : Stores κ := { s with flags := s.flags.lower flag }

def post (d : Delivery) : Stores κ := { s with broker := s.broker.publish d }

def archive (number : Nat) : Stores κ := { s with archived := number :: s.archived }

def message? (number : Nat) : Option Delivery :=
  if number ∈ s.archived then none else s.broker.deliveries[number]?

def MessagesKept (s' : Stores κ) : Prop :=
  s.broker.deliveries <+: s'.broker.deliveries ∧ s'.archived = s.archived

theorem messagesKept_refl : s.MessagesKept s :=
  ⟨List.prefix_refl _, rfl⟩

theorem messagesKept_post (d : Delivery) : s.MessagesKept (s.post d) :=
  ⟨List.prefix_append _ _, rfl⟩

def take (k : κ) (call : Nat) : Stores κ := { s with locks := (k, call) :: s.locks }

variable [DecidableEq κ]

def isHeld (k : κ) : Bool := s.locks.any (·.1 = k)

def free (k : κ) (call : Nat) : Stores κ := { s with locks := s.locks.filter (· ≠ (k, call)) }

/-- Trying a lock in vain changes nothing. A lock that is given back is free whatever comes back,
since a session that fails to unlock is closed. -/
def answer (key : String → κ) (call : Nat) (now : Timestamp) (v : Verdict) :
    (r : Request) → r.Reply × Stores κ
  | .acquire lock =>
    match v with
    | .failed cause _ => (.error cause, s)
    | .answered =>
      if s.isHeld (key lock) then (.ok false, s) else (.ok true, s.take (key lock) call)
  | .release lock => (v.reply (), s.free (key lock) call)
  | .raise flag => v.on s ((s.flags.raise flag now).1, s.raise flag now)
  | .isRaised flag => v.on s (s.flags.isRaised flag, s)
  | .lower flag => v.on s ((), s.lower flag)
  | .raised => v.on s (s.flags.list, s)
  | .publish d => v.on s ((), s.post d)
  | .invoke task _ => (.error (.unknownTask task), s)

end Stores

inductive Work (β : Type) where
  | trigger (t : Trigger) (state : Trigger.State)
  | sweep (s : Sweep β) (state : Sweep.State)

namespace Work

variable {β : Type}

def lock? : Work β → Option String
  | .trigger t (.at p) => if p.holds then some t.lock else none
  | .sweep _ (.at p) => p.holds?
  | _ => none

def isDone : Work β → Bool
  | .trigger _ (.done _) => true
  | .sweep _ (.done _) => true
  | _ => false

end Work

/-- A call is `inside` while its task runs, and `gone` once it was given up, wherever it stood. One
that handles a message of the queue knows its number. -/
structure Call (β : Type) where
  process : Nat
  message : Option Nat
  work : Work β
  inside : Bool
  gone : Bool

namespace Call

variable {β : Type} (c : Call β)

def ofWork (process : Nat) (message : Option Nat) (work : Work β) : Call β :=
  ⟨process, message, work, false, false⟩

def lock? : Option String := if c.gone then none else c.work.lock?

def isOver : Bool := c.gone || c.work.isDone

end Call

/-- What has happened. An answer is kept with the flags that the step found. -/
inductive Happening where
  | began (call : Nat)
  | answered (call : Nat) (found : Memory.Flags) (request : Request) (reply : request.Reply)
  | invoked (call : Nat) (lock : String)
  | finished (call : Nat) (lock : String) (result : Except Error Json)

/-- Calls are numbered as they begin; the newest happening comes first. -/
structure World (κ β : Type) where
  stores : Stores κ
  calls : List (Call β)
  history : List Happening

namespace World

variable {κ β : Type} (w : World κ β)

def call? (i : Nat) : Option (Call β) := w.calls[i]?

def idle (flags : Memory.Flags) : World κ β := ⟨⟨[], flags, .empty, []⟩, [], []⟩

def begin (c : Call β) : World κ β :=
  { w with calls := w.calls ++ [c], history := .began w.calls.length :: w.history }

def move (i : Nat) (c : Call β) (s : Stores κ) (e : Happening) : World κ β :=
  ⟨s, w.calls.set i c, e :: w.history⟩

def askTrigger [DecidableEq κ] (key : String → κ) (i : Nat) (c : Call β) (t : Trigger)
    (p : Trigger.Point) (v : Verdict) (now : Timestamp) : World κ β :=
  let (reply, s) := w.stores.answer key i now v (p.request t)
  w.move i { c with work := .trigger t (t.resume p reply).2 } s
    (.answered i w.stores.flags (p.request t) reply)

def askSweep [DecidableEq κ] (key : String → κ) (i : Nat) (c : Call β) (sw : Sweep β)
    (p : Sweep.Point) (v : Verdict) (now : Timestamp) : World κ β :=
  let (reply, s) := w.stores.answer key i now v p.request
  w.move i { c with work := .sweep sw (sw.resume p reply).2 } s
    (.answered i w.stores.flags p.request reply)

def invoke (i : Nat) (c : Call β) (t : Trigger) : World κ β :=
  w.move i { c with inside := true } w.stores (.invoked i t.lock)

def finish (i : Nat) (c : Call β) (t : Trigger) (cycle : Nat) (result : Except Error Json) :
    World κ β :=
  w.move i { c with work := .trigger t (t.resume (.running cycle) result).2, inside := false }
    w.stores (.finished i t.lock result)

/-- Some calls are given up, and their locks are free. -/
def vanish (victim : Nat → Bool) : World κ β :=
  { w with
    stores := { w.stores with locks := w.stores.locks.filter fun entry => !victim entry.2 }
    calls := w.calls.mapIdx fun i c => if victim i then { c with gone := true } else c }

def ofProcess (process i : Nat) : Bool := (w.call? i).any (·.process = process)

theorem call?_eq_none {i : Nat} (h : w.calls.length ≤ i) : w.call? i = none :=
  List.getElem?_eq_none h

theorem lt_of_call? {i : Nat} {c : Call β} (h : w.call? i = some c) : i < w.calls.length :=
  (List.getElem?_eq_some_iff.1 h).1

theorem call?_begin (c : Call β) (j : Nat) :
    (w.begin c).call? j = if j = w.calls.length then some c else w.call? j := by
  unfold begin call?
  rcases Nat.lt_trichotomy j w.calls.length with h | h | h
  · rw [List.getElem?_append_left h, if_neg (Nat.ne_of_lt h)]
  · simp [h]
  · rw [if_neg (Nat.ne_of_gt h), List.getElem?_eq_none (by simp; omega),
      List.getElem?_eq_none (Nat.le_of_lt h)]

theorem call?_move {i : Nat} {c₀ : Call β} (call : w.call? i = some c₀) (c : Call β)
    (s : Stores κ) (e : Happening) (j : Nat) :
    (w.move i c s e).call? j = if j = i then some c else w.call? j := by
  unfold move call?
  by_cases h : j = i
  · rw [if_pos h, h, List.getElem?_set_self (w.lt_of_call? call)]
  · rw [if_neg h, List.getElem?_set_ne (Ne.symm h)]

theorem call?_vanish (victim : Nat → Bool) (j : Nat) :
    (w.vanish victim).call? j =
      (w.call? j).map fun c => if victim j then { c with gone := true } else c := by
  unfold vanish call?
  exact List.getElem?_mapIdx

variable {P : Nat → Call β → Prop}

/-! What holds of every call after a step, from what holds of the calls it left alone. -/

theorem all_begin {c : Call β} (new : P w.calls.length c)
    (others : ∀ j c', w.call? j = some c' → P j c') (j : Nat) (c' : Call β)
    (call : (w.begin c).call? j = some c') : P j c' := by
  rw [w.call?_begin] at call
  split at call
  · next same =>
    cases call
    exact same ▸ new
  · exact others j c' call

theorem all_move {i : Nat} {c₀ c : Call β} (call : w.call? i = some c₀) {s : Stores κ}
    {e : Happening} (self : P i c) (others : ∀ j c', j ≠ i → w.call? j = some c' → P j c')
    (j : Nat) (c' : Call β) (call' : (w.move i c s e).call? j = some c') : P j c' := by
  rw [w.call?_move call] at call'
  split at call'
  · next same =>
    cases call'
    exact same ▸ self
  · next other => exact others j c' other call'

theorem all_vanish {victim : Nat → Bool}
    (gone : ∀ j c', victim j = true → w.call? j = some c' → P j { c' with gone := true })
    (others : ∀ j c', w.call? j = some c' → P j c') (j : Nat) (c' : Call β)
    (call : (w.vanish victim).call? j = some c') : P j c' := by
  rw [w.call?_vanish] at call
  obtain ⟨c, call', rfl⟩ := Option.map_eq_some_iff.1 call
  split
  · next doomed => exact gone j c doomed call'
  · exact others j c call'

end World

def isRunning : Trigger.Point → Bool
  | .running _ => true
  | _ => false

inductive Act (β : Type) where
  | trigger (process : Nat) (d : Dispatcher β) (fresh : String) (context : Context) (mode : Mode)
      (task : String) (input : TaskInput)
  | handle (process : Nat) (d : Dispatcher β) (fresh : String) (number : Nat)
  | sweep (process : Nat) (d : Dispatcher β) (fresh : Nat → String)
  | answer (call : Nat) (verdict : Verdict) (now : Timestamp)
  | invoke (call : Nat)
  | finish (call : Nat) (result : Except Error Json)
  | panic (call : Nat)
  | drop (call : Nat)
  | crash (process : Nat)
  | post (d : Delivery)
  | archive (call : Nat)

variable {κ β : Type}

inductive Opens (w : World κ β) : Act β → Call β → Prop where
  | trigger {process d fresh context mode task input t events state} (built : d.Built)
      (started : d.trigger fresh context mode task input = .ok (t, events, state)) :
      Opens w (.trigger process d fresh context mode task input)
        (.ofWork process none (.trigger t state))
  | handle {process d fresh number delivery t events state} (built : d.Built)
      (read : w.stores.message? number = some delivery)
      (started : d.handle fresh delivery.message = .ok (t, events, state)) :
      Opens w (.handle process d fresh number)
        (.ofWork process (some number) (.trigger t state))
  | sweep {process d fresh} (built : d.Built) :
      Opens w (.sweep process d fresh)
        (.ofWork process none (.sweep (d.sweep fresh) Sweep.start.2))

/-- The calls that an act does away with. A task that panics takes its call with it. -/
inductive Dooms (w : World κ β) : Act β → (Nat → Bool) → Prop where
  | panic {i c} (call : w.call? i = some c) (live : c.gone = false) (inside : c.inside = true) :
      Dooms w (.panic i) (· == i)
  | drop {i} : Dooms w (.drop i) (· == i)
  | crash {process} : Dooms w (.crash process) (w.ofProcess process)

inductive Step [DecidableEq κ] (key : String → κ) (w : World κ β) :
    Act β → World κ β → Prop where
  | begin {a c} (opens : Opens w a c) : Step key w a (w.begin c)
  | askTrigger {i c t p v now} (call : w.call? i = some c) (live : c.gone = false)
      (work : c.work = .trigger t (.at p)) (asks : isRunning p = false) :
      Step key w (.answer i v now) (w.askTrigger key i c t p v now)
  | askSweep {i c sw p v now} (call : w.call? i = some c) (live : c.gone = false)
      (work : c.work = .sweep sw (.at p)) :
      Step key w (.answer i v now) (w.askSweep key i c sw p v now)
  | invoke {i c t cycle} (call : w.call? i = some c) (live : c.gone = false)
      (work : c.work = .trigger t (.at (.running cycle))) (outside : c.inside = false) :
      Step key w (.invoke i) (w.invoke i c t)
  | finish {i c t cycle result} (call : w.call? i = some c) (live : c.gone = false)
      (work : c.work = .trigger t (.at (.running cycle))) (inside : c.inside = true) :
      Step key w (.finish i result) (w.finish i c t cycle result)
  | vanish {a victim} (dooms : Dooms w a victim) : Step key w a (w.vanish victim)
  | post {d} : Step key w (.post d) { w with stores := w.stores.post d }
  /-- A worker archives its message if that is what it does after such a result. -/
  | archive {i c t result number entry m} (call : w.call? i = some c)
      (work : c.work = .trigger t (.done result)) (message : c.message = some number)
      (archives : (Worker.handled entry m result).2 = .at (.archiving entry)) :
      Step key w (.archive i) { w with stores := w.stores.archive number }

/-- The worlds that come about from an idle one by steps that are allowed, which can hang on the
world that a step leads to. -/
inductive Reachable [DecidableEq κ] (key : String → κ) (allowed : Act β → World κ β → Prop)
    (flags : Memory.Flags) : World κ β → Prop where
  | idle : Reachable key allowed flags (.idle flags)
  | next {w w'} (reached : Reachable key allowed flags w) (a : Act β) (step : Step key w a w')
      (ok : allowed a w') : Reachable key allowed flags w'

def single : Dispatcher Unit :=
  ⟨⟨[(sweepTask, .ofBody sweepTask ()), ("t", .ofBody "t" ())]⟩, .default⟩

theorem single_built : single.Built :=
  ⟨.default, [.ofBody "t" ()], (), none, rfl⟩

end Coalesce.Interleaving
