import Coalesce.Dispatch.Request

/-! A trigger: a call that wants a task run for some arguments. It either gets the lock and runs the
task until no flag is up, or it raises the flag and leaves the run to the holder of the lock. Having
raised the flag it looks once more whether the holder is still there, since a holder that left
before the flag was up will not see it. -/
namespace Coalesce

inductive Outcome where
  | completed (result : Json) (cycles : Nat)
  | requeued (result : Json) (cycles : Nat) (published : Option Publication)
  | coalesced
  | deferred
  | resubmitted (published : Publication)

namespace Outcome

def label : Outcome → String
  | .completed .. => "completed"
  | .requeued .. => "requeued"
  | .coalesced => "coalesced"
  | .deferred => "deferred"
  | .resubmitted _ => "resubmitted"

def result? : Outcome → Option Json
  | .completed result _ => some result
  | .requeued result _ _ => some result
  | _ => none

def ranLocally (o : Outcome) : Bool := o.result?.isSome

end Outcome

inductive Mode where
  | execute
  | request
  deriving DecidableEq

/-- What stays the same during a trigger. A trigger publishes at most once, under `fresh`. -/
structure Trigger where
  task : String
  input : TaskInput
  bound : Nat
  resubmission : Publication

namespace Trigger

def ofTask {β : Type} (settings : Settings) (fresh : String) (t : Task β) (input : TaskInput) :
    Trigger :=
  { task := t.name
    input := input
    bound := settings.cycleBound
    resubmission := (Publisher.ofSettings settings).prepare fresh t input .default }

def identity (t : Trigger) : Identity := ⟨t.task, t.input.args⟩

def lock (t : Trigger) : String := t.identity.lockName

inductive Ending where
  | caughtUp (result : Json) (cycles : Nat)
  | exhausted (result : Json) (cycles : Nat)
  | failed (cause : Error)

inductive Handoff where
  | lostWakeup
  | exhausted (result : Json) (cycles : Nat)
  | failed (cause : Error)

def Handoff.reason : Handoff → String
  | .lostWakeup => "lost_wakeup"
  | .exhausted .. => "cycles_exhausted"
  | .failed _ => "failed_run"

/-- Where a trigger stands: the step it asks for next. Cycles count from 1. -/
inductive Point where
  | acquiring
  | raising
  | probing
  | leaving
  | clearing (cycle : Nat)
  | running (cycle : Nat)
  | checking (cycle : Nat) (result : Json)
  | releasing (ending : Ending)
  | rechecking (cause : Error)
  | publishing (handoff : Handoff)

inductive State where
  | at (point : Point)
  | done (result : Except Error Outcome)

namespace Point

def holds : Point → Bool
  | .leaving => true
  | .clearing _ => true
  | .running _ => true
  | .checking .. => true
  | .releasing _ => true
  | _ => false

def request (t : Trigger) : Point → Request
  | .acquiring => .acquire t.lock
  | .raising => .raise t.lock
  | .probing => .acquire t.lock
  | .leaving => .release t.lock
  | .clearing _ => .lower t.lock
  | .running _ => .invoke t.task t.input
  | .checking .. => .isRaised t.lock
  | .releasing _ => .release t.lock
  | .rechecking _ => .isRaised t.lock
  | .publishing _ => .publish t.resubmission.delivery

end Point

variable (t : Trigger)

def onLock (fields : List Field) : List Field := ("lock", t.lock) :: fields

def finish (o : Outcome) : List Event × State :=
  ([.filled [("dispatch.outcome", o.label)]], .done (.ok o))

def fail (e : Error) : List Event × State := ([], .done (.error e))

def andThen (events : List Event) (next : List Event × State) : List Event × State :=
  (events ++ next.1, next.2)

def handedOff : Handoff → Except Error Unit → List Event × State
  | handoff, .ok () =>
    let p := t.resubmission
    andThen
      [p.completion, .counted (.resubmission handoff.reason),
        .debug "resubmitted" (t.onLock
          [("id", p.id), ("queue", p.delivery.queue), ("reason", handoff.reason)])]
      (match handoff with
        | .lostWakeup => finish (.resubmitted p)
        | .exhausted result cycles => finish (.requeued result cycles (some p))
        | .failed cause => fail cause)
  | .lostWakeup, .error e => fail e
  | .exhausted result cycles, .error e =>
    andThen [.error "requeue failed, flag left for the sweeper" (t.onLock [("error", e.message)])]
      (finish (.requeued result cycles none))
  | .failed cause, .error e =>
    andThen
      [.warn "resubmission after failed run failed, flag left for the sweeper"
        (t.onLock [("error", e.message)])]
      (fail cause)

/-- A message is announced in any case and sent unless the broker is bypassed. -/
def handOff (handoff : Handoff) : List Event × State :=
  andThen [t.resubmission.announcement]
    (if t.resubmission.delivered then ([], .at (.publishing handoff))
      else t.handedOff handoff (.ok ()))

def release (ending : Ending) : List Event × State :=
  ([Coalesce.releasing t.lock], .at (.releasing ending))

def released : Ending → List Event × State
  | .caughtUp result cycles => finish (.completed result cycles)
  | .exhausted result cycles =>
    andThen
      [.info "reschedule flags kept arriving, handing off to a new dispatch"
        (t.onLock [("cycles", toString cycles)])]
      (t.handOff (.exhausted result cycles))
  | .failed cause => ([], .at (.rechecking cause))

def resume : (p : Point) → (p.request t).Reply → List Event × State
  | .acquiring, reply =>
    match (reply : Except Error Bool) with
    | .error e => fail e
    | .ok true =>
      ([attempted .initial true,
        .debug "obtained lock, now obligated to perform the work" (t.onLock [])],
        .at (.clearing 1))
    | .ok false =>
      ([attempted .initial false,
        .debug "another process is running this task, registering reschedule" (t.onLock [])],
        .at .raising)
  | .raising, reply =>
    match (reply : Except Error Raise) with
    | .error e => fail e
    | .ok .alreadyUp =>
      andThen
        [.counted (.flagOperation "duplicate"),
          .debug "reschedule already planned, no-op" (t.onLock [])]
        (finish .coalesced)
    | .ok .created => ([.counted (.flagOperation "create")], .at .probing)
  | .probing, reply =>
    match (reply : Except Error Bool) with
    | .error e => fail e
    | .ok true => ([attempted .recheck true, Coalesce.releasing t.lock], .at .leaving)
    | .ok false =>
      andThen
        [attempted .recheck false,
          .debug "holder still running, it will see the flag" (t.onLock [])]
        (finish .deferred)
  | .leaving, reply =>
    match (reply : Except Error Unit) with
    | .error e => fail e
    | .ok () =>
      andThen
        [.info "holder finished before the flag was visible, resubmitting" (t.onLock [])]
        (t.handOff .lostWakeup)
  | .clearing cycle, reply =>
    (match (reply : Except Error Unit) with
      | .error e =>
        [.warn "could not clear reschedule flag before run" (t.onLock [("error", e.message)])]
      | .ok () => [.counted (.flagOperation "delete")],
      .at (.running cycle))
  | .running cycle, reply =>
    match (reply : Except Error Json) with
    | .error cause =>
      andThen [.counted (.taskRun t.task false), .counted (.runTimed t.task)]
        (t.release (.failed (.task t.task cause)))
    | .ok result =>
      ([.counted (.taskRun t.task true), .counted (.runTimed t.task)],
        .at (.checking cycle result))
  | .checking cycle result, reply =>
    match (reply : Except Error Bool) with
    | .error e =>
      andThen
        [.warn "resubmission check failed, unexecuted work may remain until the next sweep"
          (t.onLock [("error", e.message)])]
        (t.release (.caughtUp result cycle))
    | .ok false => t.release (.caughtUp result cycle)
    | .ok true =>
      if t.bound ≤ cycle then t.release (.exhausted result cycle)
      else
        ([.debug "triggered again during run, looping"
            (t.onLock [("cycles", toString cycle)])],
          .at (.clearing (cycle + 1)))
  | .releasing ending, reply =>
    match (reply : Except Error Unit) with
    | .error e =>
      andThen [.error "failed to release advisory lock" (t.onLock [("error", e.message)])]
        (t.released ending)
    | .ok () => t.released ending
  | .rechecking cause, reply =>
    match (reply : Except Error Bool) with
    | .error e =>
      andThen
        [.warn "resubmission check after failed run failed" (t.onLock [("error", e.message)])]
        (fail cause)
    | .ok false => fail cause
    | .ok true => t.handOff (.failed cause)
  | .publishing handoff, reply => t.handedOff handoff reply

/-- A caller inside a transaction is refused in strict mode and warned of otherwise; nothing is
touched before that. -/
def start (settings : Settings) (context : Context) (mode : Mode) : List Event × State :=
  if context.inTransaction ∧ settings.strict then fail (.insideTransaction t.task)
  else
    let warning : List Event :=
      if context.inTransaction then
        [.warn "lazy task dispatched inside a transaction" [("task", t.task)]]
      else []
    (warning ++
      [.span "dispatch.execute" [("dispatch.task", t.task), ("dispatch.lock", t.lock)]],
      .at (match mode with
        | .execute => .acquiring
        | .request => .raising))

/-- The steps that are left at most: a trigger ends after a bounded number of them. -/
def Point.remaining (t : Trigger) : Point → Nat
  | .acquiring => 3 * t.bound + 8
  | .raising => 4
  | .probing => 3
  | .leaving => 2
  | .clearing cycle => 3 * (t.bound - cycle) + 7
  | .running cycle => 3 * (t.bound - cycle) + 6
  | .checking cycle _ => 3 * (t.bound - cycle) + 5
  | .releasing _ => 4
  | .rechecking _ => 2
  | .publishing _ => 1

def State.remaining (t : Trigger) : State → Nat
  | .at p => p.remaining t
  | .done _ => 0

end Trigger
end Coalesce
