import Coalesce.Dispatch.Request
import Coalesce.Registry

/-! A sweep: it goes through the flags that are up, passes over those whose lock is held, and
publishes a message for each of the others, so that work left behind by a crash is run again. It
lowers no flag and runs no task. -/
namespace Coalesce

structure SweepReport where
  scanned : Nat
  resubmitted : List String
  busy : Nat
  unresolved : List String
  failed : List String
  deriving DecidableEq

namespace SweepReport

def empty : SweepReport := ⟨0, [], 0, [], []⟩

def toJson (r : SweepReport) : Json :=
  .obj [("busy", .ofNat r.busy), ("failed", .ofStrings r.failed),
    ("resubmitted", .ofStrings r.resubmitted), ("scanned", .ofNat r.scanned),
    ("unresolved", .ofStrings r.unresolved)]

end SweepReport

/-- What stays the same during a sweep: the tasks it can resolve, and fresh ids by the number of
flags seen before. -/
structure Sweep (β : Type) where
  registry : Registry β
  publisher : Publisher
  fresh : Nat → String

namespace Sweep

/-- A sweep that has looked at some of the flags; `rest` are the others. -/
inductive Point where
  | listing
  | probing (report : SweepReport) (flag : String) (rest : List Flag)
  | leaving (report : SweepReport) (flag : String) (rest : List Flag)
  | publishing (report : SweepReport) (flag : String) (rest : List Flag) (p : Publication)

inductive State where
  | at (point : Point)
  | done (result : Except Error SweepReport)

namespace Point

def holds? : Point → Option String
  | .leaving _ flag _ => some flag
  | _ => none

def request : Point → Request
  | .listing => .raised
  | .probing _ flag _ => .acquire flag
  | .leaving _ flag _ => .release flag
  | .publishing _ _ _ p => .publish p.delivery

end Point

variable {β : Type} (s : Sweep β)

def andThen (events : List Event) (next : List Event × State) : List Event × State :=
  (events ++ next.1, next.2)

def finish (report : SweepReport) : List Event × State :=
  let summary : List Event :=
    if report.resubmitted ≠ [] ∨ report.unresolved ≠ [] then
      [.info "sweep finished"
        [("scanned", toString report.scanned),
          ("resubmitted", toString report.resubmitted.length),
          ("busy", toString report.busy),
          ("unresolved", toString report.unresolved.length)]]
    else []
  (summary ++ [.counted .sweepDone], .done (.ok report))

def next (report : SweepReport) : List Flag → List Event × State
  | [] => finish report
  | flag :: rest =>
    ([], .at (.probing { report with scanned := report.scanned + 1 } flag.name rest))

def unresolved (report : SweepReport) (flag : String) (rest : List Flag) : List Event × State :=
  next { report with unresolved := report.unresolved ++ [flag] } rest

def published (report : SweepReport) (flag : String) (rest : List Flag) (p : Publication) :
    Except Error Unit → List Event × State
  | .ok () =>
    andThen
      [p.completion,
        .info "resubmitted orphaned task"
          [("lock", flag), ("id", p.id), ("queue", p.delivery.queue)],
        .counted (.resubmission "orphaned")]
      (next { report with resubmitted := report.resubmitted ++ [flag] } rest)
  | .error e =>
    andThen [.warn "failed to resubmit orphaned task" [("lock", flag), ("error", e.message)]]
      (next { report with failed := report.failed ++ [flag] } rest)

def orphaned (report : SweepReport) (flag : String) (rest : List Flag) : List Event × State :=
  match Identity.ofLockName flag with
  | .error e =>
    andThen
      [.warn "unparsable reschedule flag left for inspection"
        [("lock", flag), ("error", e.message)]]
      (unresolved report flag rest)
  | .ok identity =>
    match s.registry.find? identity.task with
    | none =>
      andThen
        [.warn "no registered task for orphaned flag, left for inspection"
          [("lock", flag), ("task", identity.task)]]
        (unresolved report flag rest)
    | some task =>
      let p := s.publisher.prepare (s.fresh report.scanned) task ⟨identity.args, []⟩ .default
      andThen [p.announcement]
        (if p.delivered then ([], .at (.publishing report flag rest p))
          else published report flag rest p (.ok ()))

def resume : (p : Point) → p.request.Reply → List Event × State
  | .listing, reply =>
    match (reply : Except Error (List Flag)) with
    | .error e => ([], .done (.error e))
    | .ok flags => next .empty flags
  | .probing report flag rest, reply =>
    match (reply : Except Error Bool) with
    | .error e => ([], .done (.error e))
    | .ok true => ([attempted .sweep true, releasing flag], .at (.leaving report flag rest))
    | .ok false =>
      andThen
        [attempted .sweep false, .debug "flag has a live holder, skipping" [("lock", flag)]]
        (next { report with busy := report.busy + 1 } rest)
  | .leaving report flag rest, reply =>
    match (reply : Except Error Unit) with
    | .error e => ([], .done (.error e))
    | .ok () => s.orphaned report flag rest
  | .publishing report flag rest p, reply => published report flag rest p reply

def start : List Event × State := ([.span "dispatch.sweep" []], .at .listing)

end Sweep
end Coalesce
