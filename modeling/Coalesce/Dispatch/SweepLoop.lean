import Coalesce.Dispatch.Dispatcher

/-! The periodic sweep. Ticks are due at multiples of the interval since the start; those that were
missed are skipped. Times are in milliseconds. -/
namespace Coalesce

structure SweepLoop where
  interval : Nat
  due : Nat

namespace SweepLoop

def ofInterval (interval : Nat) : Except Error SweepLoop :=
  if interval = 0 then .error (.config .emptyInterval) else .ok ⟨interval, 0⟩

/-- A tick that comes at most this late counts as one on time. -/
def tolerance : Nat := 5

def ticked (l : SweepLoop) (now : Nat) : SweepLoop :=
  if l.due + tolerance < now then
    { l with due := now + l.interval - (now - l.due) % l.interval }
  else { l with due := l.due + l.interval }

def started (l : SweepLoop) : Event :=
  .info "sweep loop started" [("interval_secs", toString (l.interval / 1000))]

def stopping : Event := .info "sweep loop shutting down" []

/-- What a tick reports of its sweep; a failed sweep does not end the loop. -/
def report : Except Error Outcome → Event
  | .ok (.completed result _) => .debug "sweep ran" [("report", result.compact)]
  | .ok o => .debug "sweep dispatched" [("outcome", o.label)]
  | .error e => .warn "sweep failed" [("error", e.message)]

end SweepLoop
end Coalesce
