import Coalesce.Text.Quoted

/-! What a dispatcher is set up with, and the context of a call. -/
namespace Coalesce

def defaultQueueName : String := "dispatch"

def defaultLocalCycles : Nat := 20

def defaultSweepSeconds : Nat := 60

def serviceName : String := "lazy-dispatch"

/-- The task that every dispatcher has: it resubmits what crashed holders left behind. -/
def sweepTask : String := "dispatch.resubmit_lazy_tasks"

structure Settings where
  defaultQueue : String
  localCycles : Nat
  strict : Bool
  bypassBroker : Bool
  deriving DecidableEq

namespace Settings

def default : Settings := ⟨defaultQueueName, defaultLocalCycles, true, false⟩

/-- How often one call may run its task: at least once, whatever is set. -/
def cycleBound (s : Settings) : Nat := max 1 s.localCycles

def describe (s : Settings) : String :=
  Text.record "DispatchSettings"
    [("default_queue", Text.quote s.defaultQueue), ("local_cycles", toString s.localCycles),
      ("strict", toString s.strict), ("bypass_broker", toString s.bypassBroker)]

end Settings

/-- Whether the caller is inside a transaction, where a task must not run. -/
structure Context where
  inTransaction : Bool
  deriving DecidableEq

namespace Context

def autocommit : Context := ⟨false⟩

def describe (c : Context) : String :=
  Text.record "DispatchContext" [("in_transaction", toString c.inTransaction)]

end Context
end Coalesce
