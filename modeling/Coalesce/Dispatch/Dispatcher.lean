import Coalesce.Dispatch.Sweep
import Coalesce.Dispatch.Trigger

/-! A dispatcher: a registry of tasks with settings, from which triggers and sweeps are started. -/
namespace Coalesce

structure Dispatcher (β : Type) where
  registry : Registry β
  settings : Settings

namespace Dispatcher

variable {β : Type}

def build (settings : Settings) (tasks : List (Task β)) (sweep : β) (overrides : Option Routes) :
    Except Error (Dispatcher β) := do
  .ok ⟨← Registry.assemble tasks sweep overrides, settings⟩

variable (d : Dispatcher β)

def publisher : Publisher := .ofSettings d.settings

def trigger (fresh : String) (context : Context) (mode : Mode) (task : String)
    (input : TaskInput) : Except Error (Trigger × List Event × Trigger.State) := do
  let t := Trigger.ofTask d.settings fresh (← d.registry.resolve task) input
  .ok (t, t.start d.settings context mode)

/-- A message that arrived is run like any other trigger, outside of a transaction. -/
def handle (fresh : String) (m : Message) :
    Except Error (Trigger × List Event × Trigger.State) :=
  d.trigger fresh .autocommit .execute m.task ⟨m.args, m.kwargs⟩

def triggerSweep (fresh : String) (context : Context) :
    Except Error (Trigger × List Event × Trigger.State) :=
  d.trigger fresh context .execute sweepTask ⟨[], []⟩

def publication (fresh : String) (task : String) (input : TaskInput) (a : Addressing) :
    Except Error Publication := do
  .ok (d.publisher.prepare fresh (← d.registry.resolve task) input a)

def sweep (fresh : Nat → String) : Sweep β := ⟨d.registry, d.publisher, fresh⟩

def describe : String :=
  Text.openRecord "Dispatcher"
    [("tasks", Text.bracketed (d.registry.names.map Text.quote)),
      ("settings", d.settings.describe)]

end Dispatcher

def droppedDispatcher : Error := .other "dispatcher dropped before the sweep ran"

end Coalesce
