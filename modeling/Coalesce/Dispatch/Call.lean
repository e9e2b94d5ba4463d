import Coalesce.Dispatch.Run

/-! The ways to call a dispatcher for a task, and the whole of such a call. -/
namespace Coalesce

/-- A message comes from outside of any transaction. -/
inductive EntryPoint where
  | execute (context : Context) (task : String) (input : TaskInput)
  | delay (context : Context) (task : String) (args : List Json)
  | lazyDelay (context : Context) (task : String) (args : List Json)
  | handle (message : Message)
  | runSweep (context : Context)

def EntryPoint.start {β : Type} (d : Dispatcher β) (fresh : String) :
    EntryPoint → Except Error (Trigger × List Event × Trigger.State)
  | .execute context task input => d.trigger fresh context .execute task input
  | .delay context task args => d.trigger fresh context .execute task ⟨args, []⟩
  | .lazyDelay context task args => d.trigger fresh context .request task ⟨args, []⟩
  | .handle message => d.handle fresh message
  | .runSweep context => d.triggerSweep fresh context

/-- Nothing is asked of the backend before the task of the call is known. -/
def Dispatcher.call {β σ : Type} (d : Dispatcher β) (b : Backend σ) (fresh : String)
    (entry : EntryPoint) (s : σ) : List Event × Except Error Outcome × σ :=
  match entry.start d fresh with
  | .error e => ([], .error e, s)
  | .ok (t, events, state) =>
    let (more, result, s) := t.drive b state s
    (events ++ more, result, s)

end Coalesce
