import Coalesce.Worker.Step

/-! A worker that goes on until it is told to stop. It empties its queue and then waits for a
notice, for the time to poll or for the stop. Whether a stop was asked for is looked at only while
it waits. -/
namespace Coalesce

namespace WorkerLoop

inductive Wake where
  | stop
  | notice (queue : String)
  | broken (reason : String)
  | poll
  deriving DecidableEq

inductive Request where
  | create (queue : String)
  | listen (channel : String)
  | work (request : Worker.Request)
  | wait

abbrev Request.Reply : Request → Type
  | .create _ => Except Error Unit
  | .listen _ => Except Error Unit
  | .work r => r.Reply
  | .wait => Wake

inductive Point where
  | creating
  | listening
  | draining (p : Worker.Point)
  | waiting

inductive Phase where
  | at (point : Point)
  | ended (result : Except Error Unit)

def Point.request (c : WorkerConfig) : Point → Request
  | .creating => .create c.queue
  | .listening => .listen Server.Queues.readyChannel
  | .draining p => .work (p.request c)
  | .waiting => .wait

variable (c : WorkerConfig)

def drained : Worker.State → List Event × Phase
  | .at p => ([], .at (.draining p))
  | .done (.ok true) => ([], .at (.draining .reading))
  | .done (.ok false) => ([], .at .waiting)
  | .done (.error e) =>
    ([.error ("process error: " ++ e.message) [("queue", c.queue)]], .at .waiting)

def woken : Wake → List Event × Phase
  | .stop => ([.info "worker shutting down" [("queue", c.queue)]], .ended (.ok ()))
  | .notice queue =>
    (if queue = c.queue then [.debug "notified of new messages" [("queue", queue)]] else [],
      .at (.draining .reading))
  | .broken reason =>
    ([.warn ("PgListener error: " ++ reason ++ ", falling back to poll") []],
      .at (.draining .reading))
  | .poll => ([], .at (.draining .reading))

variable {β : Type} (d : Dispatcher β) (fresh : String)

def resume : (p : Point) → (p.request c).Reply → List Event × Phase
  | .creating, reply =>
    match (reply : Except Error Unit) with
    | .error e => ([], .ended (.error e))
    | .ok () => ([], .at .listening)
  | .listening, reply =>
    match (reply : Except Error Unit) with
    | .error e => ([], .ended (.error e))
    | .ok () => ([.info "worker started" [("queue", c.queue)]], .at (.draining .reading))
  | .draining p, reply =>
    let (events, state) := Worker.resume c d fresh p reply
    let (more, phase) := drained c state
    (events ++ more, phase)
  | .waiting, reply => woken c (reply : Wake)

end WorkerLoop

/-- A running worker. A stop can be asked for at any time and is remembered. -/
structure WorkerLoop where
  stopRequested : Bool
  phase : WorkerLoop.Phase

namespace WorkerLoop

def start : WorkerLoop := ⟨false, .at .creating⟩

def requestStop (l : WorkerLoop) : WorkerLoop := { l with stopRequested := true }

/-- A wait can end with the stop only if one was asked for. -/
def Admits (l : WorkerLoop) (w : Wake) : Prop := w = .stop → l.stopRequested = true

end WorkerLoop
end Coalesce
