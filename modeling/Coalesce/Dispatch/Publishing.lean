import Coalesce.Task
import Coalesce.Telemetry.Event

/-! From a call to the message it publishes. A publication says where the message went, and whether
it went at all. -/
namespace Coalesce

structure Publication where
  delivery : Delivery
  delivered : Bool

structure Addressing where
  queue : Option String
  id : Option String
  extra : Table Json

def Addressing.default : Addressing := ⟨none, none, []⟩

structure Publisher where
  defaultQueue : String
  bypass : Bool

namespace Publisher

def ofSettings (s : Settings) : Publisher := ⟨s.defaultQueue, s.bypassBroker⟩

variable {β : Type}

/-- Extra members cannot take the place of a core field, and a fresh id is used if none was
chosen. -/
def prepare (p : Publisher) (fresh : String) (t : Task β) (input : TaskInput) (a : Addressing) :
    Publication :=
  { delivery :=
      { queue := a.queue.getD (t.route.resolve input.args p.defaultQueue)
        exchange := t.exchange
        message :=
          { id := a.id.getD fresh
            task := t.name
            args := input.args
            kwargs := input.kwargs
            extra := Message.withoutCore a.extra } }
    delivered := !p.bypass }

end Publisher

namespace Publication

variable (p : Publication)

def id : String := p.delivery.message.id

def announcement : Event :=
  let shared := [("task", p.delivery.message.task), ("id", p.id), ("queue", p.delivery.queue)]
  if p.delivered then .debug "publish" (shared ++ [("exchange", p.delivery.exchange.text)])
  else .debug "broker bypassed, not publishing" shared

def completion : Event :=
  .counted (.published p.delivery.queue p.delivery.exchange.text p.delivered)

end Publication

/-- Prepares a publication and hands its message to the broker, unless the broker is bypassed. It
is announced in any case, and completed if the broker has not refused it. -/
def Publisher.publish {β σ : Type} (p : Publisher) (send : Delivery → σ → Except Error Unit × σ)
    (fresh : String) (t : Task β) (input : TaskInput) (a : Addressing) (s : σ) :
    List Event × Except Error Publication × σ :=
  let publication := p.prepare fresh t input a
  let (sent, s) := if publication.delivered then send publication.delivery s else (.ok (), s)
  match sent with
  | .ok () => ([publication.announcement, publication.completion], .ok publication, s)
  | .error e => ([publication.announcement], .error e, s)

end Coalesce
