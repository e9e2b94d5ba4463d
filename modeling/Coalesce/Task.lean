import Coalesce.Message

/-! Tasks as they are registered: a name, a body, and the way their messages go. What a body is
stays open; nothing here runs one. -/
namespace Coalesce

structure TaskInput where
  args : List Json
  kwargs : Table Json

inductive Route where
  | default
  | fixed (queue : String)
  | computed (queue : List Json → String)

namespace Route

def resolve (args : List Json) (defaultQueue : String) : Route → String
  | .default => defaultQueue
  | .fixed queue => queue
  | .computed queue => queue args

def describe : Route → String
  | .default => "Default"
  | .fixed queue => "Static(" ++ Text.quote queue ++ ")"
  | .computed _ => "Computed(..)"

end Route

structure Task (β : Type) where
  name : String
  body : β
  route : Route
  exchange : Exchange

namespace Task

def ofBody {β : Type} (name : String) (body : β) : Task β := ⟨name, body, .default, .direct⟩

def describe {β : Type} (t : Task β) : String :=
  Text.openRecord "TaskSpec"
    [("name", Text.quote t.name), ("route", t.route.describe), ("exchange", t.exchange.title)]

end Task
end Coalesce
