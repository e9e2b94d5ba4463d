import Coalesce.Settings
import Coalesce.Task
import Coalesce.Toml.Document

/-! The tasks a dispatcher knows, by name, and overrides of their routes. -/
namespace Coalesce

abbrev Routes := Table String

namespace Routes

/-- Overrides are read from an object, or from a list of its one field. Other members are ignored
and no routes at all is an empty override. -/
def decode : Json → Json.Decoded Routes
  | .obj members => do
    let routes ← Json.member "routes" Json.asStringMap members
    .ok (routes.getD [])
  | .arr [] => .ok []
  | .arr (routes :: rest) => do
    let routes' ← Json.asStringMap routes
    match rest with
    | [] => .ok routes'
    | _ :: _ => .error (Json.surplus (routes :: rest))
  | v => .error (.invalidType v "struct RouteOverrides")

def ofEntries? : List (String × Toml.Value) → Option Routes
  | [] => some []
  | (task, .text queue) :: rest => do some ((task, queue) :: (← ofEntries? rest))
  | _ => none

/-- A date-time stands for a table with one entry, its text. -/
def ofValue? : Toml.Value → Option Routes
  | .table _ entries => ofEntries? entries
  | .datetime text => some [("$__toml_private_datetime", text)]
  | _ => none

def ofToml? (text : String) : Option Routes := do
  let root ← Toml.parse? text
  match root.get? "routes" with
  | none => some []
  | some value => ofValue? value

def ofToml (text : String) : Except Error Routes :=
  match ofToml? text with
  | some routes => .ok routes
  | none => .error (.config .malformedOverrides)

end Routes

structure Registry (β : Type) where
  tasks : Table (Task β)

namespace Registry

variable {β : Type}

def empty : Registry β := ⟨[]⟩

def find? (r : Registry β) (name : String) : Option (Task β) := r.tasks.get? name

def contains (r : Registry β) (name : String) : Bool := r.tasks.contains name

def names (r : Registry β) : List String := r.tasks.keys

def size (r : Registry β) : Nat := r.tasks.length

def isEmpty (r : Registry β) : Bool := r.tasks.isEmpty

def put (r : Registry β) (t : Task β) : Registry β := ⟨r.tasks.insert t.name t⟩

def register (r : Registry β) (t : Task β) : Except Error (Registry β) := do
  validateTaskName t.name
  if r.contains t.name then .error (.invalidTaskName t.name .registered) else .ok (r.put t)

def resolve (r : Registry β) (name : String) : Except Error (Task β) :=
  match r.find? name with
  | some t => .ok t
  | none => .error (.unknownTask name)

/-- Fixes the route of each task that the overrides name; other names in them do nothing. -/
def pin (r : Registry β) (routes : Routes) : Registry β :=
  ⟨routes.foldl (fun tasks (task, queue) =>
    tasks.modify task fun t => { t with route := .fixed queue }) r.tasks⟩

/-- All overrides or none: the first name that is not registered refuses them. -/
def overrideRoutes (r : Registry β) (routes : Routes) : Except Error (Registry β) :=
  match routes.keys.find? fun task => !r.contains task with
  | some task => .error (.config (.overrideOfUnregistered task))
  | none => .ok (r.pin routes)

def registerAll (r : Registry β) : List (Task β) → Except Error (Registry β)
  | [] => .ok r
  | t :: ts => do
    if t.name = sweepTask then .error (.invalidTaskName sweepTask .reserved)
    else registerAll (← r.register t) ts

/-- The registry of a dispatcher: the given tasks and the built-in sweep, whose route may be
overridden like any other. -/
def assemble (tasks : List (Task β)) (sweep : β) (overrides : Option Routes) :
    Except Error (Registry β) := do
  let given ← registerAll empty tasks
  let routes := overrides.getD []
  match routes.keys.find? fun task => task != sweepTask && !given.contains task with
  | some task => .error (.config (.overrideOfUnregistered task))
  | none => .ok ((given.put (Task.ofBody sweepTask sweep)).pin routes)

end Registry
end Coalesce
