import Coalesce.Error

/-! Who a task invocation is: a task name and its arguments. The lock name is the text of an
identity, under which it takes its lock and raises its flag. -/
namespace Coalesce

structure Identity where
  task : String
  args : List Json

def separator : Char := ':'

def checkTaskName (name : String) : Except TaskNameFlaw Unit :=
  if name.toList = [] then .error .empty
  else if name.toList.contains separator then .error .separator
  else if name.toList.any Text.isBlank then .error .blank
  else .ok ()

def validateTaskName (name : String) : Except Error Unit :=
  (checkTaskName name).mapError (.invalidTaskName name)

namespace Identity

/-- The name alone without arguments, and otherwise the arguments as a JSON text behind it. -/
def lockChars (id : Identity) : List Char :=
  match id.args with
  | [] => id.task.toList
  | args => id.task.toList ++ separator :: Json.write (.arr args) []

def lockName (id : Identity) : String := String.ofList id.lockChars

def same (a b : Identity) : Bool := a.task == b.task && Json.sameItems a.args b.args

def splitName (s : List Char) : List Char × Option (List Char) :=
  (s.takeWhile (· ≠ separator),
    match s.dropWhile (· ≠ separator) with
    | [] => none
    | _ :: rest => some rest)

def readChars (s : List Char) : Except LockNameFlaw Identity :=
  match splitName s with
  | ([], _) => .error .emptyTask
  | (task, none) => .ok ⟨String.ofList task, []⟩
  | (task, some raw) =>
    match Json.readAll raw with
    | .ok (.arr args) => .ok ⟨String.ofList task, args⟩
    | .ok value => .error (.notList value)
    | .error fault => .error (.notJson (fault.message raw))

def ofLockName (name : String) : Except Error Identity :=
  (readChars name.toList).mapError (.malformedLockName name)

def toJson (id : Identity) : Json :=
  .obj [("args", .arr id.args), ("task", .str id.task)]

def expected : String := "struct TaskIdentity"

/-- An identity is read from an object, or from a list of its two fields in order. -/
def decode : Json → Json.Decoded Identity
  | .obj members => do
    let args ← Json.member "args" Json.asList members
    let task ← Json.member "task" Json.asString members
    let task ← Json.required "task" task
    let args ← Json.required "args" args
    .ok ⟨task, args⟩
  | .arr items => do
    let short := Json.Mismatch.invalidLength items.length (expected ++ " with 2 elements")
    match items with
    | [] => .error short
    | [task] =>
      let _ ← Json.asString task
      .error short
    | task :: args :: rest =>
      let task ← Json.asString task
      let args ← Json.asList args
      match rest with
      | [] => .ok ⟨task, args⟩
      | _ :: _ => .error (Json.surplus items)
  | v => .error (.invalidType v expected)

end Identity
end Coalesce
