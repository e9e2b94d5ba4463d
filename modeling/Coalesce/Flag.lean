import Coalesce.Error

/-! Reschedule flags. A flag under a lock name says that work for it is outstanding. -/
namespace Coalesce

structure Flag where
  name : String
  raisedAt : Timestamp
  deriving DecidableEq

inductive Raise where
  | created
  | alreadyUp
  deriving DecidableEq

def Raise.text : Raise → String
  | .created => "Created"
  | .alreadyUp => "AlreadyExists"

namespace Flag

def toJson (f : Flag) : Json :=
  .obj [("created_at", .str f.raisedAt.toText), ("name", .str f.name)]

def expected : String := "struct RescheduleFlag"

/-- A flag is read from an object, or from a list of its two fields in order. -/
def decode : Json → Json.Decoded Flag
  | .obj members => do
    let raisedAt ← Json.member "created_at" Json.asTimestamp members
    let name ← Json.member "name" Json.asString members
    let name ← Json.required "name" name
    let raisedAt ← Json.required "created_at" raisedAt
    .ok ⟨name, raisedAt⟩
  | .arr items => do
    let short := Json.Mismatch.invalidLength items.length (expected ++ " with 2 elements")
    match items with
    | [] => .error short
    | [name] =>
      let _ ← Json.asString name
      .error short
    | name :: raisedAt :: rest =>
      let name ← Json.asString name
      let raisedAt ← Json.asTimestamp raisedAt
      match rest with
      | [] => .ok ⟨name, raisedAt⟩
      | _ :: _ => .error (Json.surplus items)
  | v => .error (.invalidType v expected)

end Flag
end Coalesce
