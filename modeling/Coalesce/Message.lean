import Coalesce.Identity

/-! Messages that ask a worker to run a task, and the exchanges they go through. -/
namespace Coalesce

inductive Exchange where
  | direct
  | broadcast
  deriving DecidableEq

namespace Exchange

def default : Exchange := .direct

def text : Exchange → String
  | .direct => "direct"
  | .broadcast => "broadcast"

def title : Exchange → String
  | .direct => "Direct"
  | .broadcast => "Broadcast"

def ofText (s : String) : Json.Decoded Exchange :=
  if s = "direct" then .ok .direct
  else if s = "broadcast" then .ok .broadcast
  else .error (.unknownVariant s ["direct", "broadcast"])

/-- The name itself, or an object with the name as its one key and nothing under it. -/
def decode : Json → Json.Decoded Exchange
  | .str s => ofText s
  | .obj [(s, v)] => do
    let exchange ← ofText s
    match v with
    | .null => .ok exchange
    | v => .error (.invalidType v "unit")
  | .obj _ => .error .notSingleKey
  | v => .error (.invalidType v "string or map")

end Exchange

/-! Fresh message ids are version 4 UUIDs made from 122 bits. -/
namespace MessageId

def hexChars (count n : Nat) : List Char :=
  match count with
  | 0 => []
  | count + 1 => hexChars count (n / 16) ++ [Text.hexDigit (n % 16)]

/-- The version digit is 4 and the variant digit is one of 8, 9, a and b. -/
def ofBits (n : Nat) : String :=
  String.ofList (hexChars 8 (n / Nat.pow 2 90) ++ '-' :: hexChars 4 (n / Nat.pow 2 74) ++ '-' ::
    '4' :: hexChars 3 (n / Nat.pow 2 62) ++ '-' :: Text.hexDigit (8 + n / Nat.pow 2 60 % 4) ::
    hexChars 3 (n / Nat.pow 2 48) ++ '-' :: hexChars 12 n)

def isHexDigit (c : Char) : Bool := ('0' ≤ c && c ≤ '9') || ('a' ≤ c && c ≤ 'f')

def isFresh (id : String) : Bool :=
  let cs := id.toList
  cs.length == 36 &&
    cs.zipIdx.all fun (c, i) =>
      if i == 8 || i == 13 || i == 18 || i == 23 then c == '-'
      else if i == 14 then c == '4'
      else isHexDigit c

end MessageId

/-- `extra` holds whatever else the object of a message carries. -/
structure Message where
  id : String
  task : String
  args : List Json
  kwargs : Table Json
  extra : Table Json

namespace Message

def coreFields : List String := ["id", "task", "args", "kwargs"]

def ofTask (id task : String) (args : List Json) : Message := ⟨id, task, args, [], []⟩

def core (m : Message) : Table Json :=
  [("args", .arr m.args), ("id", .str m.id), ("kwargs", .obj m.kwargs), ("task", .str m.task)]

/-- Extra members are written last, over a core field of the same name. -/
def toJson (m : Message) : Json := .obj (m.core.merge m.extra)

def identity (m : Message) : Identity := ⟨m.task, m.args⟩

def same (a b : Message) : Bool :=
  a.id == b.id && a.task == b.task && Json.sameItems a.args b.args &&
    Json.sameMembers a.kwargs b.kwargs && Json.sameMembers a.extra b.extra

def withoutCore (members : Table Json) : Table Json :=
  members.filter fun (key, _) => !coreFields.contains key

def decode : Json → Json.Decoded Message
  | .obj members => do
    let args ← Json.member "args" Json.asList members
    let id ← Json.member "id" Json.asString members
    let kwargs ← Json.member "kwargs" Json.asMap members
    let task ← Json.member "task" Json.asString members
    let id ← Json.required "id" id
    let task ← Json.required "task" task
    .ok ⟨id, task, args.getD [], kwargs.getD [], withoutCore members⟩
  | v => .error (.invalidType v "struct TaskMessage")

end Message

structure Delivery where
  queue : String
  exchange : Exchange
  message : Message

end Coalesce
