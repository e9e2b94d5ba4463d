import Coalesce.Json.Writing
import Coalesce.Json.Reading
import Coalesce.Time.Timestamp

/-! Reading typed records out of JSON values. Members are looked at in the order of their keys and
missing ones are reported afterwards, in the order in which the record declares them. -/
namespace Coalesce.Json

inductive Mismatch where
  | invalidType (found : Json) (expected : String)
  | notSingleKey
  | invalidLength (length : Nat) (expected : String)
  | missingField (name : String)
  | unknownVariant (found : String) (known : List String)
  | timestamp (flaw : Timestamp.Flaw)

def describe : Json → String
  | .null => "null"
  | .bool b => s!"boolean \x60{b}\x60"
  | .int n => s!"integer \x60{n.val}\x60"
  | .float x => s!"floating point \x60{String.ofList x.write}\x60"
  | .str s => s!"string {Text.quote s}"
  | .arr _ => "sequence"
  | .obj _ => "map"

def Mismatch.message : Mismatch → String
  | .invalidType found expected => s!"invalid type: {describe found}, expected {expected}"
  | .notSingleKey => "invalid value: map, expected map with a single key"
  | .invalidLength length expected => s!"invalid length {length}, expected {expected}"
  | .missingField name => s!"missing field \x60{name}\x60"
  | .unknownVariant found known =>
    let known := " or ".intercalate (known.map fun v => s!"\x60{v}\x60")
    s!"unknown variant \x60{found}\x60, expected {known}"
  | .timestamp flaw => flaw.message

abbrev Decoded (α : Type) := Except Mismatch α

def asString : Json → Decoded String
  | .str s => .ok s
  | v => .error (.invalidType v "a string")

def asList : Json → Decoded (List Json)
  | .arr items => .ok items
  | v => .error (.invalidType v "a sequence")

def asMap : Json → Decoded (Table Json)
  | .obj members => .ok members
  | v => .error (.invalidType v "a map")

def asTimestamp : Json → Decoded Timestamp
  | .str s => (Timestamp.parse s).mapError .timestamp
  | v => .error (.invalidType v "an RFC 3339 formatted date and time string")

def stringValues : Table Json → Decoded (Table String)
  | [] => .ok []
  | (k, v) :: rest => do
    let text ← asString v
    let others ← stringValues rest
    .ok ((k, text) :: others)

def asStringMap (v : Json) : Decoded (Table String) := do stringValues (← asMap v)

def member {α : Type} (key : String) (decode : Json → Decoded α) (members : Table Json) :
    Decoded (Option α) :=
  match members.get? key with
  | none => .ok none
  | some v => (decode v).map some

def required {α : Type} (name : String) : Option α → Decoded α
  | some a => .ok a
  | none => .error (.missingField name)

def surplus (items : List Json) : Mismatch :=
  .invalidLength items.length "fewer elements in array"

end Coalesce.Json
