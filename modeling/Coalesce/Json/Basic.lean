import Coalesce.Number.Decimal
import Coalesce.Table

/-! JSON values. A number is an integer of 64 bits or a binary64 number, never both, and the
members of an object are sorted by key. -/
namespace Coalesce

/-- An integer that a signed or an unsigned word of 64 bits can hold. -/
structure Json.Integer where
  val : Int
  lower : -9223372036854775808 ≤ val
  upper : val < 18446744073709551616
  deriving DecidableEq

inductive Json where
  | null
  | bool (value : Bool)
  | int (value : Json.Integer)
  | float (value : Binary64)
  | str (value : String)
  | arr (items : List Json)
  | obj (members : List (String × Json))

namespace Json

instance : Inhabited Json := ⟨.null⟩

def Integer.ofInt? (n : Int) : Option Integer :=
  if h : -9223372036854775808 ≤ n ∧ n < 18446744073709551616 then some ⟨n, h.1, h.2⟩ else none

/-- Counts are far below the bound; one that is not stops at it. -/
def Integer.ofNat (n : Nat) : Integer :=
  if h : n < 18446744073709551616 then ⟨n, by omega, by omega⟩
  else ⟨18446744073709551615, by decide, by decide⟩

def ofNat (n : Nat) : Json := .int (.ofNat n)

def ofInt (n : Int) : Json :=
  match Integer.ofInt? n with
  | some i => .int i
  | none => .null

def ofStrings (items : List String) : Json := .arr (items.map .str)

def object (members : List (String × Json)) : Json := .obj (Table.ofList members)

mutual

/-- Equality of values: an integer is never equal to a number with a fraction, and numbers with a
fraction are compared as numbers, so the two zeros are equal. -/
def same : Json → Json → Bool
  | .null, .null => true
  | .bool a, .bool b => a == b
  | .int a, .int b => a.val == b.val
  | .float a, .float b => a.same b
  | .str a, .str b => a == b
  | .arr a, .arr b => sameItems a b
  | .obj a, .obj b => sameMembers a b
  | _, _ => false

def sameItems : List Json → List Json → Bool
  | [], [] => true
  | a :: as, b :: bs => same a b && sameItems as bs
  | _, _ => false

def sameMembers : List (String × Json) → List (String × Json) → Bool
  | [], [] => true
  | (j, a) :: as, (k, b) :: bs => j == k && same a b && sameMembers as bs
  | _, _ => false

end

mutual

def depth : Json → Nat
  | .arr items => depthItems items + 1
  | .obj members => depthMembers members + 1
  | _ => 0

def depthItems : List Json → Nat
  | [] => 0
  | v :: vs => max (depth v) (depthItems vs)

def depthMembers : List (String × Json) → Nat
  | [] => 0
  | (_, v) :: ms => max (depth v) (depthMembers ms)

end

mutual

def Ordered : Json → Prop
  | .arr items => OrderedItems items
  | .obj members => Table.Sorted members ∧ OrderedMembers members
  | _ => True

def OrderedItems : List Json → Prop
  | [] => True
  | v :: vs => Ordered v ∧ OrderedItems vs

def OrderedMembers : List (String × Json) → Prop
  | [] => True
  | (_, v) :: ms => Ordered v ∧ OrderedMembers ms

end

def member? (key : String) : Json → Option Json
  | .obj members => Table.get? members key
  | _ => none

mutual

theorem same_refl : ∀ v : Json, same v v = true
  | .null => rfl
  | .bool b => by simp [same]
  | .int i => by simp [same]
  | .float x => by simp [same, Binary64.same_refl]
  | .str s => by simp [same]
  | .arr items => by simpa [same] using sameItems_refl items
  | .obj members => by simpa [same] using sameMembers_refl members

theorem sameItems_refl : ∀ vs : List Json, sameItems vs vs = true
  | [] => rfl
  | v :: vs => by simp [sameItems, same_refl v, sameItems_refl vs]

theorem sameMembers_refl : ∀ ms : List (String × Json), sameMembers ms ms = true
  | [] => rfl
  | (k, v) :: ms => by simp [sameMembers, same_refl v, sameMembers_refl ms]

end

end Json
end Coalesce
