import Coalesce.Flag
import Coalesce.Message

/-! Locks, flags and a broker that live in memory, for one process. -/
namespace Coalesce.Memory

structure Locks where
  held : List String

namespace Locks

def empty : Locks := ⟨[]⟩

def isHeld (l : Locks) (name : String) : Bool := l.held.contains name

def acquire (l : Locks) (name : String) : Bool × Locks :=
  if l.isHeld name then (false, l) else (true, ⟨name :: l.held⟩)

def free (l : Locks) (name : String) : Locks := ⟨l.held.filter (· ≠ name)⟩

end Locks

/-- Flags by name with the instants they were raised at, and how often that was tried and done. -/
structure Flags where
  rows : Table Timestamp
  attempts : Nat
  inserts : Nat

namespace Flags

def empty : Flags := ⟨[], 0, 0⟩

/-- A flag that is up keeps the instant it was first raised at. -/
def raise (f : Flags) (name : String) (now : Timestamp) : Raise × Flags :=
  if f.rows.contains name then (.alreadyUp, { f with attempts := f.attempts + 1 })
  else (.created, ⟨f.rows.insert name now, f.attempts + 1, f.inserts + 1⟩)

def isRaised (f : Flags) (name : String) : Bool := f.rows.contains name

def lower (f : Flags) (name : String) : Flags := { f with rows := f.rows.erase name }

def names (f : Flags) : List String := f.rows.keys

def list (f : Flags) : List Flag :=
  (f.rows.map fun (name, raisedAt) => (⟨name, raisedAt⟩ : Flag)).mergeSort
    fun a b => a.raisedAt.le b.raisedAt

theorem raise_fst (f : Flags) (name : String) (now : Timestamp) :
    (f.raise name now).1 = if f.isRaised name then .alreadyUp else .created := by
  unfold raise isRaised
  split <;> rfl

@[simp] theorem isRaised_raise (f : Flags) (name other : String) (now : Timestamp) :
    (f.raise name now).2.isRaised other = (other == name || f.isRaised other) := by
  unfold raise isRaised
  split
  · next up =>
    by_cases h : other = name
    · simpa [h] using up
    · simp [h]
  · exact Table.contains_insert name other now f.rows

@[simp] theorem isRaised_lower (f : Flags) (name other : String) :
    (f.lower name).isRaised other = (other != name && f.isRaised other) :=
  Table.contains_erase name other f.rows

theorem names_perm (f : Flags) : (f.list.map Flag.name).Perm f.rows.keys := by
  have perm : (f.list.map Flag.name).Perm _ := (List.mergeSort_perm _ _).map Flag.name
  rwa [List.map_map] at perm

end Flags

structure Broker where
  deliveries : List Delivery

namespace Broker

def empty : Broker := ⟨[]⟩

def publish (b : Broker) (d : Delivery) : Broker := ⟨b.deliveries ++ [d]⟩

end Broker
end Coalesce.Memory
