/-! Sets of code points as tables of ranges. Ranges are inclusive and ascending. -/
namespace Coalesce.Text

abbrev Ranges := Array (Nat × Nat)

/-- Bisects an ascending table: the range to look at is the last that starts at or before. -/
def Ranges.search (table : Ranges) (code : Nat) : Nat → Nat → Nat → Bool
  | 0, _, _ => false
  | steps + 1, low, high =>
    if low < high then
      let middle := (low + high) / 2
      match table[middle]? with
      | none => false
      | some (first, last) =>
        if code < first then search table code steps low middle
        else if code ≤ last then true
        else search table code steps (middle + 1) high
    else false

def Ranges.contains (table : Ranges) (code : Nat) : Bool :=
  table.search code (table.size + 1) 0 table.size

end Coalesce.Text
