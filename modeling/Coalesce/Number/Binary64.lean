/-! Finite binary64 numbers by rank. Rank 0 is zero and the finite magnitudes follow in ascending
order, so neighbours on the number line are neighbours in rank; rank and sign together are the bit
pattern. Magnitudes are measured in units of 2⁻¹⁰⁷⁴, the smallest of them, and so are integers. -/
namespace Coalesce

/-- The rank that would follow the largest finite magnitude; its own size is 2¹⁰²⁴. -/
def Binary64.overflowRank : Nat := 0x7ff0000000000000

structure Binary64 where
  negative : Bool
  rank : Nat
  finite : rank < Binary64.overflowRank
  deriving DecidableEq

namespace Binary64

def zero (negative : Bool) : Binary64 := ⟨negative, 0, by decide⟩

def fractionSize : Nat := Nat.pow 2 52

/-- The size of the magnitude with a rank, in units of 2⁻¹⁰⁷⁴. -/
def size (rank : Nat) : Nat :=
  let exponent := rank / fractionSize
  let fraction := rank % fractionSize
  if exponent = 0 then fraction else (fractionSize + fraction) * Nat.pow 2 (exponent - 1)

def rankBelow (units : Nat) : Nat :=
  let shift := Nat.log2 units - 52
  shift * fractionSize + units / Nat.pow 2 shift

/-- Numbers are compared by value, so the two zeros are the same. -/
def same (x y : Binary64) : Bool :=
  x.rank == y.rank && (x.rank == 0 || x.negative == y.negative)

/-- The rank nearest to `num / den` units, and the even one of two that are equally near. -/
def nearestRank (num den : Nat) : Nat :=
  let low := rankBelow (num / den)
  let middle := (size low + size (low + 1)) * den
  if 2 * num < middle then low
  else if middle < 2 * num then low + 1
  else if low % 2 = 0 then low else low + 1

/-- The number nearest to `digits · 10 ^ exponent`, unless that is past the largest one. Exponents
far outside the range are settled without being written out. -/
def ofDecimal? (negative : Bool) (digits : Nat) (exponent : Int) : Option Binary64 :=
  let rank :=
    if digits = 0 then 0
    else if 400 < exponent then overflowRank
    else if exponent + (Nat.log2 digits : Int) < -1200 then 0
    else
      nearestRank (digits * Nat.pow 10 exponent.toNat * Nat.pow 2 1074)
        (Nat.pow 10 (-exponent).toNat)
  if h : rank < overflowRank then some ⟨negative, rank, h⟩ else none

/-! Literals are not always read as the nearest number: the digits that fit a word of 64 bits are
rounded first, and are then multiplied by or divided by a power of ten, which is rounded itself. -/

def rankOf (n : Nat) : Nat := nearestRank (n * Nat.pow 2 1074) 1

def product (a b : Nat) : Nat := nearestRank (size a * size b) (Nat.pow 2 1074)

def quotient (a b : Nat) : Nat := nearestRank (size a * Nat.pow 2 1074) (size b)

def powerOfTen (n : Nat) : Nat := rankOf (Nat.pow 10 n)

def raised (rank n : Nat) : Nat :=
  if rank = 0 then 0 else if 308 < n then overflowRank else product rank (powerOfTen n)

/-- What is too much for one division is divided out in several. -/
def lowered (rank n : Nat) : Nat :=
  if rank = 0 then 0
  else if n ≤ 308 then quotient rank (powerOfTen n)
  else lowered (quotient rank (powerOfTen 308)) (n - 308)
termination_by n

/-- The number that a literal with these digits and this exponent is read as, unless that is past
the largest one. -/
def ofLiteral? (negative : Bool) (digits : Nat) (exponent : Int) : Option Binary64 :=
  let rank :=
    if 0 ≤ exponent then raised (rankOf digits) exponent.toNat
    else lowered (rankOf digits) (-exponent).toNat
  if h : rank < overflowRank then some ⟨negative, rank, h⟩ else none

theorem same_refl (x : Binary64) : same x x = true := by simp [same]

end Binary64
end Coalesce
