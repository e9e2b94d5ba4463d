import Coalesce.Number.Binary64

/-! The shortest decimal that names a binary64 number: fewest digits first, and of those the
nearest to the number. -/
namespace Coalesce

structure Decimal where
  digits : Nat
  exponent : Int
  deriving DecidableEq

namespace Decimal

/-- A magnitude compared with a decimal, in units of 2⁻¹⁰⁷⁵: both are multiplied up to integers. -/
def compareHalves (d : Decimal) (halves : Nat) : Ordering :=
  compare (d.digits * Nat.pow 10 d.exponent.toNat * Nat.pow 2 1075)
    (halves * Nat.pow 10 (-d.exponent).toNat)

/-- Whether the decimal lies between the midpoints to the two neighbouring ranks. The midpoints
themselves are read as the even rank. -/
def names (d : Decimal) (rank : Nat) : Bool :=
  let low := Binary64.size (rank - 1) + Binary64.size rank
  let high := Binary64.size rank + Binary64.size (rank + 1)
  let even := rank % 2 = 0
  (match d.compareHalves low with
    | .gt => true
    | .eq => even
    | .lt => false) &&
  (match d.compareHalves high with
    | .lt => true
    | .eq => even
    | .gt => false)

def leadingPower (rank : Nat) : Int :=
  ((Nat.toDigits 10 (Binary64.size rank * Nat.pow 10 400 / Nat.pow 2 1074)).length : Int) - 401

def gridFraction (rank : Nat) (exponent : Int) : Nat × Nat :=
  (Binary64.size rank * Nat.pow 10 (-exponent).toNat, Nat.pow 2 1074 * Nat.pow 10 exponent.toNat)

/-- Among the two grid points next to the magnitude, the nearer one that names it. -/
def onGrid? (rank : Nat) (exponent : Int) : Option Decimal :=
  let (num, den) := gridFraction rank exponent
  let below : Decimal := ⟨num / den, exponent⟩
  let above : Decimal := ⟨num / den + 1, exponent⟩
  let nearer := if 2 * (num % den) < den ∨ (2 * (num % den) = den ∧ num / den % 2 = 0)
    then [below, above] else [above, below]
  nearer.find? (·.names rank)

def exact (rank : Nat) : Decimal := ⟨Binary64.size rank * Nat.pow 5 1074, -1074⟩

def search (rank : Nat) (leading : Int) : Nat → Nat → Decimal
  | 0, _ => exact rank
  | tries + 1, count =>
    match onGrid? rank (leading - count + 1) with
    | some d => d
    | none => search rank leading tries (count + 1)

def shortest (rank : Nat) : Decimal := search rank (leadingPower rank) 17 1

def trimZeros : Nat → Decimal → Decimal
  | 0, d => d
  | steps + 1, d =>
    if d.digits ≠ 0 ∧ d.digits % 10 = 0 then trimZeros steps ⟨d.digits / 10, d.exponent + 1⟩ else d

/-- How numbers with a fraction are laid out: positional while the leading power of ten is between
`lowest` and `highest`, with a sign on every exponent otherwise. -/
structure Layout where
  lowest : Int
  highest : Int

def layout : Layout := ⟨-5, 15⟩

def digitChars (n : Nat) : List Char := Nat.toDigits 10 n

def zeros (n : Nat) : List Char := List.replicate n '0'

def write (d : Decimal) : List Char :=
  let d := trimZeros (digitChars d.digits).length d
  let ds := digitChars d.digits
  let leading := d.exponent + ds.length - 1
  if d.digits = 0 then ['0', '.', '0']
  else if layout.lowest ≤ leading ∧ leading ≤ layout.highest then
    if 0 ≤ d.exponent then ds ++ zeros d.exponent.toNat ++ ['.', '0']
    else if 0 ≤ leading then
      ds.take (leading.toNat + 1) ++ '.' :: ds.drop (leading.toNat + 1)
    else '0' :: '.' :: (zeros (-leading - 1).toNat ++ ds)
  else
    let mantissa := if ds.length ≤ 1 then ds else ds.take 1 ++ '.' :: ds.drop 1
    mantissa ++ 'e' :: (if leading < 0 then '-' else '+') :: digitChars leading.natAbs

end Decimal

def Binary64.write (x : Binary64) : List Char :=
  let magnitude := if x.rank = 0 then ['0', '.', '0'] else (Decimal.shortest x.rank).write
  if x.negative then '-' :: magnitude else magnitude

end Coalesce
