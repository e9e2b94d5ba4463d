/-! Labels of domain names written in ASCII: the ASCII characters, a hyphen, and then where the
others go and which they are, as numbers in digits of changing weight. -/
namespace Coalesce.Address.Punycode

def digit? (c : Char) : Option Nat :=
  if 'a' ≤ c ∧ c ≤ 'z' then some (c.toNat - 97)
  else if 'A' ≤ c ∧ c ≤ 'Z' then some (c.toNat - 65)
  else if '0' ≤ c ∧ c ≤ '9' then some (c.toNat - 22)
  else none

/-- A digit below the threshold of its place ends a number. -/
def threshold (place bias : Nat) : Nat := min 26 (max 1 (place - bias))

def settleBias (delta place : Nat) : Nat :=
  if 455 < delta then settleBias (delta / 35) (place + 36) else place + 36 * delta / (delta + 38)
termination_by delta
decreasing_by omega

/-- The bias after the number `delta`, which placed the last of `count` characters. -/
def nextBias (delta count : Nat) (first : Bool) : Nat :=
  let delta := if first then delta / 700 else delta / 2
  settleBias (delta + delta / count) 0

def bound : Nat := 4294967296

def number? (bias : Nat) : Nat → Nat → Nat → List Char → Option (Nat × List Char)
  | _, _, _, [] => none
  | value, weight, place, c :: s => do
    let d ← digit? c
    let value := value + d * weight
    let t := threshold place bias
    if bound ≤ value then none
    else if d < t then some (value, s)
    else number? bias value (weight * (36 - t)) (place + 36) s

def insertAll (fuel : Nat) (chars : List Char) (code index bias : Nat) (s : List Char) :
    Option (List Char) :=
  match fuel, s with
  | 0, _ => none
  | _, [] => some chars
  | fuel + 1, s => do
    let (value, s) ← number? bias index 1 36 s
    let count := chars.length + 1
    let code := code + value / count
    let place := value % count
    if 0x10ffff < code ∨ (0xd800 ≤ code ∧ code ≤ 0xdfff) then none
    else
      insertAll fuel (chars.take place ++ Char.ofNat code :: chars.drop place) code (place + 1)
        (nextBias (value - index) count (index == 0)) s

def decode? (s : List Char) : Option (List Char) :=
  let numbers := (s.reverse.takeWhile (· ≠ '-')).reverse
  let before := s.take (s.length - numbers.length)
  if before = ['-'] then none
  else insertAll (s.length + 1) before.dropLast 128 0 72 numbers

end Coalesce.Address.Punycode
