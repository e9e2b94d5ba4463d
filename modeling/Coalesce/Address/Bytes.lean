/-! Text as bytes: its UTF-8 form, how that is read back, and escapes of single bytes. -/
namespace Coalesce.Address

def charBytes (c : Char) : List Nat :=
  let n := c.toNat
  let tail (i : Nat) : Nat := 0x80 + n / i % 64
  if n < 0x80 then [n]
  else if n < 0x800 then [0xc0 + n / 64, tail 1]
  else if n < 0x10000 then [0xe0 + n / 4096, tail 64, tail 1]
  else [0xf0 + n / 262144, tail 4096, tail 64, tail 1]

def bytes (s : List Char) : List Nat := s.flatMap charBytes

def hexValue? (b : Nat) : Option Nat :=
  if 48 ≤ b ∧ b ≤ 57 then some (b - 48)
  else if 65 ≤ b ∧ b ≤ 70 then some (b - 55)
  else if 97 ≤ b ∧ b ≤ 102 then some (b - 87)
  else none

/-- A percent sign and two hexadecimal digits stand for one byte; any other percent sign stands for
itself. -/
def unescape : List Nat → List Nat
  | [] => []
  | b :: h :: l :: s =>
    if b = 37 then
      match hexValue? h, hexValue? l with
      | some h, some l => (16 * h + l) :: unescape s
      | _, _ => b :: unescape (h :: l :: s)
    else b :: unescape (h :: l :: s)
  | b :: s => b :: unescape s

/-- How the bytes at one place begin: with a code point and the rest behind it, with a number of
bytes that no code point begins with, or with a code point that is cut off. -/
inductive Lead where
  | char (c : Char) (rest : List Nat)
  | broken (count : Nat)
  | cut

def isTail (b : Nat) : Bool := 0x80 ≤ b && b < 0xc0

/-- The second bytes that may follow a first one; overlong forms, surrogates and all past the last
code point are left out. -/
def secondRange (first : Nat) : Nat × Nat :=
  if first = 0xe0 then (0xa0, 0xbf)
  else if first = 0xed then (0x80, 0x9f)
  else if first = 0xf0 then (0x90, 0xbf)
  else if first = 0xf4 then (0x80, 0x8f)
  else (0x80, 0xbf)

def leadTails (value taken : Nat) : Nat → List Nat → Lead
  | 0, s => .char (Char.ofNat value) s
  | _ + 1, [] => .cut
  | owed + 1, b :: s =>
    if isTail b then leadTails (64 * value + (b - 0x80)) (taken + 1) owed s else .broken taken

def leadSecond (first owed value : Nat) : List Nat → Lead
  | [] => .cut
  | b :: s =>
    if (secondRange first).1 ≤ b ∧ b ≤ (secondRange first).2 then
      leadTails (64 * value + (b - 0x80)) 2 (owed - 1) s
    else .broken 1

def lead (first : Nat) (s : List Nat) : Lead :=
  if first < 0x80 then .char (Char.ofNat first) s
  else if first < 0xc2 then .broken 1
  else if first < 0xe0 then leadSecond first 1 (first - 0xc0) s
  else if first < 0xf0 then leadSecond first 2 (first - 0xe0) s
  else if first < 0xf5 then leadSecond first 3 (first - 0xf0) s
  else .broken 1

/-- Where bytes are no text: after this many that are, and how many of the next ones are broken, or
none if a code point is cut off by the end. -/
structure Damage where
  start : Nat
  broken : Option Nat
  deriving DecidableEq

def Damage.message (d : Damage) : String :=
  match d.broken with
  | some count => s!"invalid utf-8 sequence of {count} bytes from index {d.start}"
  | none => s!"incomplete utf-8 byte sequence from index {d.start}"

def checkFrom (start : Nat) : Nat → List Nat → Except Damage (List Char)
  | 0, _ => .ok []
  | _, [] => .ok []
  | fuel + 1, b :: s =>
    match lead b s with
    | .char c rest => (checkFrom (start + (s.length + 1 - rest.length)) fuel rest).map (c :: ·)
    | .broken count => .error ⟨start, some count⟩
    | .cut => .error ⟨start, none⟩

def text (s : List Nat) : Except Damage (List Char) := checkFrom 0 s.length s

def replacement : Char := '\uFFFD'

def lossyFrom : Nat → List Nat → List Char
  | 0, _ => []
  | _, [] => []
  | fuel + 1, b :: s =>
    match lead b s with
    | .char c rest => c :: lossyFrom fuel rest
    | .broken count => replacement :: lossyFrom fuel (s.drop (count - 1))
    | .cut => [replacement]

def lossyText (s : List Nat) : List Char := lossyFrom s.length s

end Coalesce.Address
