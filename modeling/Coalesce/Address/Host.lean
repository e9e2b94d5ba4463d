import Coalesce.Address.Bytes
import Coalesce.Text.Invisible

/-! Hosts of addresses: names, and numbers of four or sixteen bytes. -/
namespace Coalesce

inductive Host where
  | name (text : String)
  | four (value : Nat)
  | sixteen (pieces : List Nat)
  deriving DecidableEq

inductive AddressFault where
  | noScheme
  | emptyHost
  | port
  | fourBytes
  | sixteenBytes
  | hostCharacter
  | internationalName
  deriving DecidableEq

def AddressFault.message : AddressFault → String
  | .noScheme => "relative URL without a base"
  | .emptyHost => "empty host"
  | .port => "invalid port number"
  | .fourBytes => "invalid IPv4 address"
  | .sixteenBytes => "invalid IPv6 address"
  | .hostCharacter => "invalid domain character"
  | .internationalName => "invalid international domain name"

namespace Host

def digits? (radix : Nat) (s : List Char) : Option Nat :=
  s.foldlM (fun n c =>
    match Address.hexValue? c.toNat with
    | some d => if d < radix then some (radix * n + d) else none
    | none => none) 0

/-! Four bytes: one to four numbers between points, the last of which fills the bytes that the
others leave. -/

def split (mark : Char) (s : List Char) : List (List Char) :=
  s.foldr (fun c parts =>
    if c = mark then [] :: parts
    else match parts with
      | part :: rest => (c :: part) :: rest
      | [] => [[c]]) [[]]

/-- Decimal, or octal behind a zero, or hexadecimal behind a zero and an x. -/
def number? : List Char → Option Nat
  | [] => none
  | '0' :: 'x' :: s => digits? 16 s
  | '0' :: 'X' :: s => digits? 16 s
  | '0' :: s => digits? 8 s
  | s => digits? 10 s

def parts (s : List Char) : List (List Char) :=
  match (split '.' s).reverse with
  | [] :: rest => rest.reverse
  | rest => rest.reverse

/-- Names that end in a number are taken for numbers. -/
def endsInNumber (s : List Char) : Bool :=
  match (parts s).getLast? with
  | none => false
  | some last =>
    (!last.isEmpty && last.all Char.isDigit) || (number? last).isSome

def fourBytes? (s : List Char) : Option Nat := do
  let numbers ← (parts s).mapM number?
  let (last, before) ← match numbers.reverse with
    | last :: before => some (last, before.reverse)
    | [] => none
  if 4 < numbers.length ∨ before.any (255 < ·) ∨ Nat.pow 256 (4 - before.length) ≤ last then none
  else some (before.zipIdx.foldl (fun n (b, i) => n + b * Nat.pow 256 (3 - i)) last)

/-! Sixteen bytes: eight pieces of up to four hexadecimal digits between colons. Two colons stand
for as many zeros as are missing, and the last two pieces may be four decimal numbers. -/

structure Pieces where
  read : List Nat
  gap : Option Nat

def Pieces.add (p : Pieces) (value : Nat) : Pieces := { p with read := p.read ++ [value] }

def Pieces.open? (p : Pieces) : Option Pieces :=
  if p.gap.isSome then none else some ⟨p.read, some p.read.length⟩

/-- A gap takes up the room of one piece at least. -/
def Pieces.used (p : Pieces) : Nat := p.read.length + if p.gap.isSome then 1 else 0

def Pieces.finish? (p : Pieces) : Option (List Nat) :=
  match p.gap with
  | some before =>
    some (p.read.take before ++ List.replicate (8 - p.read.length) 0 ++ p.read.drop before)
  | none => if p.read.length = 8 then some p.read else none

def decimalByte? (s : List Char) : Option Nat :=
  match s with
  | [] => none
  | '0' :: _ :: _ => none
  | s => (digits? 10 s).bind fun n => if n ≤ 255 then some n else none

def Pieces.decimals? (p : Pieces) (s : List Char) : Option Pieces :=
  match (split '.' s).mapM decimalByte? with
  | some [a, b, c, d] => if 6 < p.used then none else some ((p.add (256 * a + b)).add (256 * c + d))
  | _ => none

def isHexChar (c : Char) : Bool := (Address.hexValue? c.toNat).isSome

def pieces? : Nat → Pieces → List Char → Option Pieces
  | 0, _, _ => none
  | _, p, [] => some p
  | fuel + 1, p, c :: s =>
    if p.used = 8 then none
    else if c = ':' then do pieces? fuel (← p.open?) s
    else
      let digits := ((c :: s).take 4).takeWhile isHexChar
      match (c :: s).drop digits.length with
      | [] => (digits? 16 digits).map p.add
      | ':' :: r =>
        if r = [] then none else do pieces? fuel (p.add (← digits? 16 digits)) r
      | '.' :: _ => if digits = [] then none else p.decimals? (c :: s)
      | _ => none

def sixteenBytes? (s : List Char) : Option (List Nat) := do
  let p ← match s with
    | ':' :: ':' :: r => pieces? (s.length + 1) ⟨[], some 0⟩ r
    | ':' :: _ => none
    | s => pieces? (s.length + 1) ⟨[], none⟩ s
  p.finish?

def bracketed (s : List Char) : Except AddressFault Host :=
  match s.reverse with
  | ']' :: r =>
    match sixteenBytes? r.reverse with
    | some pieces => .ok (.sixteen pieces)
    | none => .error .sixteenBytes
  | _ => .error .sixteenBytes

/-! Names that are not looked into may hold everything but the marks of an address. -/

def isOpaqueMark (c : Char) : Bool := "\x00\t\n\r #/:<>?@[\\]^|".toList.contains c

def ofOpaque (s : List Char) : Except AddressFault Host :=
  match s with
  | '[' :: r => bracketed r
  | s => if s.any isOpaqueMark then .error .hostCharacter else .ok (.name (String.ofList s))

end Host
end Coalesce
