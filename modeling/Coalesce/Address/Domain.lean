import Coalesce.Address.Direction
import Coalesce.Address.Forms
import Coalesce.Address.Host
import Coalesce.Address.Punycode
import Coalesce.Address.Variants

/-! Domain names. Case does not count in them, nor does the form of an ASCII character; labels
beyond ASCII may be written in ASCII. -/
namespace Coalesce.Address.Domain

/-- Characters that stand for several, among them one that no name may hold, or for none at all. -/
def compound : Text.Ranges := #[
  (0xa8, 0xa8), (0xaf, 0xaf), (0xb4, 0xb4), (0xb8, 0xb8), (0x2d8, 0x2dd), (0x37a, 0x37a),
  (0x384, 0x385), (0x1806, 0x1806), (0x1fbd, 0x1fbd), (0x1fbf, 0x1fc1), (0x1fcd, 0x1fcf),
  (0x1fdd, 0x1fdf), (0x1fed, 0x1fee), (0x1ffd, 0x1ffe), (0x2017, 0x2017), (0x2024, 0x2026),
  (0x203e, 0x203e), (0x2047, 0x2049), (0x2100, 0x2101), (0x2105, 0x2106), (0x2488, 0x249b),
  (0x2a74, 0x2a74), (0x2ff0, 0x2fff), (0x309b, 0x309c), (0x31ef, 0x31ef), (0x33c2, 0x33c2),
  (0x33c7, 0x33c7), (0x33d8, 0x33d8), (0xfc5e, 0xfc63), (0xfdfa, 0xfdfb), (0xfe12, 0xfe13),
  (0xfe16, 0xfe16), (0xfe19, 0xfe19), (0xfe30, 0xfe30), (0xfe47, 0xfe4c), (0xfe52, 0xfe52),
  (0xfe55, 0xfe56), (0xfe5f, 0xfe5f), (0xfe64, 0xfe65), (0xfe68, 0xfe68), (0xfe6a, 0xfe6b),
  (0xfe70, 0xfe70), (0xfe72, 0xfe72), (0xfe74, 0xfe74), (0xfe76, 0xfe76), (0xfe78, 0xfe78),
  (0xfe7a, 0xfe7a), (0xfe7c, 0xfe7c), (0xfe7e, 0xfe7e), (0xffe3, 0xffe3), (0xfffc, 0xfffd),
  (0x1f100, 0x1f100)]

def fullStops : List Nat := [0x3002, 0xff61]

def dropped : Text.Ranges := #[
  (0xad, 0xad), (0x34f, 0x34f), (0x180b, 0x180d), (0x180f, 0x180f), (0x200b, 0x200b),
  (0x2060, 0x2060), (0x2064, 0x2064), (0xfe00, 0xfe0f), (0xfeff, 0xfeff), (0x1bca0, 0x1bca3),
  (0xe0100, 0xe01ef)]

def isLabelChar (c : Char) : Bool :=
  isJoiner c || (!compound.contains c.toNat && (Text.isMark c || !Text.isInvisible c))

/-- What a character counts as: forms of ASCII as ASCII, and its capital letters as small ones. The
variants beyond ASCII are kept, as no other part of a name hangs on them. -/
def fold? (c : Char) : Option (List Char) :=
  let n := c.toNat
  if n < 0x80 then some [c.toLower]
  else if fullStops.contains n then some ['.']
  else if 0xff01 ≤ n ∧ n ≤ 0xff5e then some [(Char.ofNat (n - 0xfee0)).toLower]
  else if dropped.contains n then some []
  else match (form? n).map ([·]) |>.or (circled? n) with
    | some plain => some plain
    | none => if isLabelChar c then some [c] else none

def isRefused (c : Char) : Bool :=
  c.toNat ≤ 0x20 || c.toNat = 0x7f || "%#/:<>?@[\\]^|".toList.contains c

def isEncoded (label : List Char) : Bool := label.take 4 = ['x', 'n', '-', '-']

/-- A decoded label holds something beyond ASCII, and nothing that would have been folded. -/
def isDecodedLabel (label : List Char) : Bool :=
  label.any (0x80 ≤ ·.toNat) && label.all fun c => fold? c = some [c] && !isVariant c

def label? (label : List Char) : Option (List Char) :=
  if isEncoded label then
    (Punycode.decode? (label.drop 4)).bind fun decoded =>
      if isDecodedLabel decoded then some decoded else none
  else some label

def isLabel (label : List Char) : Bool := !label.head?.any Text.isMark && joins none label

def read? (s : List Nat) : Option (List Char) := do
  let chars ← (Address.text s).toOption
  let folded ← chars.mapM fold?
  let name := folded.flatten
  let labels ← (Host.split '.' name).mapM label?
  if !name.any isRefused && labels.all isLabel && Direction.agree labels then some name else none

end Coalesce.Address.Domain

namespace Coalesce.Host

def ofName (s : List Char) : Except AddressFault Host :=
  match Address.Domain.read? (Address.unescape (Address.bytes s)) with
  | none => .error .internationalName
  | some [] => .error .emptyHost
  | some chars =>
    if endsInNumber chars then
      match fourBytes? chars with
      | some value => .ok (.four value)
      | none => .error .fourBytes
    else .ok (.name (String.ofList chars))

def read (s : List Char) : Except AddressFault Host :=
  match s with
  | '[' :: r => bracketed r
  | s => ofName s

end Coalesce.Host
