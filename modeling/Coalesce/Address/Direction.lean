import Coalesce.Text.Alphanumeric
import Coalesce.Text.Invisible
import Coalesce.Text.Mark

/-! The directions in which characters are written. A name with characters that are written from
right to left keeps to one direction in each of its labels. -/
namespace Coalesce.Address

inductive Direction where
  | left
  | right
  | number
  | arabicNumber
  | mark
  | neutral
  deriving DecidableEq

namespace Direction

def arabicNumbers : Text.Ranges := #[
  (0x600, 0x605), (0x660, 0x669), (0x66b, 0x66c), (0x6dd, 0x6dd), (0x890, 0x891),
  (0x8e2, 0x8e2), (0x10d30, 0x10d39), (0x10d40, 0x10d49), (0x10e60, 0x10e7e)]

def neutralInBlocks : Text.Ranges := #[
  (0x606, 0x607), (0x609, 0x60a), (0x60c, 0x60c), (0x60e, 0x60f), (0x66a, 0x66a),
  (0x6de, 0x6de), (0x6e9, 0x6e9), (0x7f6, 0x7f9), (0xfb29, 0xfb29), (0xfd3e, 0xfd4f),
  (0xfdcf, 0xfdcf), (0xfdfd, 0xfdff), (0x1091f, 0x1091f), (0x10b39, 0x10b3f),
  (0x10d6e, 0x10d6e), (0x10ed0, 0x10ed8), (0x1eef0, 0x1eef1)]

def rightBlocks : Text.Ranges := #[
  (0x590, 0x8ff), (0xfb1d, 0xfdff), (0xfe70, 0xfeff), (0x10800, 0x10fff), (0x1e800, 0x1efff)]

def ofChar (c : Char) : Direction :=
  let n := c.toNat
  if n < 0x80 then if c.isAlpha then .left else if c.isDigit then .number else .neutral
  else if Text.isMark c && Text.isInvisible c then .mark
  else if arabicNumbers.contains n then .arabicNumber
  else if 0x6f0 ≤ n ∧ n ≤ 0x6f9 then .number
  else if neutralInBlocks.contains n then .neutral
  else if rightBlocks.contains n then .right
  else if Text.isAlphanumeric c then .left
  else .neutral

def isRightward (d : Direction) : Bool := d = .right || d = .arabicNumber

def ending (ds : List Direction) : Option Direction := (ds.reverse.dropWhile (· = .mark)).head?

/-- A label starts with a letter and ends with a letter or a number. One from right to left holds
no letters from left to right and numbers of one kind only. -/
def isLabel (ds : List Direction) : Bool :=
  match ds with
  | [] => true
  | .right :: _ =>
    !ds.contains .left && !(ds.contains .number && ds.contains .arabicNumber) &&
      (ending ds).any fun d => d = .right || d = .number || d = .arabicNumber
  | .left :: _ => !ds.any isRightward && (ending ds).any fun d => d = .left || d = .number
  | _ => false

def agree (labels : List (List Char)) : Bool :=
  let directions := labels.map fun label => label.map ofChar
  !directions.any (·.any isRightward) || directions.all isLabel

end Direction

/-- Marks that bind a letter to the next one; behind them a joiner changes the form of letters. -/
def binding : Text.Ranges := #[
  (0x94d, 0x94d), (0x9cd, 0x9cd), (0xa4d, 0xa4d), (0xacd, 0xacd), (0xb4d, 0xb4d), (0xbcd, 0xbcd),
  (0xc4d, 0xc4d), (0xccd, 0xccd), (0xd3b, 0xd3c), (0xd4d, 0xd4d), (0xdca, 0xdca), (0xe3a, 0xe3a),
  (0xeba, 0xeba), (0xf84, 0xf84), (0x1039, 0x103a), (0x1714, 0x1715), (0x1734, 0x1734),
  (0x17d2, 0x17d2), (0x1a60, 0x1a60), (0x1b44, 0x1b44), (0x1baa, 0x1bab), (0x1bf2, 0x1bf3),
  (0x2d7f, 0x2d7f), (0xa806, 0xa806), (0xa82c, 0xa82c), (0xa8c4, 0xa8c4), (0xa953, 0xa953),
  (0xa9c0, 0xa9c0), (0xaaf6, 0xaaf6), (0xabed, 0xabed), (0x10a3f, 0x10a3f), (0x11046, 0x11046),
  (0x11070, 0x11070), (0x1107f, 0x1107f), (0x110b9, 0x110b9), (0x11133, 0x11134),
  (0x111c0, 0x111c0), (0x11235, 0x11235), (0x112ea, 0x112ea), (0x1134d, 0x1134d),
  (0x113ce, 0x113d0), (0x11442, 0x11442), (0x114c2, 0x114c2), (0x115bf, 0x115bf),
  (0x1163f, 0x1163f), (0x116b6, 0x116b6), (0x1172b, 0x1172b), (0x11839, 0x11839),
  (0x1193d, 0x1193e), (0x119e0, 0x119e0), (0x11a34, 0x11a34), (0x11a47, 0x11a47),
  (0x11a99, 0x11a99), (0x11c3f, 0x11c3f), (0x11d44, 0x11d45), (0x11d97, 0x11d97),
  (0x11f41, 0x11f42), (0x1612f, 0x1612f)]

def isJoiner (c : Char) : Bool := c.toNat = 0x200c || c.toNat = 0x200d

def joins (before : Option Char) : List Char → Bool
  | [] => true
  | c :: s => (!isJoiner c || before.any fun b => binding.contains b.toNat) && joins (some c) s

end Coalesce.Address
