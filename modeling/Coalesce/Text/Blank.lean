/-! Blank characters: the code points that have the White_Space property. -/
namespace Coalesce.Text

def isBlank (c : Char) : Bool :=
  let n := c.toNat
  (0x9 ≤ n && n ≤ 0xd) || n == 0x20 || n == 0x85 || n == 0xa0 || n == 0x1680 ||
    (0x2000 ≤ n && n ≤ 0x200a) || n == 0x2028 || n == 0x2029 || n == 0x202f || n == 0x205f ||
    n == 0x3000

def dropBlank (s : List Char) : List Char := s.dropWhile isBlank

def trim (s : List Char) : List Char := (dropBlank (dropBlank s).reverse).reverse

end Coalesce.Text
