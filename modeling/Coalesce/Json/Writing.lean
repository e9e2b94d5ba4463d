import Coalesce.Json.Basic
import Coalesce.Text.Quoted

/-! JSON text. Each writer puts its text in front of the text that follows, so that reading can be
stated for a value with any rest. -/
namespace Coalesce.Json

def padHex (n : Nat) : List Char :=
  [Text.hexDigit (n / 16 % 16), Text.hexDigit (n % 16)]

/-- Only the quote, the backslash and the control characters below the space are escaped. -/
def escapeChar (c : Char) : List Char :=
  if c = '"' then ['\\', '"']
  else if c = '\\' then ['\\', '\\']
  else if c = '\x08' then ['\\', 'b']
  else if c = '\t' then ['\\', 't']
  else if c = '\n' then ['\\', 'n']
  else if c = '\x0c' then ['\\', 'f']
  else if c = '\r' then ['\\', 'r']
  else if c.toNat < 0x20 then ['\\', 'u', '0', '0'] ++ padHex c.toNat
  else [c]

def writeChars : List Char → List Char → List Char
  | [], rest => '"' :: rest
  | c :: cs, rest => escapeChar c ++ writeChars cs rest

def writeString (s : String) (rest : List Char) : List Char := '"' :: writeChars s.toList rest

def writeInt (n : Int) (rest : List Char) : List Char :=
  if n < 0 then '-' :: (Decimal.digitChars n.natAbs ++ rest)
  else Decimal.digitChars n.natAbs ++ rest

mutual

def write : Json → List Char → List Char
  | .null, rest => 'n' :: 'u' :: 'l' :: 'l' :: rest
  | .bool true, rest => 't' :: 'r' :: 'u' :: 'e' :: rest
  | .bool false, rest => 'f' :: 'a' :: 'l' :: 's' :: 'e' :: rest
  | .int n, rest => writeInt n.val rest
  | .float x, rest => x.write ++ rest
  | .str s, rest => writeString s rest
  | .arr [], rest => '[' :: ']' :: rest
  | .arr (v :: vs), rest => '[' :: write v (writeItems vs rest)
  | .obj [], rest => '{' :: '}' :: rest
  | .obj ((k, v) :: ms), rest => '{' :: writeString k (':' :: write v (writeMembers ms rest))

def writeItems : List Json → List Char → List Char
  | [], rest => ']' :: rest
  | v :: vs, rest => ',' :: write v (writeItems vs rest)

def writeMembers : List (String × Json) → List Char → List Char
  | [], rest => '}' :: rest
  | (k, v) :: ms, rest => ',' :: writeString k (':' :: write v (writeMembers ms rest))

end

def compact (v : Json) : String := String.ofList (write v [])

def newline (indent : Nat) (rest : List Char) : List Char :=
  '\n' :: (List.replicate (2 * indent) ' ' ++ rest)

mutual

def writeIndented (indent : Nat) : Json → List Char → List Char
  | .arr (v :: vs), rest =>
    '[' :: newline (indent + 1)
      (writeIndented (indent + 1) v (writeIndentedItems indent vs rest))
  | .obj ((k, v) :: ms), rest =>
    '{' :: newline (indent + 1) (writeString k (':' :: ' ' ::
      writeIndented (indent + 1) v (writeIndentedMembers indent ms rest)))
  | v, rest => write v rest

def writeIndentedItems (indent : Nat) : List Json → List Char → List Char
  | [], rest => newline indent (']' :: rest)
  | v :: vs, rest =>
    ',' :: newline (indent + 1) (writeIndented (indent + 1) v (writeIndentedItems indent vs rest))

def writeIndentedMembers (indent : Nat) : List (String × Json) → List Char → List Char
  | [], rest => newline indent ('}' :: rest)
  | (k, v) :: ms, rest =>
    ',' :: newline (indent + 1) (writeString k (':' :: ' ' ::
      writeIndented (indent + 1) v (writeIndentedMembers indent ms rest)))

end

def pretty (v : Json) : String := String.ofList (writeIndented 0 v [])

end Coalesce.Json
