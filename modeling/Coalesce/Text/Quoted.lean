import Coalesce.Text.Invisible

/-! Text shown between double quotes in messages: the quote and the backslash are escaped, and a
character that cannot be seen is shown by its code point. -/
namespace Coalesce.Text

def hexDigit (n : Nat) : Char :=
  if n < 10 then Char.ofNat (48 + n) else Char.ofNat (87 + n)

def hex (n : Nat) : List Char :=
  if n < 16 then [hexDigit n] else hex (n / 16) ++ [hexDigit (n % 16)]
termination_by n

def quoteChar (c : Char) : List Char :=
  if c = '"' then ['\\', '"']
  else if c = '\\' then ['\\', '\\']
  else if c = '\n' then ['\\', 'n']
  else if c = '\r' then ['\\', 'r']
  else if c = '\t' then ['\\', 't']
  else if c = '\x00' then ['\\', '0']
  else if isInvisible c then ['\\', 'u', '{'] ++ hex c.toNat ++ ['}']
  else [c]

def quoteChars (s : List Char) : List Char := '"' :: (s.flatMap quoteChar ++ ['"'])

def quote (s : String) : String := String.ofList (quoteChars s.toList)

def bracketed (items : List String) : String := "[" ++ ", ".intercalate items ++ "]"

def record (name : String) (fields : List (String × String)) : String :=
  let inside := ", ".intercalate (fields.map fun (field, text) => field ++ ": " ++ text)
  name ++ " \x7b " ++ inside ++ " \x7d"

/-- A record that has more fields than it shows. -/
def openRecord (name : String) (fields : List (String × String)) : String :=
  let inside := ", ".intercalate (fields.map fun (field, text) => field ++ ": " ++ text)
  name ++ " \x7b " ++ inside ++ ", .. \x7d"

def optional (text : Option String) : String :=
  match text with
  | some t => "Some(" ++ t ++ ")"
  | none => "None"

end Coalesce.Text
