import Coalesce.Json.Basic

/-! Reading JSON text. A fault is placed by the bytes that are left after it, which fixes its line
and column in the whole text. At most 127 containers may be open at once. -/
namespace Coalesce.Json

inductive Flaw where
  | endInValue
  | endInString
  | endInList
  | endInObject
  | expectedKeyword
  | expectedValue
  | expectedColon
  | expectedListSeparator
  | expectedObjectSeparator
  | trailingComma
  | trailingCharacters
  | keyNotString
  | invalidNumber
  | numberOutOfRange
  | controlCharacter
  | invalidEscape
  | loneSurrogate
  | unexpectedEndOfHexEscape
  | tooDeep
  deriving DecidableEq

def Flaw.message : Flaw → String
  | .endInValue => "EOF while parsing a value"
  | .endInString => "EOF while parsing a string"
  | .endInList => "EOF while parsing a list"
  | .endInObject => "EOF while parsing an object"
  | .expectedKeyword => "expected ident"
  | .expectedValue => "expected value"
  | .expectedColon => "expected \x60:\x60"
  | .expectedListSeparator => "expected \x60,\x60 or \x60]\x60"
  | .expectedObjectSeparator => "expected \x60,\x60 or \x60\x7d\x60"
  | .trailingComma => "trailing comma"
  | .trailingCharacters => "trailing characters"
  | .keyNotString => "key must be a string"
  | .invalidNumber => "invalid number"
  | .numberOutOfRange => "number out of range"
  | .controlCharacter => "control character (\\u0000-\\u001F) found while parsing a string"
  | .invalidEscape => "invalid escape"
  | .loneSurrogate => "lone leading surrogate in hex escape"
  | .unexpectedEndOfHexEscape => "unexpected end of hex escape"
  | .tooDeep => "recursion limit exceeded"

/-- A flaw and the number of bytes behind the place where it shows. -/
structure Fault where
  flaw : Flaw
  left : Nat
  deriving DecidableEq

def byteLength : List Char → Nat
  | [] => 0
  | c :: s => c.utf8Size + byteLength s

def failBefore {α : Type} (flaw : Flaw) (s : List Char) : Except Fault α :=
  .error ⟨flaw, byteLength s⟩

/-- A fault that shows one byte into `s`, or at the end of the text. -/
def failInto {α : Type} (flaw : Flaw) (s : List Char) : Except Fault α :=
  .error ⟨flaw, byteLength s - 1⟩

def isSpace (c : Char) : Bool := c = ' ' || c = '\n' || c = '\t' || c = '\r'

def skipSpace (s : List Char) : List Char := s.dropWhile isSpace

def isDigit (c : Char) : Bool := '0' ≤ c && c ≤ '9'

def digitValue (c : Char) : Nat := c.toNat - 48

def digitsValue (ds : List Char) : Nat := ds.foldl (fun n c => 10 * n + digitValue c) 0

def hexValue? (c : Char) : Option Nat :=
  if isDigit c then some (c.toNat - 48)
  else if 'a' ≤ c && c ≤ 'f' then some (c.toNat - 87)
  else if 'A' ≤ c && c ≤ 'F' then some (c.toNat - 55)
  else none

/-! Keywords are read character by character after the first. -/

def readKeyword (value : Json) : List Char → List Char → Except Fault (Json × List Char)
  | [], s => .ok (value, s)
  | _ :: _, [] => failBefore .endInValue []
  | k :: ks, c :: s => if c = k then readKeyword value ks s else failInto .expectedKeyword (c :: s)

/-! Numbers. -/

/-- The bytes left behind the digit with which an exponent passes the largest signed word of 32
bits, if one of them does. -/
def exponentPasses (value : Nat) (rest : List Char) : List Char → Option Nat
  | [] => none
  | d :: ds =>
    let value := 10 * value + digitValue d
    if 2147483647 < value then some (byteLength (ds ++ rest))
    else exponentPasses value rest ds

def floatOf (negative : Bool) (digits : Nat) (exponent : Int) (rest : List Char) :
    Except Fault (Json × List Char) :=
  match Binary64.ofLiteral? negative digits exponent with
  | some x => .ok (.float x, rest)
  | none => failBefore .numberOutOfRange rest

/-- Appends digits to a number as long as it fits a word of 64 bits, and counts those left over. -/
def gather (n : Nat) : List Char → Nat × Nat
  | [] => (n, 0)
  | d :: ds =>
    let next := 10 * n + digitValue d
    if 18446744073709551615 < next then (n, ds.length + 1) else gather next ds

def readExponent (negative : Bool) (digits : Nat) (scale : Int) (s : List Char) :
    Except Fault (Json × List Char) :=
  let (down, s) : Bool × List Char := match s with
    | '+' :: r => (false, r)
    | '-' :: r => (true, r)
    | _ => (false, s)
  match s with
  | [] => failBefore .endInValue []
  | c :: _ =>
    if isDigit c then
      let ds := s.takeWhile isDigit
      let rest := s.dropWhile isDigit
      let value : Int := digitsValue ds
      match exponentPasses 0 rest ds with
      | some left =>
        if digits ≠ 0 ∧ down = false then .error ⟨.numberOutOfRange, left⟩
        else .ok (.float (.zero negative), rest)
      | none => floatOf negative digits (scale + if down then -value else value) rest
    else failInto .invalidNumber s

/-- After the integer part. Digits that are passed over in the integer part make the others count
for more, those passed over in the fraction do not. -/
def readFraction (negative : Bool) (whole : List Char) (s : List Char) :
    Except Fault (Json × List Char) :=
  let (digits, surplus) := gather 0 whole
  match s with
  | '.' :: s =>
    let ds := s.takeWhile isDigit
    let rest := s.dropWhile isDigit
    if ds = [] then
      if s = [] then failBefore .endInValue [] else failInto .invalidNumber s
    else
      let (digits, dropped) := gather digits ds
      let scale : Int := surplus + dropped - ds.length
      match rest with
      | 'e' :: r => readExponent negative digits scale r
      | 'E' :: r => readExponent negative digits scale r
      | _ => floatOf negative digits scale rest
  | 'e' :: r => readExponent negative digits surplus r
  | 'E' :: r => readExponent negative digits surplus r
  | _ =>
    let n := digitsValue whole
    if negative ∧ n = 0 then .ok (.float (.zero true), s)
    else match Integer.ofInt? (if negative then -n else n) with
      | some i => .ok (.int i, s)
      | none => floatOf negative digits surplus s

def readMagnitude (negative : Bool) (s : List Char) : Except Fault (Json × List Char) :=
  match s with
  | [] => failBefore .endInValue []
  | '0' :: r =>
    match r with
    | c :: _ => if isDigit c then failInto .invalidNumber r else readFraction negative ['0'] r
    | [] => readFraction negative ['0'] r
  | c :: _ =>
    if isDigit c then readFraction negative (s.takeWhile isDigit) (s.dropWhile isDigit)
    else failInto .invalidNumber s

def readNumber : List Char → Except Fault (Json × List Char)
  | '-' :: s => readMagnitude true s
  | s => readMagnitude false s

/-! Strings. -/

def readHex4 (s : List Char) : Except Fault (Nat × List Char) :=
  match s with
  | a :: b :: c :: d :: rest =>
    match hexValue? a, hexValue? b, hexValue? c, hexValue? d with
    | some a, some b, some c, some d => .ok (((a * 16 + b) * 16 + c) * 16 + d, rest)
    | _, _, _, _ => .error ⟨.invalidEscape, byteLength s - 4⟩
  | _ =>
    if byteLength s < 4 then failBefore .endInString []
    else .error ⟨.invalidEscape, byteLength s - 4⟩

def isHighSurrogate (n : Nat) : Bool := 0xd800 ≤ n && n ≤ 0xdbff

def isLowSurrogate (n : Nat) : Bool := 0xdc00 ≤ n && n ≤ 0xdfff

/-- After the letter of a hexadecimal escape; surrogates stand for a character only in pairs. -/
def readUnicode (s : List Char) : Except Fault (Char × List Char) := do
  let (n, s) ← readHex4 s
  if isLowSurrogate n then failBefore .loneSurrogate s
  else if isHighSurrogate n then
    match s with
    | [] => failBefore .endInString []
    | '\\' :: t =>
      match t with
      | [] => failBefore .endInString []
      | 'u' :: t =>
        let (m, t) ← readHex4 t
        if isLowSurrogate m then
          .ok (Char.ofNat (0x10000 + (n - 0xd800) * 0x400 + (m - 0xdc00)), t)
        else failBefore .loneSurrogate t
      | _ => failInto .unexpectedEndOfHexEscape t
    | _ => failInto .unexpectedEndOfHexEscape s
  else .ok (Char.ofNat n, s)

def readEscape (s : List Char) : Except Fault (Char × List Char) :=
  match s with
  | [] => failBefore .endInString []
  | '"' :: r => .ok ('"', r)
  | '\\' :: r => .ok ('\\', r)
  | '/' :: r => .ok ('/', r)
  | 'b' :: r => .ok ('\x08', r)
  | 'f' :: r => .ok ('\x0c', r)
  | 'n' :: r => .ok ('\n', r)
  | 'r' :: r => .ok ('\r', r)
  | 't' :: r => .ok ('\t', r)
  | 'u' :: r => readUnicode r
  | _ => failInto .invalidEscape s

def readChars : Nat → List Char → Except Fault (List Char × List Char)
  | 0, s => failBefore .endInString s
  | fuel + 1, s =>
    match s with
    | [] => failBefore .endInString []
    | '"' :: rest => .ok ([], rest)
    | '\\' :: rest => do
      let (c, rest) ← readEscape rest
      let (cs, rest) ← readChars fuel rest
      .ok (c :: cs, rest)
    | c :: rest =>
      if c.toNat < 0x20 then failBefore .controlCharacter rest
      else do
        let (cs, rest) ← readChars fuel rest
        .ok (c :: cs, rest)

def readString (s : List Char) : Except Fault (String × List Char) := do
  let (cs, rest) ← readChars (s.length + 1) s
  .ok (String.ofList cs, rest)

/-! Values. A character that is consumed pays for two steps, and `room` is the number of containers
that may still be opened. -/

mutual

def readValue (room : Nat) : Nat → List Char → Except Fault (Json × List Char)
  | 0, s => failBefore .endInValue s
  | fuel + 1, s =>
    match skipSpace s with
    | [] => failBefore .endInValue []
    | 'n' :: r => readKeyword .null ['u', 'l', 'l'] r
    | 't' :: r => readKeyword (.bool true) ['r', 'u', 'e'] r
    | 'f' :: r => readKeyword (.bool false) ['a', 'l', 's', 'e'] r
    | '"' :: r => do
      let (text, r) ← readString r
      .ok (.str text, r)
    | '[' :: r =>
      match room with
      | 0 => failInto .tooDeep ('[' :: r)
      | room + 1 =>
        match skipSpace r with
        | [] => failBefore .endInList []
        | ']' :: r => .ok (.arr [], r)
        | r => do
          let (items, r) ← readItems room fuel r
          .ok (.arr items, r)
    | '{' :: r =>
      match room with
      | 0 => failInto .tooDeep ('{' :: r)
      | room + 1 =>
        match skipSpace r with
        | [] => failBefore .endInObject []
        | '}' :: r => .ok (.obj [], r)
        | r => do
          let (members, r) ← readMembers room fuel r
          .ok (.obj (Table.ofList members), r)
    | c :: r =>
      if c = '-' || isDigit c then readNumber (c :: r) else failInto .expectedValue (c :: r)

def readItems (room : Nat) : Nat → List Char → Except Fault (List Json × List Char)
  | 0, s => failBefore .endInValue s
  | fuel + 1, s => do
    let (v, s) ← readValue room fuel s
    match skipSpace s with
    | [] => failBefore .endInList []
    | ']' :: s => .ok ([v], s)
    | ',' :: s =>
      match skipSpace s with
      | ']' :: s => failInto .trailingComma (']' :: s)
      | s => do
        let (vs, s) ← readItems room fuel s
        .ok (v :: vs, s)
    | s => failInto .expectedListSeparator s

def readMembers (room : Nat) :
    Nat → List Char → Except Fault (List (String × Json) × List Char)
  | 0, s => failBefore .endInValue s
  | fuel + 1, s =>
    match s with
    | [] => failBefore .endInValue []
    | '"' :: s => do
      let (key, s) ← readString s
      match skipSpace s with
      | [] => failBefore .endInObject []
      | ':' :: s => do
        let (v, s) ← readValue room fuel s
        match skipSpace s with
        | [] => failBefore .endInObject []
        | '}' :: s => .ok ([(key, v)], s)
        | ',' :: s =>
          match skipSpace s with
          | '}' :: s => failInto .trailingComma ('}' :: s)
          | s => do
            let (ms, s) ← readMembers room fuel s
            .ok ((key, v) :: ms, s)
        | s => failInto .expectedObjectSeparator s
      | s => failInto .expectedColon s
    | s => failInto .keyNotString s

end

def maxDepth : Nat := 127

def readAll (s : List Char) : Except Fault Json := do
  let (v, rest) ← readValue maxDepth (2 * s.length + 2) s
  match skipSpace rest with
  | [] => .ok v
  | rest => failInto .trailingCharacters rest

def place : Nat → List Char → Nat → Nat → Nat × Nat
  | _, [], line, column => (line, column)
  | offset, c :: s, line, column =>
    if offset < c.utf8Size then (line, column + offset)
    else if c = '\n' then place (offset - 1) s (line + 1) 0
    else place (offset - c.utf8Size) s line (column + c.utf8Size)

def placed (what : String) (left : Nat) (text : List Char) : String :=
  let (line, column) := place (byteLength text - left) text 1 0
  s!"{what} at line {line} column {column}"

def Fault.message (fault : Fault) (text : List Char) : String :=
  placed fault.flaw.message fault.left text

def parse (text : String) : Except String Json :=
  match readAll text.toList with
  | .ok v => .ok v
  | .error fault => .error (fault.message text.toList)

end Coalesce.Json
