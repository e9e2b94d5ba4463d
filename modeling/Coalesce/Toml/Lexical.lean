import Coalesce.Json.Reading
import Coalesce.Time.Timestamp
import Coalesce.Toml.Value

/-! The words of TOML: blanks, comments, keys, strings, numbers and date-times. Each reader takes
its word from the front of the text and gives back the rest. -/
namespace Coalesce.Toml

open Json (isDigit digitsValue hexValue?)

def isBlank (c : Char) : Bool := c = ' ' || c = '\t'

def skipBlank (s : List Char) : List Char := s.dropWhile isBlank

def isPlain (c : Char) : Bool := c = '\t' || (0x20 ≤ c.toNat && c.toNat ≠ 0x7f)

def lineEnd? : List Char → Option (List Char)
  | '\n' :: s => some s
  | '\r' :: '\n' :: s => some s
  | _ => none

def skipComment : List Char → List Char
  | '#' :: s => s.dropWhile isPlain
  | s => s

def finishLine (s : List Char) : Option (List Char) :=
  match skipComment (skipBlank s) with
  | [] => some []
  | s => lineEnd? s

def skipLines : Nat → List Char → List Char
  | 0, s => s
  | fuel + 1, s =>
    let s := skipBlank s
    match lineEnd? s with
    | some rest => skipLines fuel rest
    | none =>
      match s with
      | '#' :: _ =>
        match lineEnd? (skipComment s) with
        | some rest => skipLines fuel rest
        | none => s
      | _ => s

/-! Strings. -/

def scalar? (n : Nat) : Option Char :=
  if n < 0xd800 ∨ (0xdfff < n ∧ n < 0x110000) then some (Char.ofNat n) else none

def hexOf? (ds : List Char) : Option Nat :=
  ds.foldl (fun n c => do some (16 * (← n) + (← hexValue? c))) (some 0)

def unicodeEscape? (width : Nat) (s : List Char) : Option (Char × List Char) := do
  let ds := s.take width
  if ds.length = width then some (← scalar? (← hexOf? ds), s.drop width) else none

def escape? : List Char → Option (Char × List Char)
  | 'b' :: s => some ('\x08', s)
  | 't' :: s => some ('\t', s)
  | 'n' :: s => some ('\n', s)
  | 'f' :: s => some ('\x0c', s)
  | 'r' :: s => some ('\r', s)
  | '"' :: s => some ('"', s)
  | '\\' :: s => some ('\\', s)
  | 'u' :: s => unicodeEscape? 4 s
  | 'U' :: s => unicodeEscape? 8 s
  | _ => none

def basicChars : Nat → List Char → Option (List Char × List Char)
  | 0, _ => none
  | fuel + 1, s =>
    match s with
    | [] => none
    | '"' :: s => some ([], s)
    | '\\' :: s => do
      let (c, s) ← escape? s
      let (cs, s) ← basicChars fuel s
      some (c :: cs, s)
    | c :: s =>
      if isPlain c then do
        let (cs, s) ← basicChars fuel s
        some (c :: cs, s)
      else none

def literalChars (s : List Char) : Option (List Char × List Char) :=
  let inside := s.takeWhile fun c => isPlain c && c ≠ '\''
  match s.drop inside.length with
  | '\'' :: rest => some (inside, rest)
  | _ => none

/-- A run of quotes in a string of several lines: three end it, and up to two more before them
belong to it. -/
def closing (quote : Char) (s : List Char) : Option (List Char × List Char) :=
  let run := (s.takeWhile (· = quote)).length
  if run < 3 then none
  else
    let inside := min (run - 3) 2
    some (List.replicate inside quote, s.drop (inside + 3))

def skipBlankLines : List Char → List Char
  | [] => []
  | '\r' :: '\n' :: s => skipBlankLines s
  | c :: s => if isBlank c || c = '\n' then skipBlankLines s else c :: s

/-- After a backslash at the end of a line all blanks and line ends are dropped. -/
def foldedLine? (s : List Char) : Option (List Char) :=
  (lineEnd? (skipBlank s)).map skipBlankLines

def multilineChars (quote : Char) : Nat → List Char → Option (List Char × List Char)
  | 0, _ => none
  | fuel + 1, s =>
    match lineEnd? s with
    | some rest => do
      let (cs, rest) ← multilineChars quote fuel rest
      some ('\n' :: cs, rest)
    | none =>
      match closing quote s with
      | some closed => some closed
      | none =>
        match s with
        | [] => none
        | c :: rest =>
          if c = '\\' ∧ quote = '"' then
            match foldedLine? rest with
            | some rest => multilineChars quote fuel rest
            | none => do
              let (c, rest) ← escape? rest
              let (cs, rest) ← multilineChars quote fuel rest
              some (c :: cs, rest)
          else if isPlain c then do
            let (cs, rest) ← multilineChars quote fuel rest
            some (c :: cs, rest)
          else none

def multiline (quote : Char) (s : List Char) : Option (List Char × List Char) :=
  let s := (lineEnd? s).getD s
  multilineChars quote (s.length + 1) s

def string? : List Char → Option (String × List Char)
  | '"' :: '"' :: '"' :: s => (multiline '"' s).map fun (cs, s) => (String.ofList cs, s)
  | '"' :: s => (basicChars (s.length + 1) s).map fun (cs, s) => (String.ofList cs, s)
  | '\'' :: '\'' :: '\'' :: s => (multiline '\'' s).map fun (cs, s) => (String.ofList cs, s)
  | '\'' :: s => (literalChars s).map fun (cs, s) => (String.ofList cs, s)
  | _ => none

/-! Keys. -/

def isBareKey (c : Char) : Bool := c.isAlphanum || c = '_' || c = '-'

def simpleKey? (s : List Char) : Option (String × List Char) :=
  match s with
  | '"' :: s => (basicChars (s.length + 1) s).map fun (cs, s) => (String.ofList cs, s)
  | '\'' :: s => (literalChars s).map fun (cs, s) => (String.ofList cs, s)
  | _ =>
    let bare := s.takeWhile isBareKey
    if bare = [] then none else some (String.ofList bare, s.drop bare.length)

def keyParts : Nat → List Char → Option (List String × List Char)
  | 0, _ => none
  | fuel + 1, s => do
    let (key, s) ← simpleKey? (skipBlank s)
    match skipBlank s with
    | '.' :: s =>
      let (keys, s) ← keyParts fuel s
      some (key :: keys, s)
    | s => some ([key], s)

def nestingLimit : Nat := 80

def key? (s : List Char) : Option ((List String × String) × List Char) := do
  let (keys, s) ← keyParts nestingLimit s
  if keys.length < nestingLimit then some ((keys.dropLast, ← keys.getLast?), s) else none

/-! Numbers. Between digits one underscore may stand. -/

def isRadixDigit (radix : Nat) (c : Char) : Bool :=
  match hexValue? c with
  | some d => d < radix
  | none => false

def digitRun (radix : Nat) : List Char → List Char × List Char
  | [] => ([], [])
  | c :: '_' :: d :: s =>
    if isRadixDigit radix c then
      if isRadixDigit radix d then
        let (ds, rest) := digitRun radix (d :: s)
        (c :: ds, rest)
      else ([c], '_' :: d :: s)
    else ([], c :: '_' :: d :: s)
  | c :: s =>
    if isRadixDigit radix c then
      let (ds, rest) := digitRun radix s
      (c :: ds, rest)
    else ([], c :: s)

def sign : List Char → Bool × List Char
  | '-' :: s => (true, s)
  | '+' :: s => (false, s)
  | s => (false, s)

def wholeDigits? (s : List Char) : Option (List Char × List Char) :=
  match s with
  | '0' :: s => some (['0'], s)
  | _ =>
    match digitRun 10 s with
    | ([], _) => none
    | run => some run

def radixValue (radix : Nat) (ds : List Char) : Nat :=
  ds.foldl (fun n c => radix * n + (hexValue? c).getD 0) 0

def fitsWord (n : Int) : Bool := -9223372036854775808 ≤ n && n < 9223372036854775808

def radixInteger? (radix : Nat) (s : List Char) : Option (Value × List Char) :=
  match digitRun radix s with
  | ([], _) => none
  | (ds, rest) =>
    let n : Int := radixValue radix ds
    if fitsWord n then some (.integer n, rest) else none

def integer? : List Char → Option (Value × List Char)
  | '0' :: 'x' :: s => radixInteger? 16 s
  | '0' :: 'o' :: s => radixInteger? 8 s
  | '0' :: 'b' :: s => radixInteger? 2 s
  | s => do
    let (negative, s) := sign s
    let (ds, rest) ← wholeDigits? s
    let n : Int := digitsValue ds
    let n := if negative then -n else n
    if fitsWord n then some (.integer n, rest) else none

def exponent? : List Char → Option (Int × List Char)
  | c :: s => do
    if c = 'e' ∨ c = 'E' then
      let (down, s) := sign s
      match digitRun 10 s with
      | ([], _) => none
      | (ds, rest) =>
        let n : Int := digitsValue ds
        some (if down then -n else n, rest)
    else none
  | [] => none

/-- A number with a point or an exponent. One too large to represent is refused, unless it is
negative. -/
def real? (s : List Char) : Option (Value × List Char) := do
  let (negative, s) := sign s
  match s with
  | 'i' :: 'n' :: 'f' :: s => some (.real, s)
  | 'n' :: 'a' :: 'n' :: s => some (.real, s)
  | _ =>
    let (whole, s) ← wholeDigits? s
    let checked (digits : List Char) (exponent : Int) (rest : List Char) :
        Option (Value × List Char) :=
      if negative ∨ (Binary64.ofDecimal? false (digitsValue digits) exponent).isSome then
        some (.real, rest)
      else none
    match s with
    | '.' :: t =>
      match digitRun 10 t with
      | ([], _) => none
      | (fraction, rest) =>
        let digits := whole ++ fraction
        match exponent? rest with
        | some (e, rest) => checked digits (e - fraction.length) rest
        | none => checked digits (-fraction.length) rest
    | _ => do
      let (e, rest) ← exponent? s
      checked whole e rest

/-! Date-times, kept as their canonical text. -/

def twoDigits? (low high : Nat) : List Char → Option (Nat × List Char)
  | a :: b :: s =>
    let n := digitsValue [a, b]
    if isDigit a ∧ isDigit b ∧ low ≤ n ∧ n ≤ high then some (n, s) else none
  | _ => none

def expect? (c : Char) : List Char → Option (List Char)
  | x :: s => if x = c then some s else none
  | [] => none

def date? (s : List Char) : Option (List Char × List Char) := do
  let year := s.take 4
  if year.length = 4 ∧ year.all isDigit then
    let s ← expect? '-' (s.drop 4)
    let (month, s) ← twoDigits? 1 12 s
    let s ← expect? '-' s
    let (day, s) ← twoDigits? 1 31 s
    if day ≤ Time.daysInMonth (digitsValue year) month then
      some (year ++ '-' :: Timestamp.pad 2 month ++ '-' :: Timestamp.pad 2 day, s)
    else none
  else none

def clockFraction : List Char → List Char × List Char
  | '.' :: s =>
    let ds := s.takeWhile isDigit
    if ds = [] then ([], '.' :: s)
    else
      let kept := ((ds.take 9).reverse.dropWhile (· = '0')).reverse
      (if kept = [] then [] else '.' :: kept, s.drop ds.length)
  | s => ([], s)

def clock? (s : List Char) : Option (List Char × List Char) := do
  let (hour, s) ← twoDigits? 0 23 s
  let s ← expect? ':' s
  let (minute, s) ← twoDigits? 0 59 s
  let s ← expect? ':' s
  let (second, s) ← twoDigits? 0 60 s
  let (fraction, s) := clockFraction s
  some (Timestamp.pad 2 hour ++ ':' :: Timestamp.pad 2 minute ++ ':' :: Timestamp.pad 2 second ++
    fraction, s)

/-- Of the two signs of an offset of no minutes the plus is kept. -/
def zone : List Char → Option (List Char × List Char)
  | 'Z' :: s => some (['Z'], s)
  | 'z' :: s => some (['Z'], s)
  | c :: s =>
    if c = '+' ∨ c = '-' then do
      let (hour, s) ← twoDigits? 0 23 s
      let s ← expect? ':' s
      let (minute, s) ← twoDigits? 0 59 s
      let sign := if hour = 0 ∧ minute = 0 then '+' else c
      some (sign :: Timestamp.pad 2 hour ++ ':' :: Timestamp.pad 2 minute, s)
    else some ([], c :: s)
  | [] => some ([], [])

def datetime? (s : List Char) : Option (Value × List Char) :=
  match date? s with
  | some (date, s) =>
    let timed : Option (Value × List Char) :=
      match s with
      | c :: t =>
        if c = 'T' ∨ c = 't' ∨ c = ' ' then do
          let (clock, t) ← clock? t
          let (zone, t) ← zone t
          some (.datetime (String.ofList (date ++ 'T' :: clock ++ zone)), t)
        else none
      | [] => none
    match timed with
    | some result => some result
    | none => some (.datetime (String.ofList date), s)
  | none => (clock? s).map fun (clock, s) => (.datetime (String.ofList clock), s)

def scalarValue? (s : List Char) : Option (Value × List Char) :=
  match s with
  | 't' :: 'r' :: 'u' :: 'e' :: s => some (.boolean true, s)
  | 'f' :: 'a' :: 'l' :: 's' :: 'e' :: s => some (.boolean false, s)
  | 'i' :: _ => real? s
  | 'n' :: _ => real? s
  | c :: _ =>
    if c = '"' ∨ c = '\'' then (string? s).map fun (text, s) => (.text text, s)
    else if c = '+' ∨ c = '-' ∨ isDigit c then
      (datetime? s).or ((real? s).or (integer? s))
    else none
  | [] => none

end Coalesce.Toml
