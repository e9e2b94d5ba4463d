import Coalesce.Text.Blank
import Coalesce.Time.Civil

/-! Instants and their RFC 3339 text. Reading is lenient about blanks, signs of the year and the
separator of date and time; writing is always in UTC, with a fraction of 0, 3, 6 or 9 digits. -/
namespace Coalesce

/-- Seconds since 1970 and nanoseconds; during a leap second the nanoseconds pass 10⁹. -/
structure Timestamp where
  seconds : Int
  nanos : Nat
  deriving DecidableEq

namespace Timestamp

inductive Flaw where
  | outOfRange
  | impossible
  | invalid
  | tooShort
  | trailing
  deriving DecidableEq

def Flaw.message : Flaw → String
  | .outOfRange => "input is out of range"
  | .impossible => "no possible date and time matching input"
  | .invalid => "input contains invalid characters"
  | .tooShort => "premature end of input"
  | .trailing => "trailing input"

def le (a b : Timestamp) : Bool :=
  a.seconds < b.seconds || (a.seconds == b.seconds && a.nanos ≤ b.nanos)

def isDigit (c : Char) : Bool := '0' ≤ c && c ≤ '9'

def value (ds : List Char) : Nat := ds.foldl (fun n c => 10 * n + (c.toNat - 48)) 0

def number (width : Option Nat) (s : List Char) : Except Flaw (Nat × List Char) :=
  let run := s.takeWhile isDigit
  let ds := match width with
    | some w => run.take w
    | none => run
  if s = [] then .error .tooShort
  else if ds = [] then .error .invalid
  else if 9223372036854775808 ≤ value ds then .error .outOfRange
  else .ok (value ds, s.drop ds.length)

def bounded (low high : Nat) (s : List Char) : Except Flaw (Nat × List Char) := do
  let (n, s) ← number (some 2) (Text.dropBlank s)
  if low ≤ n ∧ n ≤ high then .ok (n, s) else .error .outOfRange

def year (s : List Char) : Except Flaw (Int × List Char) := do
  match Text.dropBlank s with
  | '-' :: s =>
    let (n, s) ← number none s
    if n ≤ 2147483648 then .ok (-(n : Int), s) else .error .outOfRange
  | '+' :: s =>
    let (n, s) ← number none s
    if n < 2147483648 then .ok (n, s) else .error .outOfRange
  | s =>
    let (n, s) ← number (some 4) s
    .ok (n, s)

def literal (c : Char) (s : List Char) : Except Flaw (List Char) :=
  match Text.dropBlank s with
  | [] => .error .tooShort
  | x :: s => if x = c then .ok s else .error .invalid

def dateSeparator : List Char → Except Flaw (List Char)
  | [] => .error .tooShort
  | c :: s => if c = 't' ∨ c = 'T' ∨ c = ' ' then .ok s else .error .invalid

/-- Digits of a fraction after the ninth are read and dropped. -/
def fraction : List Char → Except Flaw (Nat × List Char)
  | '.' :: s => do
    let (n, rest) ← number (some 9) s
    .ok (n * Nat.pow 10 (9 - (s.length - rest.length)), rest.dropWhile isDigit)
  | s => .ok (0, s)

def bytes : List Char → Nat
  | [] => 0
  | c :: s => c.utf8Size + bytes s

def offset (s : List Char) : Except Flaw (Int × List Char) := do
  let hoursMinutes (sign : Int) (s : List Char) : Except Flaw (Int × List Char) := do
    if bytes s < 2 then .error .tooShort
    else match s with
    | a :: b :: s =>
      if isDigit a ∧ isDigit b then
        let s := s.dropWhile fun c => c = ':' || Text.isBlank c
        if bytes s < 2 then .error .tooShort
        else match s with
        | c :: d :: rest =>
          if ¬ (isDigit c ∧ isDigit d) then .error .invalid
          else if '6' ≤ c then .error .outOfRange
          else .ok (sign * (value [a, b] * 3600 + value [c, d] * 60), rest)
        | _ => .error .invalid
      else .error .invalid
    | _ => .error .invalid
  match s with
  | [] => .error .tooShort
  | c :: rest =>
    if c = 'Z' ∨ c = 'z' then .ok (0, rest)
    else if c = '+' then hoursMinutes 1 rest
    else if c = '-' ∨ c = '−' then hoursMinutes (-1) rest
    else .error .invalid

def zone (s : List Char) : Except Flaw (Int × List Char) :=
  if (s.take 3).map Char.toUpper = ['U', 'T', 'C'] then .ok (0, s.drop 3) else offset s

def read (s : List Char) : Except Flaw Timestamp := do
  let (y, s) ← year s
  let s ← literal '-' s
  let (m, s) ← bounded 1 12 s
  let s ← literal '-' s
  let (d, s) ← bounded 1 31 s
  let s ← dateSeparator s
  let (hour, s) ← bounded 0 23 s
  let s ← literal ':' s
  let (minute, s) ← bounded 0 59 s
  let s ← literal ':' s
  let (second, s) ← bounded 0 60 s
  let (nanos, s) ← fraction s
  let (east, s) ← zone (Text.dropBlank s)
  if Text.dropBlank s ≠ [] then .error .trailing
  else
    let date : Time.Date := ⟨y, m, d⟩
    if east ≤ -86400 ∨ 86400 ≤ east then .error .outOfRange
    else if ¬ date.isValid then .error .outOfRange
    else
      let leap := second = 60
      let clock : Int := date.dayNumber * 86400 + hour * 3600 + minute * 60 +
        (if leap then 59 else second)
      let utc := clock - east
      let there := (Time.Date.ofDayNumber (utc / 86400)).year
      if Time.firstYear ≤ there ∧ there ≤ Time.lastYear then
        .ok ⟨utc, if leap then nanos + 1000000000 else nanos⟩
      else .error .impossible

def parse (s : String) : Except Flaw Timestamp := read s.toList

def pad (width n : Nat) : List Char :=
  let ds := Nat.toDigits 10 n
  List.replicate (width - ds.length) '0' ++ ds

def writeYear (y : Int) : List Char :=
  if 0 ≤ y ∧ y ≤ 9999 then pad 4 y.natAbs
  else (if y < 0 then '-' else '+') :: pad 4 y.natAbs

def writeFraction (nanos : Nat) : List Char :=
  if nanos = 0 then []
  else if nanos % 1000000 = 0 then '.' :: pad 3 (nanos / 1000000)
  else if nanos % 1000 = 0 then '.' :: pad 6 (nanos / 1000)
  else '.' :: pad 9 nanos

structure Fields where
  date : Time.Date
  hour : Nat
  minute : Nat
  second : Nat
  nanos : Nat

def fields (t : Timestamp) : Fields :=
  let inDay := (t.seconds % 86400).toNat
  { date := Time.Date.ofDayNumber (t.seconds / 86400)
    hour := inDay / 3600
    minute := inDay / 60 % 60
    second := inDay % 60 + t.nanos / 1000000000
    nanos := t.nanos % 1000000000 }

def writeDate (d : Time.Date) : List Char :=
  writeYear d.year ++ '-' :: pad 2 d.month ++ '-' :: pad 2 d.day

def writeClock (f : Fields) : List Char :=
  pad 2 f.hour ++ ':' :: pad 2 f.minute ++ ':' :: pad 2 f.second

def toText (t : Timestamp) : String :=
  let f := t.fields
  String.ofList (writeDate f.date ++ 'T' :: writeClock f ++ writeFraction f.nanos ++ ['Z'])

def toListing (t : Timestamp) : String :=
  let f := t.fields
  String.ofList (writeDate f.date ++ ' ' :: writeClock f)

end Timestamp
end Coalesce
