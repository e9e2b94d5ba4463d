import Coalesce.Error

/-! Addresses that traces are sent to: a scheme, an authority and a path, or an authority alone, or
a path alone. Lengths are in bytes. -/
namespace Coalesce.Telemetry

inductive EndpointFault where
  | empty
  | tooLong
  | schemeTooLong
  | character
  | authority
  | format
  deriving DecidableEq

def EndpointFault.message : EndpointFault → String
  | .empty => "empty string"
  | .tooLong => "uri too long"
  | .schemeTooLong => "scheme too long"
  | .character => "invalid uri character"
  | .authority => "invalid authority"
  | .format => "invalid format"

namespace Endpoint

def longest : Nat := 65534

def longestScheme : Nat := 64

def isSchemeChar (c : Char) : Bool := c.isAlphanum || c = '+' || c = '-' || c = '.' || c = '~'

def isUriChar (c : Char) : Bool := c.isAlphanum || "!#$&'()*+,-./:;=?@[]_~".toList.contains c

def endsAuthority (c : Char) : Bool := c = '/' || c = '?' || c = '#'

/-- The scheme before a colon and two slashes, and what stands behind them. A text of three bytes
or less has none. -/
def splitScheme (s : List Char) : Except EndpointFault (Option (List Char)) :=
  let scheme := s.takeWhile isSchemeChar
  match s.dropWhile isSchemeChar with
  | ':' :: '/' :: '/' :: rest =>
    if Json.byteLength s ≤ 3 then .ok none
    else if longestScheme < scheme.length then .error .schemeTooLong
    else .ok (some rest)
  | _ => .ok none

structure AuthorityScan where
  colons : Nat
  opened : Bool
  closed : Bool
  percent : Bool
  lastAt : Bool

def AuthorityScan.start : AuthorityScan := ⟨0, false, false, false, false⟩

def AuthorityScan.next (a : AuthorityScan) (c : Char) : Except EndpointFault AuthorityScan :=
  let a := { a with lastAt := false }
  if c = ':' then
    if 8 ≤ a.colons then .error .authority else .ok { a with colons := a.colons + 1 }
  else if c = '[' then
    if a.percent ∨ a.opened then .error .authority else .ok { a with opened := true }
  else if c = ']' then
    if ¬ a.opened ∨ a.closed then .error .authority
    else .ok { a with closed := true, colons := 0, percent := false }
  else if c = '@' then .ok { a with colons := 0, percent := false, lastAt := true }
  else if c = '%' then .ok { a with percent := true }
  else if isUriChar c then .ok a
  else .error .character

/-- Brackets close, one port at most, somebody behind the user part, and no escapes in a host. -/
def checkAuthority (s : List Char) : Except EndpointFault Unit := do
  let a ← s.foldlM AuthorityScan.next .start
  if a.opened ≠ a.closed ∨ 1 < a.colons ∨ a.lastAt ∨ a.percent then .error .authority else .ok ()

def isPathChar (c : Char) : Bool :=
  0x21 ≤ c.toNat && c ≠ '<' && c ≠ '>' && c ≠ '\x60'

def isQueryChar (c : Char) : Bool := 0x21 ≤ c.toNat && c ≠ '"' && c ≠ '<' && c ≠ '>'

def checkPath (s : List Char) : Except EndpointFault Unit :=
  let s := s.takeWhile (· ≠ '#')
  if (s.takeWhile (· ≠ '?')).all isPathChar ∧ ((s.dropWhile (· ≠ '?')).drop 1).all isQueryChar then
    .ok ()
  else .error .character

def check (s : List Char) : Except EndpointFault Unit := do
  let length := Json.byteLength s
  if longest < length then .error .tooLong
  match s with
  | '/' :: _ => checkPath s
  | ['*'] => .ok ()
  | _ =>
    match ← splitScheme s with
    | some rest =>
      if rest = [] then .error .empty
      let authority := rest.takeWhile (!endsAuthority ·)
      checkAuthority authority
      if authority = [] then .error .format
      checkPath (rest.dropWhile (!endsAuthority ·))
    | none =>
      let authority := s.takeWhile (!endsAuthority ·)
      checkAuthority authority
      if authority ≠ s then .error (if length = 1 then .character else .format)

end Endpoint

def checkEndpoint (text : String) : Except Error Unit :=
  if text = "" then .ok () else (Endpoint.check text.toList).mapError fun fault =>
    .other ("failed to create OTLP span exporter: invalid URI " ++ text ++ ". Reason " ++
      fault.message)

end Coalesce.Telemetry
