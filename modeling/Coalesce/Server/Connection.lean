import Coalesce.Address.Reading
import Coalesce.Text.Quoted

/-! Where a database address leads: to a host, or to a socket in the file system. -/
namespace Coalesce

inductive NumeralFlaw where
  | empty
  | digit
  | tooLarge
  deriving DecidableEq

def NumeralFlaw.message : NumeralFlaw → String
  | .empty => "cannot parse integer from empty string"
  | .digit => "invalid digit found in string"
  | .tooLarge => "number too large to fit in target type"

inductive ConnectionFault where
  | address (fault : AddressFault)
  | encoding (damage : Address.Damage)
  | encryption (value : String)
  | numeral (flaw : NumeralFlaw)
  | numericHost
  deriving DecidableEq

namespace ConnectionFault

def detail : ConnectionFault → String
  | .address fault => fault.message
  | .encoding damage => damage.message
  | .encryption value => s!"unknown value {Text.quote value} for \x60ssl_mode\x60"
  | .numeral flaw => flaw.message
  | .numericHost => "invalid IP address syntax"

/-- A mode of encryption is checked as a configuration inside of the configuration. -/
def causes (fault : ConnectionFault) : List String :=
  match fault with
  | .encryption _ => ["error with configuration: " ++ fault.detail, fault.detail]
  | fault => [fault.detail]

def message (fault : ConnectionFault) : String :=
  match fault.causes with
  | cause :: _ => cause
  | [] => fault.detail

end ConnectionFault

namespace Server

/-- A directory with a socket goes before a host. -/
structure Connection where
  host : Host
  port : Nat
  socket : Option String
  deriving DecidableEq

namespace Connection

/-- Digits of a number up to `bound`, before which a plus sign may stand; the first thing wrong from
the left is what counts. -/
def numeralFrom (bound value : Nat) : List Char → Except NumeralFlaw Nat
  | [] => .ok value
  | c :: s =>
    if c.isDigit then
      let next := 10 * value + (c.toNat - 48)
      if bound < next then .error .tooLarge else numeralFrom bound next s
    else .error .digit

def unsigned (bound : Nat) : List Char → Except NumeralFlaw Nat
  | [] => .error .empty
  | ['+'] => .error .digit
  | '+' :: s => numeralFrom bound 0 s
  | s => numeralFrom bound 0 s

def numeral (bound : Nat) (s : List Char) : Except ConnectionFault Nat :=
  (unsigned bound s).mapError .numeral

def maxPort : Nat := 65535

def maxCapacity : Nat := 18446744073709551615

def encryptionModes : List String :=
  ["disable", "allow", "prefer", "require", "verify-ca", "verify-full"]

def isNumericHost (s : List Char) : Bool :=
  (Host.sixteenBytes? s).isSome || ((Host.split '.' s).length = 4 &&
    ((Host.split '.' s).mapM Host.decimalByte?).isSome)

def decoded (s : List Char) : Except ConnectionFault (List Char) :=
  (Address.text (Address.unescape (Address.bytes s))).mapError .encoding

def queryText (s : List Char) : String :=
  let spaced := s.map fun c => if c = '+' then ' ' else c
  String.ofList (Address.lossyText (Address.unescape (Address.bytes spaced)))

def queryMembers (s : List Char) : List (String × String) :=
  ((Host.split '&' s).filter (· ≠ [])).map fun m =>
    (queryText (m.takeWhile (· ≠ '=')), queryText ((m.dropWhile (· ≠ '=')).drop 1))

/-- What a member of the query changes. Those that matter only to an open connection are read as
far as they can be refused. -/
def withMember (c : Connection) (key value : String) : Except ConnectionFault Connection :=
  if key = "sslmode" ∨ key = "ssl-mode" then
    if encryptionModes.contains (value.map Char.toLower) then .ok c else .error (.encryption value)
  else if key = "statement-cache-capacity" then
    (numeral maxCapacity value.toList).map fun _ => c
  else if key = "host" then
    .ok (if value.toList.head? = some '/' then { c with socket := some value }
      else { c with host := .name value })
  else if key = "hostaddr" then
    if isNumericHost value.toList then .ok { c with host := .name value }
    else .error .numericHost
  else if key = "port" then (numeral maxPort value.toList).map fun port => { c with port }
  else .ok c

/-- A name with an escaped slash at its start is a directory. -/
def withHost (c : Connection) (host : Host) : Except ConnectionFault Connection :=
  match host with
  | .name text =>
    if (Address.unescape (Address.bytes text.toList)).head? = some 0x2f then
      (decoded text.toList).map fun path => { c with socket := some (String.ofList path) }
    else .ok { c with host }
  | host => .ok { c with host }

def ofAddress (usual : Connection) (a : Address) : Except ConnectionFault Connection := do
  let c ← match a.host with
    | some host => usual.withHost host
    | none => .ok usual
  let c := { c with port := a.port.getD c.port }
  let _ ← decoded a.user
  let _ ← decoded a.password
  let _ ← decoded (a.path.dropWhile (· = '/'))
  (queryMembers a.query).foldlM (fun c (key, value) => c.withMember key value) c

def read (usual : Connection) (address : String) : Except ConnectionFault Connection := do
  let a ← (Address.read address.toList).mapError .address
  ofAddress usual a

end Connection
end Server
end Coalesce
