import Coalesce.Address.Domain

/-! Reading addresses: a scheme, a user and a host, a path and a query. A few schemes are special:
their hosts are domain names, and backslashes count as slashes in them. -/
namespace Coalesce

/-- User, password, path and query are kept as they are written, escapes included. -/
structure Address where
  scheme : String
  user : List Char
  password : List Char
  host : Option Host
  port : Option Nat
  path : List Char
  query : List Char
  deriving DecidableEq

namespace Address

inductive Scheme where
  | file
  | special
  | other
  deriving DecidableEq

def Scheme.ofName (name : String) : Scheme :=
  if name = "file" then .file
  else if ["http", "https", "ws", "wss", "ftp"].contains name then .special
  else .other

/-- Controls and spaces around an address do not count, nor do tabs and line breaks in it. -/
def strip (s : List Char) : List Char :=
  let outer (c : Char) : Bool := c.toNat ≤ 0x20
  let s := ((s.dropWhile outer).reverse.dropWhile outer).reverse
  s.filter fun c => c ≠ '\t' ∧ c ≠ '\n' ∧ c ≠ '\r'

def isSchemeChar (c : Char) : Bool := c.isAlphanum || c = '+' || c = '-' || c = '.'

def splitScheme (s : List Char) : Except AddressFault (String × List Char) :=
  match s.dropWhile isSchemeChar with
  | ':' :: rest =>
    if s.head?.any Char.isAlpha then
      .ok (String.ofList ((s.takeWhile isSchemeChar).map Char.toLower), rest)
    else .error .noScheme
  | _ => .error .noScheme

namespace Scheme

variable (k : Scheme)

def isSlash (c : Char) : Bool := c = '/' || (k ≠ .other && c = '\\')

def endsAuthority (c : Char) : Bool := k.isSlash c || c = '?' || c = '#'

def splitUser (s : List Char) : Option (List Char × List Char) :=
  let authority := s.takeWhile (!k.endsAuthority ·)
  let behind := (authority.reverse.takeWhile (· ≠ '@')).reverse
  if behind.length < authority.length then
    let before := authority.length - behind.length - 1
    some (s.take before, s.drop (before + 1))
  else none

def hostLength (bracketed : Bool) : List Char → Nat
  | [] => 0
  | c :: s =>
    if k.endsAuthority c || (c = ':' && !bracketed) then 0
    else hostLength (if c = '[' then true else if c = ']' then false else bracketed) s + 1

def host (s : List Char) : Except AddressFault Host :=
  match k with
  | .other => Host.ofOpaque s
  | _ => if s = [] then .error .emptyHost else Host.read s

/-! Paths. A segment of one dot is left out, and one of two dots takes the segment before it away;
the dots may be escaped. -/

def dots? (s : List Char) : Option Nat :=
  match s.map Char.toLower with
  | ['.'] => some 1
  | ['%', '2', 'e'] => some 1
  | ['.', '.'] => some 2
  | ['.', '%', '2', 'e'] => some 2
  | ['%', '2', 'e', '.'] => some 2
  | ['%', '2', 'e', '%', '2', 'e'] => some 2
  | _ => none

def isDrive (s : List Char) : Bool :=
  match s with
  | [c, mark] => c.isAlpha && (mark = ':' || mark = '|')
  | _ => false

/-- Segments are kept with the last one first. A drive at the root of a file system stays. -/
def shorten (segments : List (List Char)) : List (List Char) :=
  match segments with
  | [drive] => if k = .file && isDrive drive then [drive] else []
  | segments => segments.drop 1

def normalize (done : List (List Char)) : List (List Char) → List (List Char)
  | [] => done.reverse
  | segment :: rest =>
    let ending := if rest = [] then [[]] else []
    match dots? segment with
    | some 1 => normalize (ending ++ done) rest
    | some _ => normalize (ending ++ k.shorten done) rest
    | none => normalize (segment :: done) rest

def splitPath (s : List Char) : List (List Char) :=
  Host.split '/' (s.map fun c => if k.isSlash c then '/' else c)

def joined (segments : List (List Char)) : List Char := segments.flatMap ('/' :: ·)

def rooted (s : List Char) : List Char :=
  let s := match s with
    | c :: r => if k.isSlash c then r else c :: r
    | [] => []
  joined (k.normalize [] (k.splitPath s))

end Scheme

def isPathEnd (c : Char) : Bool := c = '?' || c = '#'

def queryOf (s : List Char) : List Char :=
  match s.dropWhile (!isPathEnd ·) with
  | '?' :: r => r.takeWhile (· ≠ '#')
  | _ => []

def pathOf (s : List Char) : List Char := s.takeWhile (!isPathEnd ·)

def readPort (s : List Char) : Except AddressFault (Option Nat × List Char) :=
  let digits := s.takeWhile Char.isDigit
  let value := (Host.digits? 10 digits).getD 0
  if 65535 < value then .error .port
  else match s.dropWhile Char.isDigit with
    | [] => .ok (if digits = [] then none else some value, [])
    | c :: rest =>
      if c = '/' ∨ c = '\\' ∨ c = '?' ∨ c = '#' then
        .ok (if digits = [] then none else some value, c :: rest)
      else .error .port

def readAuthority (k : Scheme) (scheme : String) (s : List Char) :
    Except AddressFault Address := do
  let (info, s) ← match k.splitUser s with
    | none => .ok ([], s)
    | some ([], rest) =>
      if rest.head?.any k.endsAuthority then .error .emptyHost else .ok ([], rest)
    | some (info, rest) => .ok (info, rest)
  let user := info.takeWhile (· ≠ ':')
  let password := (info.dropWhile (· ≠ ':')).drop 1
  let length := k.hostLength false s
  let host ← k.host (s.take length)
  let s := s.drop length
  let unnamed := decide (host = .name "")
  if unnamed && (s.head? = some ':' || user ≠ [] || password ≠ []) then .error .emptyHost
  let (port, s) ← match s with
    | ':' :: r => readPort r
    | s => .ok (none, s)
  let path := if k = .other ∧ pathOf s = [] then [] else k.rooted (pathOf s)
  .ok ⟨scheme, user, password, if unnamed then none else some host, port, path, queryOf s⟩

def readFile (s : List Char) : Except AddressFault Address := do
  let onDisk (path rest : List Char) : Address :=
    ⟨"file", [], [], none, none, path, queryOf rest⟩
  match s with
  | a :: b :: r =>
    if Scheme.file.isSlash a && Scheme.file.isSlash b then
      let name := r.takeWhile (!Scheme.file.endsAuthority ·)
      if name = [] ∨ Scheme.isDrive name then
        .ok (onDisk (Scheme.file.rooted (pathOf r)) r)
      else
        let host ← Host.read name
        let r := r.drop name.length
        let host := if host = .name "localhost" then none else some host
        .ok ⟨"file", [], [], host, none, Scheme.file.rooted (pathOf r), queryOf r⟩
    else .ok (onDisk (Scheme.file.rooted (pathOf s)) s)
  | s => .ok (onDisk (Scheme.file.rooted (pathOf s)) s)

def read (s : List Char) : Except AddressFault Address := do
  let (scheme, s) ← splitScheme (strip s)
  match Scheme.ofName scheme with
  | .file => readFile s
  | .special => readAuthority .special scheme (s.dropWhile Scheme.special.isSlash)
  | .other =>
    match s with
    | '/' :: '/' :: r => readAuthority .other scheme r
    | '/' :: r => .ok ⟨scheme, [], [], none, none, Scheme.other.rooted (pathOf r), queryOf r⟩
    | s => .ok ⟨scheme, [], [], none, none, pathOf s, queryOf s⟩

end Address
end Coalesce
