import Coalesce.Pattern.Basic
import Coalesce.Json.Reading
import Coalesce.Text.Alphanumeric
import Coalesce.Text.Blank

/-! Reading regular expressions from texts without closing braces: a brace that is opened is never
closed in them, so that counts and code points in braces are always refused. -/
namespace Coalesce.Pattern

/-! Blanks, and comments up to the ends of their lines, count for nothing while their flag is on. -/

inductive Skipping where
  | blanks
  | comment

def skipFrom : Skipping → List Char → List Char
  | _, [] => []
  | .blanks, c :: s =>
    if Text.isBlank c then skipFrom .blanks s
    else if c = '#' then skipFrom .comment s
    else c :: s
  | .comment, c :: s => skipFrom (if c = '\n' then .blanks else .comment) s

def skip (blanks : Bool) (s : List Char) : List Char := if blanks then skipFrom .blanks s else s

def peekPast (blanks : Bool) (s : List Char) : Option Char :=
  if blanks then
    match s.dropWhile Text.isBlank with
    | '#' :: r => ((r.dropWhile Text.isBlank).head?).or s.head?
    | r => r.head?.or s.head?
  else s.head?

/-! Escapes. -/

inductive Atom where
  | literal (l : Literal)
  | edge
  | wordEdge
  | shorthand (negated : Bool)
  | property

def Atom.node : Atom → Node
  | .literal l => .literal l
  | .edge => .edge
  | .wordEdge => .wordEdge
  | .shorthand negated => .shorthand negated
  | .property => .property

def Atom.members? : Atom → Option Members
  | .literal l => some (.literal l)
  | .shorthand negated => some (.shorthand negated)
  | .property => some .property
  | _ => none

def Atom.literal? : Atom → Option Literal
  | .literal l => some l
  | _ => none

def readHex (blanks : Bool) (value : Nat) : Nat → List Char → Option (Nat × List Char)
  | 0, s => some (value, s)
  | count + 1, c :: s => do
    let digit ← Json.hexValue? c
    readHex blanks (16 * value + digit) count (skip blanks s)
  | _ + 1, [] => none

def isScalar (n : Nat) : Bool := n < 0xd800 || (0xdfff < n && n ≤ 0x10ffff)

def readCode (blanks byte : Bool) (count : Nat) (s : List Char) : Option (Atom × List Char) := do
  let (n, s) ← readHex blanks 0 count (skip blanks s)
  if isScalar n then some (.literal ⟨Char.ofNat n, byte⟩, s) else none

def plain (c : Char) : Atom := .literal ⟨c, false⟩

/-- After a backslash. Letters and digits that mean nothing are refused, as is all beyond ASCII. -/
def readEscape (blanks : Bool) : List Char → Option (Atom × List Char)
  | [] => none
  | c :: s =>
    if c = 'x' then readCode blanks true 2 s
    else if c = 'u' then readCode blanks false 4 s
    else if c = 'U' then readCode blanks false 8 s
    else if c = 'p' ∨ c = 'P' then some (.property, s)
    else if c = 'd' ∨ c = 's' ∨ c = 'w' then some (.shorthand false, s)
    else if c = 'D' ∨ c = 'S' ∨ c = 'W' then some (.shorthand true, s)
    else if c = 'a' then some (plain '\x07', s)
    else if c = 'f' then some (plain '\x0c', s)
    else if c = 't' then some (plain '\t', s)
    else if c = 'n' then some (plain '\n', s)
    else if c = 'r' then some (plain '\r', s)
    else if c = 'v' then some (plain '\x0b', s)
    else if c = 'A' ∨ c = 'z' then some (.edge, s)
    else if c = 'b' ∨ c = 'B' ∨ c = '<' ∨ c = '>' then some (.wordEdge, s)
    else if isAscii c && !c.isAlphanum then some (plain c, s)
    else none

/-! Classes. -/

/-- A class that is open: whether it is negated, the operand before the last operator, and the
items behind that, the last one first. -/
structure OpenClass where
  negated : Bool
  left : Option Members
  items : List Members

def unionOf : List Members → Members
  | [] => .empty
  | [m] => m
  | items => .union items.reverse

def OpenClass.members (c : OpenClass) : Members :=
  match c.left with
  | some left => .combined left (unionOf c.items)
  | none => unionOf c.items

def OpenClass.add (c : OpenClass) (m : Members) : OpenClass := { c with items := m :: c.items }

def OpenClass.operate (c : OpenClass) : OpenClass := { c with left := some c.members, items := [] }

def takeHyphens (blanks : Bool) (c : OpenClass) : Nat → List Char → OpenClass × List Char
  | 0, s => (c, s)
  | fuel + 1, s =>
    match s with
    | '-' :: r => takeHyphens blanks (c.add (.literal ⟨'-', false⟩)) fuel (skip blanks r)
    | s => (c, s)

def openClass (blanks : Bool) (s : List Char) : OpenClass × List Char :=
  let s := skip blanks s
  let (negated, s) := match s with
    | '^' :: r => (true, skip blanks r)
    | s => (false, s)
  let (c, s) := takeHyphens blanks ⟨negated, none, []⟩ s.length s
  match c.items, s with
  | [], ']' :: r => (c.add (.literal ⟨']', false⟩), skip blanks r)
  | _, s => (c, s)

def classNames : List String :=
  ["alnum", "alpha", "ascii", "blank", "cntrl", "digit", "graph", "lower", "print", "punct",
    "space", "upper", "word", "xdigit"]

def namedClass? : List Char → Option (Members × List Char)
  | ':' :: s =>
    let (negated, s) := match s with
      | '^' :: r => (true, r)
      | s => (false, s)
    let name := s.takeWhile (· ≠ ':')
    match s.dropWhile (· ≠ ':') with
    | ':' :: ']' :: r =>
      if classNames.contains (String.ofList name) then some (.named negated, r) else none
    | _ => none
  | _ => none

def readItem (blanks : Bool) : List Char → Option (Atom × List Char)
  | [] => none
  | '\\' :: s => readEscape blanks s
  | c :: s => some (plain c, s)

/-- One item, or two with a hyphen between them, unless the hyphen is the last member of its class
or the first half of an operator. -/
def readRange (blanks : Bool) (s : List Char) : Option (Members × List Char) := do
  let (first, s) ← readItem blanks s
  match skip blanks s with
  | [] => none
  | '-' :: r =>
    if peekPast blanks r = some ']' ∨ peekPast blanks r = some '-' then
      (first.members?).map (·, '-' :: r)
    else
      let (last, s) ← readItem blanks (skip blanks r)
      let first ← first.literal?
      let last ← last.literal?
      if first.char.toNat ≤ last.char.toNat then some (.range first last, s) else none
  | s => (first.members?).map (·, s)

/-- Inside of `current`, which stands in the classes of `outer`. A step takes a character. -/
def readClass (blanks : Bool) :
    Nat → OpenClass → List OpenClass → List Char → Option (Node × List Char)
  | 0, _, _, _ => none
  | fuel + 1, current, outer, s =>
    match skip blanks s with
    | [] => none
    | '[' :: r =>
      match namedClass? r with
      | some (m, r) => readClass blanks fuel (current.add m) outer r
      | none =>
        let (inner, r) := openClass blanks r
        readClass blanks fuel inner (current :: outer) r
    | ']' :: r =>
      match outer with
      | [] => some (.class current.negated current.members, r)
      | parent :: outer =>
        readClass blanks fuel (parent.add (.class current.negated current.members)) outer r
    | '&' :: '&' :: r => readClass blanks fuel current.operate outer r
    | '-' :: '-' :: r => readClass blanks fuel current.operate outer r
    | '~' :: '~' :: r => readClass blanks fuel current.operate outer r
    | s => do
      let (m, s) ← readRange blanks s
      readClass blanks fuel (current.add m) outer s

/-! Groups. -/

def flagNames : List Char := ['i', 'm', 's', 'U', 'R', 'u', 'x']

def Switch.none : Switch := ⟨.none, .none, .none⟩

def Switch.set (s : Switch) (flag : Char) (on : Bool) : Switch :=
  if flag = 'i' then { s with caseless := some on }
  else if flag = 'u' then { s with unicode := some on }
  else if flag = 'x' then { s with blanks := some on }
  else s

/-- Letters up to a colon or a closing bracket. Each may stand once, and so may the minus that
switches off what follows it; it may not be the last. -/
def readFlags (seen : List Char) (s : Switch) (on : Bool) :
    List Char → Option (Switch × List Char × List Char)
  | [] => none
  | c :: r =>
    if c = ':' ∨ c = ')' then
      if seen.head? = some '-' then none else some (s, seen, c :: r)
    else if seen.contains c then none
    else if c = '-' then readFlags (c :: seen) s false r
    else if flagNames.contains c then readFlags (c :: seen) (s.set c on) on r
    else none

def startsGroupName (c : Char) : Bool := c = '_' || Text.isAlphabetic c

def isGroupNameChar (c : Char) : Bool :=
  c = '_' || c = '.' || c = '[' || c = ']' || Text.isAlphanumeric c

def readGroupName (s : List Char) : Option (String × List Char) :=
  let name := s.takeWhile (· ≠ '>')
  match name, s.dropWhile (· ≠ '>') with
  | c :: cs, '>' :: r =>
    if startsGroupName c && cs.all isGroupNameChar then some (String.ofList name, r) else none
  | _, _ => none

/-- The alternatives of a group and the items of the last of them, the last ones first. -/
structure Level where
  branches : List Node
  items : List Node

def Level.start : Level := ⟨[], []⟩

def Level.sequence (l : Level) : Node :=
  match l.items with
  | [] => .empty
  | [n] => n
  | items => .concatenation items.reverse

def Level.node (l : Level) : Node :=
  match l.branches with
  | [] => l.sequence
  | branches => .alternation (l.sequence :: branches).reverse

def Level.add (l : Level) (n : Node) : Level := { l with items := n :: l.items }

def Level.branch (l : Level) : Level := ⟨l.sequence :: l.branches, []⟩

def Level.repeated? (l : Level) : Option Level :=
  match l.items with
  | [] => none
  | .empty :: _ => none
  | .switched _ :: _ => none
  | n :: items => some { l with items := .repeated n :: items }

structure OpenGroup where
  before : Level
  switch : Switch
  blanks : Bool

structure Reader where
  level : Level
  groups : List OpenGroup
  blanks : Bool
  names : List String

def Reader.start : Reader := ⟨.start, [], false, []⟩

def Reader.add (r : Reader) (n : Node) : Reader := { r with level := r.level.add n }

def Reader.openGroup (r : Reader) (s : Switch) : Reader :=
  { r with
    level := .start
    groups := ⟨r.level, s, r.blanks⟩ :: r.groups
    blanks := s.blanks.getD r.blanks }

def Reader.named? (r : Reader) (s : List Char) : Option (Reader × List Char) := do
  let (name, s) ← readGroupName s
  if r.names.contains name then none
  else some ({ r with names := name :: r.names }.openGroup .none, s)

def Reader.group? (r : Reader) (s : List Char) : Option (Reader × List Char) :=
  match skip r.blanks s with
  | '?' :: 'P' :: '<' :: s => r.named? s
  | '?' :: '<' :: s => r.named? s
  | '?' :: s => do
    let (switch, seen, s) ← readFlags [] .none true s
    match s with
    | ':' :: s => some (r.openGroup switch, s)
    | _ :: s =>
      if seen = [] then none
      else some ({ r.add (.switched switch) with blanks := switch.blanks.getD r.blanks }, s)
    | [] => none
  | s => some (r.openGroup .none, s)

def Reader.close? (r : Reader) : Option Reader :=
  match r.groups with
  | [] => none
  | g :: groups =>
    some { r with
      level := g.before.add (.group g.switch r.level.node)
      groups
      blanks := g.blanks }

def Reader.repeat? (r : Reader) (s : List Char) : Option (Reader × List Char) := do
  let level ← r.level.repeated?
  let s := match s with
    | '?' :: s => s
    | s => s
  some ({ r with level }, s)

def Reader.step? (r : Reader) (c : Char) (s : List Char) : Option (Reader × List Char) :=
  if c = '(' then r.group? s
  else if c = ')' then r.close?.map (·, s)
  else if c = '|' then some ({ r with level := r.level.branch }, s)
  else if c = '[' then do
    let (outermost, s) := openClass r.blanks s
    let (n, s) ← readClass r.blanks (s.length + 1) outermost [] s
    some (r.add n, s)
  else if c = '?' ∨ c = '*' ∨ c = '+' then r.repeat? s
  else if c = '{' then none
  else if c = '\\' then do
    let (a, s) ← readEscape r.blanks s
    some (r.add a.node, s)
  else if c = '.' then some (r.add .dot, s)
  else if c = '^' ∨ c = '$' then some (r.add .edge, s)
  else some (r.add (.literal ⟨c, false⟩), s)

def Reader.run? : Nat → Reader → List Char → Option Node
  | 0, _, _ => none
  | fuel + 1, r, s =>
    match skip r.blanks s with
    | [] => if r.groups.isEmpty then some r.level.node else none
    | c :: s => do
      let (r, s) ← r.step? c s
      run? fuel r s

def read? (s : List Char) : Option Node := do
  let n ← Reader.start.run? (s.length + 1) s
  if n.depth ≤ deepest then some n else none

inductive Fault where
  | malformed
  | wordEdge
  deriving DecidableEq

def Fault.message : Fault → String
  | .malformed => "error building NFA"
  | .wordEdge =>
    "unsupported regex feature for DFAs: cannot build DFAs for regexes with Unicode word " ++
      "boundaries; switch to ASCII word boundaries, or heuristically enable Unicode word " ++
      "boundaries or use a different regex engine"

/-- Edges of words are told by byte only. -/
def check (s : List Char) : Except Fault Unit :=
  match (read? s).bind (·.pass? ⟨.usual, false⟩) with
  | none => .error .malformed
  | some p => if p.wordEdge then .error .wordEdge else .ok ()

end Coalesce.Pattern
