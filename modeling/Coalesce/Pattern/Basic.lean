/-! Regular expressions, as far as it takes to say whether one can be run. Matching is by code point
or, where the Unicode flag is off, by byte; properties of code points and the folding of their case
are not at hand, and what is matched has to be well-formed text. -/
namespace Coalesce.Pattern

structure Literal where
  char : Char
  byte : Bool
  deriving DecidableEq

structure Switch where
  caseless : Option Bool
  unicode : Option Bool
  blanks : Option Bool
  deriving DecidableEq

inductive Members where
  | empty
  | literal (l : Literal)
  | range (first last : Literal)
  | named (negated : Bool)
  | shorthand (negated : Bool)
  | property
  | class (negated : Bool) (members : Members)
  | union (items : List Members)
  | combined (left right : Members)

inductive Node where
  | empty
  | switched (s : Switch)
  | literal (l : Literal)
  | dot
  | edge
  | wordEdge
  | shorthand (negated : Bool)
  | property
  | class (negated : Bool) (members : Members)
  | repeated (sub : Node)
  | group (s : Switch) (sub : Node)
  | alternation (branches : List Node)
  | concatenation (items : List Node)

/-! How deep nodes stand in each other; those without a node inside do not count. -/

mutual

def Members.depth : Members → Nat
  | .class _ members => members.depth + 1
  | .union items => Members.depthAll items + 1
  | .combined left right => max left.depth right.depth + 1
  | _ => 0

def Members.depthAll : List Members → Nat
  | [] => 0
  | m :: rest => max m.depth (depthAll rest)

end

mutual

def Node.depth : Node → Nat
  | .class _ members => members.depth + 1
  | .repeated sub => sub.depth + 1
  | .group _ sub => sub.depth + 1
  | .alternation branches => Node.depthAll branches + 1
  | .concatenation items => Node.depthAll items + 1
  | _ => 0

def Node.depthAll : List Node → Nat
  | [] => 0
  | n :: rest => max n.depth (depthAll rest)

end

def deepest : Nat := 250

/-! Whether a pattern can be built depends on the flags that are on where its parts stand. -/

structure Mode where
  caseless : Bool
  unicode : Bool
  deriving DecidableEq

def Mode.usual : Mode := ⟨false, true⟩

def Mode.after (m : Mode) (s : Switch) : Mode :=
  ⟨s.caseless.getD m.caseless, s.unicode.getD m.unicode⟩

def isAscii (c : Char) : Bool := c.toNat < 0x80

/-- A literal is folded if case does not count, and a byte is no part of a longer code point. -/
def Literal.buildable (l : Literal) (m : Mode) : Bool :=
  if m.unicode then !m.caseless else !l.byte || isAscii l.char

mutual

/-- Members that are code points are folded, so that only empty ones are left if case does not
count. Members that are bytes stay below the bytes of longer code points, which whatever is negated
has among its members. -/
def Members.buildable (m : Mode) : Members → Bool
  | .empty => true
  | .literal l => if m.unicode then !m.caseless else isAscii l.char
  | .range first last =>
    if m.unicode then !m.caseless else isAscii first.char && isAscii last.char
  | .named negated => if m.unicode then !m.caseless else !negated
  | .shorthand negated => !m.unicode && !negated
  | .property => false
  | .class negated members => (m.unicode || !negated) && members.buildable m
  | .union items => Members.allBuildable m items
  | .combined left right => left.buildable m && right.buildable m

def Members.allBuildable (m : Mode) : List Members → Bool
  | [] => true
  | x :: rest => x.buildable m && allBuildable m rest

end

/-- What is known of a pattern behind one of its parts: the flags, and whether an edge of a word has
been asked for by code point. -/
structure Passage where
  mode : Mode
  wordEdge : Bool
  deriving DecidableEq

mutual

def Node.pass? (p : Passage) : Node → Option Passage
  | .empty => some p
  | .switched s => some { p with mode := p.mode.after s }
  | .literal l => if l.buildable p.mode then some p else none
  | .dot => if p.mode.unicode then some p else none
  | .edge => some p
  | .wordEdge => some { p with wordEdge := p.wordEdge || p.mode.unicode }
  | .shorthand negated => if !p.mode.unicode && !negated then some p else none
  | .property => none
  | .class negated members =>
    if (p.mode.unicode || !negated) && members.buildable p.mode then some p else none
  | .repeated sub => sub.pass? p
  | .group s sub =>
    (sub.pass? { p with mode := p.mode.after s }).map fun q => { q with mode := p.mode }
  | .alternation branches => Node.passAll? p branches
  | .concatenation items => Node.passAll? p items

def Node.passAll? (p : Passage) : List Node → Option Passage
  | [] => some p
  | n :: rest =>
    match n.pass? p with
    | some q => passAll? q rest
    | none => none

end

end Coalesce.Pattern
