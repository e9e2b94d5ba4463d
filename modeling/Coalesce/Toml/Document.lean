import Coalesce.Toml.Lexical

/-! TOML documents: lines of keys and values under table headers. -/
namespace Coalesce.Toml

mutual

/-- `level` counts the arrays and inline tables around the value. -/
def value? (level : Nat) : Nat → List Char → Option (Value × List Char)
  | 0, _ => none
  | fuel + 1, s =>
    match s with
    | '[' :: s =>
      if nestingLimit ≤ level + 1 then none
      else do
        let (items, s) ← items? (level + 1) fuel (skipLines s.length s)
        some (.array items, s)
    | '{' :: s =>
      if nestingLimit ≤ level + 1 then none
      else
        match skipBlank s with
        | '}' :: s => some (.table .inline [], s)
        | s => do
          let (entries, s) ← inlineEntries? (level + 1) fuel [] s
          some (.table .inline entries, s)
    | s => scalarValue? s

def items? (level : Nat) : Nat → List Char → Option (List Value × List Char)
  | 0, _ => none
  | fuel + 1, s =>
    match s with
    | ']' :: s => some ([], s)
    | s => do
      let (v, s) ← value? level fuel s
      match skipLines s.length s with
      | ',' :: s =>
        let (vs, s) ← items? level fuel (skipLines s.length s)
        some (v :: vs, s)
      | ']' :: s => some ([v], s)
      | _ => none

def inlineEntries? (level : Nat) : Nat → Entries → List Char → Option (Entries × List Char)
  | 0, _, _ => none
  | fuel + 1, entries, s => do
    let ((path, key), s) ← key? s
    let s ← expect? '=' s
    let (v, s) ← value? level fuel (skipBlank s)
    let entries ← define path key v .inline entries
    match skipBlank s with
    | ',' :: s => inlineEntries? level fuel entries s
    | '}' :: s => some (entries, s)
    | _ => none

end

/-- The document so far and the way to the table that lines are added to. -/
structure Draft where
  root : Entries
  current : List String

def addLine (d : Draft) (path : List String) (key : String) (v : Value) : Option Draft := do
  let root ← updateAt false (fun origin t => define path key v origin t) d.current .header d.root
  some { d with root }

def line? (d : Draft) (s : List Char) : Option (Draft × List Char) :=
  match skipBlank s with
  | '[' :: '[' :: s => do
    let ((path, key), s) ← key? s
    let s ← expect? ']' (← expect? ']' s)
    let root ← appendTable path key d.root
    some (⟨root, path ++ [key]⟩, s)
  | '[' :: s => do
    let ((path, key), s) ← key? s
    let s ← expect? ']' s
    let root ← openTable path key d.root
    some (⟨root, path ++ [key]⟩, s)
  | [] => some (d, [])
  | c :: s =>
    if c = '#' ∨ c = '\n' ∨ c = '\r' then some (d, c :: s)
    else do
      let ((path, key), s) ← key? (c :: s)
      let s ← expect? '=' s
      let (v, s) ← value? 0 (s.length + 1) (skipBlank s)
      some (← addLine d path key v, s)

def lines? : Nat → Draft → List Char → Option Entries
  | 0, _, _ => none
  | fuel + 1, d, s => do
    let (d, s) ← line? d s
    match ← finishLine s with
    | [] => some d.root
    | s => lines? fuel d s

def skipMark : List Char → List Char
  | '\ufeff' :: s => s
  | s => s

def parse? (text : String) : Option Entries :=
  let s := skipMark text.toList
  lines? (s.length + 1) ⟨[], []⟩ s

end Coalesce.Toml
