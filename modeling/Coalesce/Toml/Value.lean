import Coalesce.Table
import Coalesce.Number.Binary64

/-! TOML values. A table remembers how it came to be, since that decides who may add to it. -/
namespace Coalesce.Toml

/-- `implied` tables are named on the way to a header's table, `dotted` ones on the way to a
dotted key. -/
inductive Origin where
  | header
  | implied
  | dotted
  | inline
  deriving DecidableEq

inductive Value where
  | text (value : String)
  | integer (value : Int)
  | real
  | boolean (value : Bool)
  | datetime (text : String)
  | array (items : List Value)
  | table (origin : Origin) (entries : List (String × Value))
  | tables (items : List (List (String × Value)))

abbrev Entries := Table Value

/-- Changes the table at a path and makes the tables on the way that are missing. Dotted keys pass
only through tables that no header and no braces closed. -/
def updateAt (dotted : Bool) (change : Origin → Entries → Option Entries) :
    List String → Origin → Entries → Option Entries
  | [], origin, t => change origin t
  | key :: path, _, t =>
    match t.get? key with
    | none => do
      let origin := if dotted then .dotted else .implied
      let inner ← updateAt dotted change path origin []
      some (t.insert key (.table origin inner))
    | some (.table origin inner) =>
      if origin = .inline ∨ (dotted ∧ origin = .header) then none
      else do
        let inner ← updateAt dotted change path origin inner
        some (t.insert key (.table origin inner))
    | some (.tables items) => do
      let last ← items.getLast?
      let inner ← updateAt dotted change path .header last
      some (t.insert key (.tables (items.dropLast ++ [inner])))
    | some _ => none

/-- A new entry in the table under a dotted key: the table it lands in was itself made by a dotted
key, or no dots were written. -/
def define (path : List String) (key : String) (value : Value) (origin : Origin) (t : Entries) :
    Option Entries :=
  updateAt true (fun landed t =>
    if (landed = .dotted) ≠ (path ≠ []) then none
    else if t.contains key then none
    else some (t.insert key value)) path origin t

/-- A table header defines each table once; an implied one may still be defined. -/
def openTable (path : List String) (key : String) (root : Entries) : Option Entries :=
  updateAt false (fun _ t =>
    match t.get? key with
    | none => some (t.insert key (.table .header []))
    | some (.table .implied inner) => some (t.insert key (.table .header inner))
    | some _ => none) path .header root

def appendTable (path : List String) (key : String) (root : Entries) : Option Entries :=
  updateAt false (fun _ t =>
    match t.get? key with
    | none => some (t.insert key (.tables [[]]))
    | some (.tables items) => some (t.insert key (.tables (items ++ [[]])))
    | some _ => none) path .header root

end Coalesce.Toml
