import Coalesce.Json.Decoding

/-! Reading a text that has to be a list. Another value is refused at the place up to which it was
read; an object is not read at all. -/
namespace Coalesce.Json

inductive ListFault where
  | flawed (fault : Fault)
  | notList (found : Json) (left : Nat)

def readList (s : List Char) : Except ListFault (List Json) :=
  match skipSpace s with
  | '{' :: r => .error (.notList (.obj []) (byteLength ('{' :: r)))
  | _ =>
    match readValue maxDepth (2 * s.length + 2) s with
    | .error fault => .error (.flawed fault)
    | .ok (.arr items, rest) =>
      match skipSpace rest with
      | [] => .ok items
      | rest => .error (.flawed ⟨.trailingCharacters, byteLength rest - 1⟩)
    | .ok (v, rest) => .error (.notList v (byteLength rest))

def ListFault.message (text : List Char) : ListFault → String
  | .flawed fault => fault.message text
  | .notList found left => placed (Mismatch.invalidType found "a sequence").message left text

def parseList (text : String) : Except String (List Json) :=
  (readList text.toList).mapError (·.message text.toList)

end Coalesce.Json
