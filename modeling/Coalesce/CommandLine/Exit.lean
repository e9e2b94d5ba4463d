import Coalesce.Error

/-! How the program ends: its exit code and what it wrote. -/
namespace Coalesce.CommandLine

structure Exit where
  code : Nat
  output : String
  complaint : String
  deriving DecidableEq

namespace Exit

def printed (text : String) : Exit := ⟨0, text, ""⟩

def indented (first next text : String) : String :=
  first ++ ("\n" ++ next).intercalate (text.splitOn "\n")

/-- Causes are numbered from 0 if there are several. -/
def causeLines : List String → List String
  | [cause] => [indented "    " "    " cause]
  | causes =>
    causes.zipIdx.map fun (cause, n) =>
      let number := toString n
      indented ("".pushn ' ' (5 - number.length) ++ number ++ ": ") "       " cause

def describe (e : Error) : String :=
  let causes := match e.causes with
    | [] => ""
    | causes => "\n\nCaused by:\n" ++ "\n".intercalate (causeLines causes)
  "Error: " ++ e.message ++ causes ++ "\n"

def ofError (e : Error) : Exit := ⟨1, "", describe e⟩

def ofResult : Except Error String → Exit
  | .ok text => printed text
  | .error e => ofError e

end Exit
end Coalesce.CommandLine
