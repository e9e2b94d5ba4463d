import Coalesce.Offline

/-! The command line of the dispatch daemon. -/
namespace Coalesce.Main

def usage : String :=
  "Coalescing task dispatch\n\n" ++
  "Usage: lazyd serve [--queue QUEUE]... [--no-sweep]\n" ++
  "       lazyd sweep\n" ++
  "       lazyd flags list\n" ++
  "       lazyd flags clear NAME\n" ++
  "       lazyd lock-name TASK [--args JSON]\n"

open CommandLine

def environment (names : List String) : IO Environment := do
  let values ← names.mapM fun name => do return (name, ← IO.getEnv name)
  return fun name => (values.lookup name).bind id

def variableNames : List String :=
  ["DATABASE_URL", "OTEL_ENDPOINT", "LOG_LEVEL", "DISPATCH_DEFAULT_QUEUE", "DISPATCH_LOCAL_CYCLES",
    "DISPATCH_STRICT", "DISPATCH_BYPASS_BROKER", "DISPATCH_SWEEP_INTERVAL_SECS",
    "DISPATCH_ROUTES", "PGHOST", "PGHOSTADDR", "PGPORT"]

def write (exit : Exit) : IO UInt32 := do
  IO.print exit.output
  IO.eprint exit.complaint
  return exit.code.toUInt32

def run (words : List String) : IO UInt32 := do
  match Command.ofWords (words.map .ofText) with
  | .error .help => write (.printed usage)
  | .error .misuse => write ⟨2, "", usage⟩
  | .ok command =>
    let env ← environment variableNames
    match command.start (Offline.surroundings env none) with
    | .ended exit => write exit

end Coalesce.Main

def main (words : List String) : IO UInt32 := Coalesce.Main.run words
