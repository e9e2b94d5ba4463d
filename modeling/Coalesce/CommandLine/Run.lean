import Coalesce.CommandLine.Arguments
import Coalesce.CommandLine.Exit
import Coalesce.Config
import Coalesce.Dispatch.SweepLoop
import Coalesce.Json.Listing
import Coalesce.Server.Database
import Coalesce.Telemetry.Endpoint
import Coalesce.Telemetry.Filter
import Coalesce.Worker.Loop

/-! Carrying out commands. The name of a lock is found without any configuration; all else reads the
configuration first, then connects, and then works on the server. -/
namespace Coalesce.CommandLine

/-- What a command finds around it. `filter` is a log filter of the process, which goes before the
configured one if it can be read; `connect` opens the server at an address. -/
structure Surroundings (σ : Type) where
  env : Environment
  filter : Option String
  connect : String → Except Error σ

def printLockName (task : String) (args : Option String) : Except Error String := do
  validateTaskName task
  let args ← match args with
    | none => .ok []
    | some text =>
      (Json.parseList text).mapError fun flaw => .other ("--args must be a JSON array: " ++ flaw)
  .ok (Identity.lockName ⟨task, args⟩ ++ "\n")

/-- The log filter is looked at before the address for traces. -/
def checkTelemetry (filter : Option String) (config : Config) : Except Error Unit := do
  match filter.map Telemetry.checkFilter with
  | some (.ok ()) => .ok ()
  | _ =>
    (Telemetry.checkFilter config.logLevel).mapError fun fault =>
      .config (.logLevel config.logLevel fault)
  match config.traceEndpoint with
  | none => .ok ()
  | some endpoint => Telemetry.checkEndpoint endpoint

inductive Start (σ : Type) where
  | ended (exit : Exit)
  | connected (config : Config) (server : σ)

namespace Command

def reports : Command → Bool
  | .serve .. => true
  | .sweep => true
  | _ => false

variable {σ : Type} (s : Surroundings σ)

def connect (c : Command) : Except Error (Config × σ) := do
  let config ← Config.ofEnvironment s.env
  if c.reports then checkTelemetry s.filter config
  let server ← s.connect config.databaseUrl
  .ok (config, server)

def start (c : Command) : Start σ :=
  match c with
  | .lockName task args => .ended (.ofResult (printLockName task args))
  | c =>
    match c.connect s with
    | .ok (config, server) => .connected config server
    | .error e => .ended (.ofError e)

end Command

structure Service where
  dispatcher : Dispatcher Unit
  workers : List WorkerConfig
  sweeps : Option SweepLoop

inductive Done where
  | printed (text : String)
  | serving (service : Service)

/-- The command line knows no task but the sweep. -/
def dispatcher (config : Config) (files : Files) : Except Error (Dispatcher Unit) := do
  Dispatcher.build config.settings [] () (← config.routes files)

/-- Without queues the default queue is served. -/
def service (config : Config) (files : Files) (queues : List String) (sweeping : Bool) :
    Except Error Service := do
  let dispatcher ← dispatcher config files
  let queues := if queues = [] then [config.defaultQueue] else queues
  let sweeps ←
    if sweeping then (SweepLoop.ofInterval (1000 * config.sweepSeconds)).map some else .ok none
  .ok ⟨dispatcher, queues.map .ofQueue, sweeps⟩

def sweepText : Outcome → String
  | .completed result _ => result.pretty ++ "\n"
  | .requeued result _ _ => result.pretty ++ "\n"
  | o => "Sweep already running elsewhere (" ++ o.label ++ ")\n"

def column (text : String) : String := text ++ "".pushn ' ' (20 - text.length) ++ "  "

def flagsText (flags : List Flag) : String :=
  if flags = [] then "No reschedule flags.\n"
  else
    let rows := flags.map fun f => column f.raisedAt.toListing ++ f.name ++ "\n"
    column "CREATED" ++ "NAME\n" ++ "".pushn '-' 80 ++ "\n" ++ String.join rows ++ "\n" ++
      toString flags.length ++ " flag(s)\n"

def clearedText (name : String) (cleared : Bool) : String :=
  if cleared then "Cleared: " ++ name ++ "\n" else "No flag named " ++ name ++ "\n"

namespace Command

structure Ids where
  sweep : String
  resubmissions : Nat → String

def work (config : Config) (files : Files) (ids : Ids) (db : Server.Database) :
    Command → Except Error Done × Server.Database
  | .serve queues sweeping => ((service config files queues sweeping).map .serving, db)
  | .sweep =>
    match dispatcher config files with
    | .error e => (.error e, db)
    | .ok d =>
      let (result, db) := db.runSweep d ids.sweep ids.resubmissions
      (result.map fun o => .printed (sweepText o), db)
  | .listFlags =>
    let (result, db) := db.perform Server.Flags.list
    (result.map fun flags => .printed (flagsText flags), db)
  | .clearFlag name =>
    let (result, db) := db.perform (Server.Flags.clear name)
    (result.map fun cleared => .printed (clearedText name cleared), db)
  | .lockName task args => ((printLockName task args).map .printed, db)

def carryOut (config : Config) (files : Files) (ids : Ids) (db : Server.Database) (c : Command) :
    Except Error Done × Server.Database :=
  match db.migrate with
  | (.error e, db) => (.error e, db)
  | (.ok (), db) => c.work config files ids db

end Command
end Coalesce.CommandLine
