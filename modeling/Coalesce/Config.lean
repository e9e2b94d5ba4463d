import Coalesce.Registry

/-! Configuration from environment variables. A variable that is not text counts as unset, and the
first fault in a fixed order of variables is the one reported. -/
namespace Coalesce

abbrev Environment := String → Option String

/-- What a system keeps in its variables are bytes; a variable whose bytes are no text is not
set. -/
def Environment.ofBytes (raw : String → Option ByteArray) : Environment := fun name =>
  (raw name).bind String.fromUTF8?

abbrev Files := String → Except FileFault String

structure Config where
  databaseUrl : String
  traceEndpoint : Option String
  logLevel : String
  defaultQueue : String
  localCycles : Nat
  strict : Bool
  bypassBroker : Bool
  sweepSeconds : Nat
  routesFile : Option String
  deriving DecidableEq

namespace Config

def largestCycles : Nat := 4294967295

def largestSeconds : Nat := 18446744073709551615

/-- A count: blanks around it and one plus sign before it do not matter. -/
def count? (limit : Nat) (raw : String) : Option Nat :=
  let s := Text.trim raw.toList
  let ds := match s with
    | '+' :: ds => ds
    | ds => ds
  if ds ≠ [] ∧ ds.all Json.isDigit ∧ Json.digitsValue ds ≤ limit then some (Json.digitsValue ds)
  else none

def switch? (raw : String) : Option Bool :=
  let word := String.ofList ((Text.trim raw.toList).map Char.toLower)
  if word ∈ ["1", "true", "yes", "on"] then some true
  else if word ∈ ["0", "false", "no", "off"] then some false
  else none

def readCount (env : Environment) (name : String) (default limit : Nat) : Except Error Nat :=
  match env name with
  | none => .ok default
  | some raw =>
    match count? limit raw with
    | none => .error (.config (.invalidValue name raw))
    | some 0 => .error (.config (.belowOne name))
    | some n => .ok n

def readSwitch (env : Environment) (name : String) (default : Bool) : Except Error Bool :=
  match env name with
  | none => .ok default
  | some raw =>
    match switch? raw with
    | none => .error (.config (.notBoolean name raw))
    | some b => .ok b

def readRequired (env : Environment) (name : String) : Except Error String :=
  match env name with
  | none => .error (.config (.notSet name))
  | some raw => .ok raw

def ofEnvironment (env : Environment) : Except Error Config := do
  let localCycles ← readCount env "DISPATCH_LOCAL_CYCLES" defaultLocalCycles largestCycles
  let sweepSeconds ←
    readCount env "DISPATCH_SWEEP_INTERVAL_SECS" defaultSweepSeconds largestSeconds
  let databaseUrl ← readRequired env "DATABASE_URL"
  let strict ← readSwitch env "DISPATCH_STRICT" true
  let bypassBroker ← readSwitch env "DISPATCH_BYPASS_BROKER" false
  .ok { databaseUrl, localCycles, sweepSeconds, strict, bypassBroker
        traceEndpoint := env "OTEL_ENDPOINT"
        logLevel := (env "LOG_LEVEL").getD "info"
        defaultQueue := (env "DISPATCH_DEFAULT_QUEUE").getD defaultQueueName
        routesFile := env "DISPATCH_ROUTES" }

def settings (c : Config) : Settings :=
  ⟨c.defaultQueue, c.localCycles, c.strict, c.bypassBroker⟩

def routes (c : Config) (files : Files) : Except Error (Option Routes) :=
  match c.routesFile with
  | none => .ok none
  | some path =>
    match files path with
    | .error fault => .error (.config (.unreadableOverrides path fault))
    | .ok text => (Routes.ofToml text).map some

/-- The address of the database may hold a password and is not shown. -/
def describe (c : Config) : String :=
  Text.record "Config"
    [("database_url", "SecretBox<str>([REDACTED])"),
      ("otel_endpoint", Text.optional (c.traceEndpoint.map Text.quote)),
      ("log_level", Text.quote c.logLevel), ("default_queue", Text.quote c.defaultQueue),
      ("local_cycles", toString c.localCycles), ("strict", toString c.strict),
      ("bypass_broker", toString c.bypassBroker),
      ("sweep_interval", toString c.sweepSeconds ++ "s"),
      ("routes_file", Text.optional (c.routesFile.map Text.quote))]

end Config
end Coalesce
