import Coalesce.Settings
import Coalesce.Table

/-! What a dispatcher reports while it works: log lines, spans and counted occurrences. Field values
are texts. -/
namespace Coalesce

inductive Level where
  | trace
  | debug
  | info
  | warn
  | error
  deriving DecidableEq

def Level.text : Level → String
  | .trace => "TRACE"
  | .debug => "DEBUG"
  | .info => "INFO"
  | .warn => "WARN"
  | .error => "ERROR"

abbrev Field := String × String

/-- What is counted, and the labels it is counted under in order of their names. -/
inductive Occurrence where
  | lockAttempt (phase : String) (acquired : Bool)
  | flagOperation (operation : String)
  | taskRun (task : String) (ok : Bool)
  | runTimed (task : String)
  | resubmission (reason : String)
  | published (queue exchange : String) (delivered : Bool)
  | queueOperation (queue operation : String)
  | sweepDone
  deriving DecidableEq

inductive Event where
  | line (level : Level) (message : String) (fields : List Field)
  | span (name : String) (fields : List Field)
  | filled (fields : List Field)
  | counted (what : Occurrence)
  deriving DecidableEq

namespace Occurrence

def metric : Occurrence → String
  | .lockAttempt .. => "dispatch.lock.attempts"
  | .flagOperation _ => "dispatch.flag.operations"
  | .taskRun .. => "dispatch.task.runs"
  | .runTimed _ => "dispatch.task.duration_ms"
  | .resubmission _ => "dispatch.resubmissions"
  | .published .. => "dispatch.messages.published"
  | .queueOperation .. => "dispatch.queue.operations"
  | .sweepDone => "dispatch.sweeps"

def labels : Occurrence → List Field
  | .lockAttempt phase acquired =>
    [("phase", phase), ("result", if acquired then "acquired" else "contended")]
  | .flagOperation operation => [("operation", operation)]
  | .taskRun task ok => [("status", if ok then "ok" else "error"), ("task", task)]
  | .runTimed task => [("task", task)]
  | .resubmission reason => [("reason", reason)]
  | .published queue exchange delivered =>
    [("delivered", toString delivered), ("exchange", exchange), ("queue", queue)]
  | .queueOperation queue operation => [("operation", operation), ("queue", queue)]
  | .sweepDone => []

def series (o : Occurrence) : String :=
  o.metric ++ "\x7b" ++ ",".intercalate (o.labels.map fun (k, v) => k ++ "=" ++ v) ++ "\x7d"

end Occurrence

namespace Event

def trace (message : String) (fields : List Field) : Event := .line .trace message fields

def debug (message : String) (fields : List Field) : Event := .line .debug message fields

def info (message : String) (fields : List Field) : Event := .line .info message fields

def warn (message : String) (fields : List Field) : Event := .line .warn message fields

def error (message : String) (fields : List Field) : Event := .line .error message fields

end Event

abbrev Tally := Table Nat

namespace Tally

def count (what : Occurrence) (t : Tally) : Tally :=
  t.insert what.series ((t.get? what.series).getD 0 + 1)

def countAll (events : List Event) (t : Tally) : Tally :=
  events.foldl (fun t e =>
    match e with
    | .counted what => t.count what
    | _ => t) t

end Tally
end Coalesce
