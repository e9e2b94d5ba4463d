import Coalesce.Json.Decoding
import Coalesce.Pattern.Reading
import Coalesce.Server.Connection

/-! What can go wrong. An error names its cause; its text is made in one place, and the texts of
deeper causes follow from it. -/
namespace Coalesce

/-- An answer may be one whose columns, which count from 0, cannot be read. -/
inductive DatabaseFault where
  | unreachable (obstacle : String)
  | configuration (fault : ConnectionFault)
  | returned (detail : String)
  | unreadable (column : Nat) (detail : String)
  deriving DecidableEq

inductive FileFault where
  | notFound
  | isDirectory
  | other (detail : String)
  deriving DecidableEq

inductive LogLevelFault where
  | badLevel
  | badDirective
  | field (fault : Pattern.Fault)
  deriving DecidableEq

inductive ConfigFault where
  | notSet (name : String)
  | invalidValue (name raw : String)
  | notBoolean (name raw : String)
  | belowOne (name : String)
  | unreadableOverrides (path : String) (fault : FileFault)
  | malformedOverrides
  | overrideOfUnregistered (task : String)
  | emptyInterval
  | logLevel (raw : String) (fault : LogLevelFault)
  | stated (text : String)
  deriving DecidableEq

inductive TaskNameFlaw where
  | empty
  | separator
  | blank
  | registered
  | reserved
  deriving DecidableEq

inductive LockNameFlaw where
  | emptyTask
  | notList (value : Json)
  | notJson (text : String)
  | stated (text : String)

/-- The cause of a failed task is the error it ended with; a plain text stands as `other`. -/
inductive Error where
  | database (fault : DatabaseFault)
  | migration (fault : DatabaseFault)
  | io (text : String)
  | json (mismatch : Json.Mismatch)
  | config (fault : ConfigFault)
  | unknownTask (task : String)
  | invalidTaskName (name : String) (flaw : TaskNameFlaw)
  | malformedLockName (name : String) (flaw : LockNameFlaw)
  | insideTransaction (task : String)
  | task (task : String) (cause : Error)
  | other (text : String)

def DatabaseFault.message : DatabaseFault → String
  | .unreachable obstacle => s!"error communicating with database: {obstacle}"
  | .configuration fault => s!"error with configuration: {fault.message}"
  | .returned detail => s!"error returned from database: {detail}"
  | .unreadable column detail => s!"error occurred while decoding column {column}: {detail}"

def DatabaseFault.causes : DatabaseFault → List String
  | .unreachable obstacle => [obstacle]
  | .configuration fault => fault.causes
  | .returned detail => [detail]
  | .unreadable _ detail => [detail]

def FileFault.message : FileFault → String
  | .notFound => "No such file or directory (os error 2)"
  | .isDirectory => "Is a directory (os error 21)"
  | .other detail => detail

def LogLevelFault.message : LogLevelFault → String
  | .badLevel =>
    "error parsing level filter: expected one of \"off\", \"error\", \"warn\", \"info\", " ++
      "\"debug\", \"trace\", or a number 0-5"
  | .badDirective => "invalid filter directive"
  | .field fault => s!"invalid field filter: {fault.message}"

def ConfigFault.message : ConfigFault → String
  | .notSet name => s!"required environment variable {name} is not set"
  | .invalidValue name raw => s!"{name} has an invalid value: {Text.quote raw}"
  | .notBoolean name raw => s!"{name} is not a boolean: {Text.quote raw}"
  | .belowOne name => s!"{name} must be at least 1"
  | .unreadableOverrides path fault => s!"cannot read route overrides {path}: {fault.message}"
  | .malformedOverrides => "bad route overrides"
  | .overrideOfUnregistered task => s!"route override for unregistered task {task}"
  | .emptyInterval => "sweep interval must be non-zero"
  | .logLevel raw fault => s!"invalid log level {Text.quote raw}: {fault.message}"
  | .stated text => text

def TaskNameFlaw.message : TaskNameFlaw → String
  | .empty => "must not be empty"
  | .separator => "must not contain ':'"
  | .blank => "must not contain whitespace"
  | .registered => "already registered"
  | .reserved => "reserved for the built-in sweep"

def LockNameFlaw.message : LockNameFlaw → String
  | .emptyTask => "empty task name"
  | .notList value => s!"arguments are not a JSON array: {value.compact}"
  | .notJson text => s!"arguments are not valid JSON: {text}"
  | .stated text => text

namespace Error

def message : Error → String
  | .database fault => s!"database error: {fault.message}"
  | .migration fault => s!"migration failed: while executing migrations: {fault.message}"
  | .io text => s!"io error: {text}"
  | .json mismatch => s!"json error: {mismatch.message}"
  | .config fault => s!"configuration error: {fault.message}"
  | .unknownTask name => s!"unknown task: {name}"
  | .invalidTaskName name flaw => s!"invalid task name {Text.quote name}: {flaw.message}"
  | .malformedLockName name flaw => s!"malformed lock name {Text.quote name}: {flaw.message}"
  | .insideTransaction name =>
    s!"lazy task {name} must not be dispatched inside a transaction; defer it until commit"
  | .task name cause => s!"task {name} failed: {message cause}"
  | .other text => text

def causes : Error → List String
  | .database fault => fault.message :: fault.causes
  | .migration fault =>
    s!"while executing migrations: {fault.message}" :: fault.message :: fault.causes
  | .io text => [text]
  | .json mismatch => [mismatch.message]
  | .task _ cause => cause.message :: causes cause
  | _ => []

end Error
end Coalesce
