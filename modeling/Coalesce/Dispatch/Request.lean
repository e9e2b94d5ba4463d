import Coalesce.Dispatch.Publishing
import Coalesce.Flag

/-! The single steps that calls take on what they share, and what each step answers. A call is a
machine that asks for one step at a time, so calls can be interleaved at every step. -/
namespace Coalesce

inductive Phase where
  | initial
  | recheck
  | sweep
  deriving DecidableEq

def Phase.text : Phase → String
  | .initial => "initial"
  | .recheck => "recheck"
  | .sweep => "sweep"

inductive Request where
  | acquire (lock : String)
  | release (lock : String)
  | raise (flag : String)
  | isRaised (flag : String)
  | lower (flag : String)
  | raised
  | publish (delivery : Delivery)
  | invoke (task : String) (input : TaskInput)

/-- Locks are tried and never waited for. The answer of an invocation is the task's own. -/
abbrev Request.Reply : Request → Type
  | .acquire _ => Except Error Bool
  | .release _ => Except Error Unit
  | .raise _ => Except Error Raise
  | .isRaised _ => Except Error Bool
  | .lower _ => Except Error Unit
  | .raised => Except Error (List Flag)
  | .publish _ => Except Error Unit
  | .invoke _ _ => Except Error Json

/-- An attempt that was answered is counted, whichever way it went. -/
def attempted (phase : Phase) (acquired : Bool) : Event :=
  .counted (.lockAttempt phase.text acquired)

def releasing (lock : String) : Event := .trace "releasing advisory lock" [("lock", lock)]

end Coalesce
