import Coalesce.Server.Link

/-! Reschedule flags kept by the server. Each change is a transaction of its own, so that a flag can
be seen by others as soon as the call has returned. -/
namespace Coalesce.Server.Flags

def raise (name : String) : Query Raise :=
  .transaction (.statement fun now tables => tables.raise name now)

def isRaised (name : String) : Query Bool :=
  .statement fun _ tables => (tables.isRaised name, tables)

def lower (name : String) : Query Unit := .statement fun _ tables => ((), tables.lower name)

def list : Query (List Flag) := .statement fun _ tables => (tables.sortedFlags, tables)

/-- Lowers a flag by hand, which gives up the trigger that it stands for. -/
def clear (name : String) : Query Bool := do
  let cleared ← .statement fun _ tables => (tables.isRaised name, tables.lower name)
  if cleared then Query.report (.counted (.flagOperation "clear"))
  return cleared

end Coalesce.Server.Flags
