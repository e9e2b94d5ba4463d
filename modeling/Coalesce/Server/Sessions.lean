/-! Sessions with the server and the advisory locks that belong to them. A lock is taken in a
session of its own, which goes back to the pool when the lock is released and is closed when it may
still have the lock. -/
namespace Coalesce.Server

/-- What came of a statement about a lock. One that fails may have taken effect all the same. -/
inductive Verdict where
  | answered
  | failed (effective : Bool)
  deriving DecidableEq

/-- A key is granted to a session as often as the session took it. `leased` are the sessions of live
handles with their keys, `closing` those that are to end. Sessions are numbered as they are
opened. -/
structure Sessions (κ : Type) where
  grants : List (Nat × κ)
  idle : List Nat
  leased : List (Nat × κ)
  closing : List Nat
  opened : Nat

inductive Attempt where
  | taken (handle : Nat)
  | busy
  | failed
  deriving DecidableEq

inductive Return where
  | released
  | notHeld
  | failed
  deriving DecidableEq

namespace Sessions

variable {κ : Type} [DecidableEq κ] (s : Sessions κ)

def empty : Sessions κ := ⟨[], [], [], [], 0⟩

def holds (session : Nat) (key : κ) : Bool := s.grants.contains (session, key)

def mayLock (session : Nat) (key : κ) : Bool :=
  s.grants.all fun (other, taken) => taken ≠ key || other = session

def lock (session : Nat) (key : κ) : Bool × Sessions κ :=
  if s.mayLock session key then (true, { s with grants := (session, key) :: s.grants })
  else (false, s)

def unlock (session : Nat) (key : κ) : Bool × Sessions κ :=
  (s.holds session key, { s with grants := s.grants.erase (session, key) })

def checkOut : Nat × Sessions κ :=
  match s.idle with
  | session :: rest => (session, { s with idle := rest })
  | [] => (s.opened, { s with opened := s.opened + 1 })

def putBack (session : Nat) : Sessions κ := { s with idle := session :: s.idle }

def close (session : Nat) : Sessions κ := { s with closing := session :: s.closing }

def finish (session : Nat) : Sessions κ :=
  { s with
    grants := s.grants.filter (·.1 ≠ session)
    closing := s.closing.filter (· ≠ session) }

def finishAll : Sessions κ := s.closing.foldl finish s

def lease (session : Nat) (key : κ) : Sessions κ :=
  { s with leased := (session, key) :: s.leased }

def endLease (session : Nat) : Sessions κ :=
  { s with leased := s.leased.filter (·.1 ≠ session) }

def handle? (key : κ) : Option Nat := (s.leased.find? (·.2 = key)).map (·.1)

/-- A session whose lock was not taken goes back to the pool, and so does one whose statement
failed. -/
def acquire (key : κ) (verdict : Verdict) : Attempt × Sessions κ :=
  let (session, s) := s.checkOut
  match verdict with
  | .answered =>
    let (taken, s) := s.lock session key
    if taken then (.taken session, s.lease session key) else (.busy, s.putBack session)
  | .failed effective =>
    (.failed, (if effective then (s.lock session key).2 else s).putBack session)

/-- Only a session that gave its lock back is used again. -/
def release (session : Nat) (key : κ) (verdict : Verdict) : Return × Sessions κ :=
  let s := s.endLease session
  match verdict with
  | .answered =>
    let (held, s) := s.unlock session key
    if held then (.released, s.putBack session) else (.notHeld, s.close session)
  | .failed effective =>
    (.failed, (if effective then (s.unlock session key).2 else s).close session)

def drop (session : Nat) : Sessions κ := (s.endLease session).close session

end Sessions
end Coalesce.Server
