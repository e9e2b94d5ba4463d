import Coalesce.Proofs.Interleaving

/-! Reading a history. Kinds of happenings are predicates, and a list of kinds occurs in a history
if there are happenings of these kinds in this order, the latest first, with others in between. -/
namespace Coalesce.Interleaving

def Happening.call : Happening → Nat
  | .began i => i
  | .answered i .. => i
  | .invoked i _ => i
  | .finished i .. => i

def Happening.isAnswer : Happening → Bool
  | .answered .. => true
  | _ => false

def Began (i : Nat) (e : Happening) : Prop := e = .began i

def Invoked (i : Nat) (name : String) (e : Happening) : Prop := e = .invoked i name

def Finished (i : Nat) (name : String) (e : Happening) : Prop :=
  ∃ result, e = .finished i name result

/-- The flag was raised by call `i`, or found up by it. -/
def Noted (i : Nat) (name : String) (e : Happening) : Prop :=
  ∃ (found : Memory.Flags) (r : Raise), e = .answered i found (.raise name) (.ok r)

def Created (i : Nat) (name : String) (e : Happening) : Prop :=
  ∃ found : Memory.Flags, e = .answered i found (.raise name) (.ok .created)

def Landed (name : String) (e : Happening) : Prop := ∃ i, Created i name e

def Refused (i : Nat) (name : String) (e : Happening) : Prop :=
  ∃ found : Memory.Flags, e = .answered i found (.acquire name) (.ok false)

/-- Whether or not the store could lower the flag. -/
def Cleared (i : Nat) (name : String) (e : Happening) : Prop :=
  ∃ (found : Memory.Flags) (reply : Except Error Unit), e = .answered i found (.lower name) reply

def Looked (i : Nat) (name : String) (up : Bool) (e : Happening) : Prop :=
  ∃ found : Memory.Flags, e = .answered i found (.isRaised name) (.ok up)

/-- Call `i` gave the lock back when the flag was up, or was down. -/
def Released (i : Nat) (name : String) (up : Bool) (e : Happening) : Prop :=
  ∃ (found : Memory.Flags) (reply : Except Error Unit),
    e = .answered i found (.release name) reply ∧ found.isRaised name = up

def Published (i : Nat) (name : String) (e : Happening) : Prop :=
  ∃ (found : Memory.Flags) (d : Delivery),
    e = .answered i found (.publish d) (.ok ()) ∧ d.message.identity.lockName = name

def Sent (name : String) (e : Happening) : Prop := ∃ i, Published i name e

def Occurs : List (Happening → Prop) → List Happening → Prop
  | [], _ => True
  | _ :: _, [] => False
  | kind :: kinds, e :: h => kind e ∧ Occurs kinds h ∨ Occurs (kind :: kinds) h

variable {kind : Happening → Prop} {kinds : List (Happening → Prop)} {e : Happening}
  {h : List Happening}

theorem occurs_nil : Occurs [] h := by
  cases h <;> trivial

theorem Occurs.cons (occurs : Occurs kinds h) (e : Happening) : Occurs kinds (e :: h) := by
  cases kinds with
  | nil => exact occurs_nil
  | cons kind kinds => exact .inr occurs

theorem Occurs.push (occurs : Occurs kinds h) (new : kind e) : Occurs (kind :: kinds) (e :: h) :=
  .inl ⟨new, occurs⟩

theorem Occurs.of_cons (occurs : Occurs (kind :: kinds) (e :: h)) (other : ¬kind e) :
    Occurs (kind :: kinds) h := by
  obtain ⟨new, -⟩ | old := occurs
  · exact absurd new other
  · exact old

theorem Occurs.tail (occurs : Occurs (kind :: kinds) h) : Occurs kinds h := by
  induction h with
  | nil => cases occurs
  | cons e h ih =>
    obtain ⟨-, rest⟩ | old := occurs
    · exact rest.cons e
    · exact (ih old).cons e

theorem occurs_singleton : Occurs [kind] h ↔ ∃ e ∈ h, kind e := by
  induction h with
  | nil => simp [Occurs]
  | cons e h ih => simp [Occurs, occurs_nil, ih]

theorem Occurs.head (occurs : Occurs (kind :: kinds) h) : Occurs [kind] h := by
  induction h with
  | nil => cases occurs
  | cons e h ih =>
    obtain ⟨new, -⟩ | old := occurs
    · exact .inl ⟨new, occurs_nil⟩
    · exact (ih old).cons e

/-- The task was invoked, by whatever call, after call `i` began. -/
def Ran (h : List Happening) (i : Nat) (name : String) : Prop :=
  ∃ j, Occurs [Invoked j name, Began i] h

theorem Ran.cons {i : Nat} {name : String} (ran : Ran h i name) (e : Happening) :
    Ran (e :: h) i name := by
  obtain ⟨j, occurs⟩ := ran
  exact ⟨j, occurs.cons e⟩

end Coalesce.Interleaving
