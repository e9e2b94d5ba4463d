import Coalesce.Dispatch.Trigger

/-! What a step of a trigger can lead to. There is one rule for each kind of answer at each point,
with the hand-off, if any, whose message is out by then; what a run of steps keeps is shown by these
rules. -/
namespace Coalesce.Trigger

def reasons (events : List Event) : List String :=
  events.filterMap fun
    | .counted (.resubmission reason) => some reason
    | _ => none

def sent? (t : Trigger) : Except Error Unit → Option Publication
  | .ok () => some t.resubmission
  | .error _ => none

/-- What a call returns by what has come of the message of its hand-off. -/
def Handoff.returned (t : Trigger) : Handoff → Except Error Unit → Except Error Outcome
  | .lostWakeup, reply => reply.map fun () => .resubmitted t.resubmission
  | .exhausted result cycles, reply => .ok (.requeued result cycles (t.sent? reply))
  | .failed cause, _ => .error cause

inductive HandsOff (t : Trigger) : (p : Point) → (p.request t).Reply → Handoff → Prop where
  | left : HandsOff t .leaving (.ok ()) .lostWakeup
  | exhausted (result : Json) (cycles : Nat) (reply : Except Error Unit) :
      HandsOff t (.releasing (.exhausted result cycles)) reply (.exhausted result cycles)
  | failed (cause : Error) : HandsOff t (.rechecking cause) (.ok true) (.failed cause)

inductive Next (t : Trigger) :
    (p : Point) → (p.request t).Reply → Option Handoff → State → Prop where
  | acquireFailed (e : Error) : Next t .acquiring (.error e) none (.done (.error e))
  | taken : Next t .acquiring (.ok true) none (.at (.clearing 1))
  | busy : Next t .acquiring (.ok false) none (.at .raising)
  | raiseFailed (e : Error) : Next t .raising (.error e) none (.done (.error e))
  | alreadyUp : Next t .raising (.ok .alreadyUp) none (.done (.ok .coalesced))
  | created : Next t .raising (.ok .created) none (.at .probing)
  | probeFailed (e : Error) : Next t .probing (.error e) none (.done (.error e))
  | probed : Next t .probing (.ok true) none (.at .leaving)
  | refused : Next t .probing (.ok false) none (.done (.ok .deferred))
  | leaveFailed (e : Error) : Next t .leaving (.error e) none (.done (.error e))
  | cleared (cycle : Nat) (reply : Except Error Unit) :
      Next t (.clearing cycle) reply none (.at (.running cycle))
  | ran (cycle : Nat) (result : Json) :
      Next t (.running cycle) (.ok result) none (.at (.checking cycle result))
  | failed (cycle : Nat) (cause : Error) :
      Next t (.running cycle) (.error cause) none (.at (.releasing (.failed (.task t.task cause))))
  | unseen (cycle : Nat) (result : Json) {reply : Except Error Bool} (down : reply ≠ .ok true) :
      Next t (.checking cycle result) reply none (.at (.releasing (.caughtUp result cycle)))
  | last {cycle : Nat} (result : Json) (bound : t.bound ≤ cycle) :
      Next t (.checking cycle result) (.ok true) none (.at (.releasing (.exhausted result cycle)))
  | again {cycle : Nat} (result : Json) (bound : cycle < t.bound) :
      Next t (.checking cycle result) (.ok true) none (.at (.clearing (cycle + 1)))
  | caughtUp (result : Json) (cycles : Nat) (reply : Except Error Unit) :
      Next t (.releasing (.caughtUp result cycles)) reply none
        (.done (.ok (.completed result cycles)))
  | released (cause : Error) (reply : Except Error Unit) :
      Next t (.releasing (.failed cause)) reply none (.at (.rechecking cause))
  | settled (cause : Error) {reply : Except Error Bool} (down : reply ≠ .ok true) :
      Next t (.rechecking cause) reply none (.done (.error cause))
  | announced {p : Point} {reply : (p.request t).Reply} {handoff : Handoff}
      (hands : t.HandsOff p reply handoff) (heard : t.resubmission.delivered = true) :
      Next t p reply none (.at (.publishing handoff))
  | bypassed {p : Point} {reply : (p.request t).Reply} {handoff : Handoff}
      (hands : t.HandsOff p reply handoff) (silent : t.resubmission.delivered = false) :
      Next t p reply (some handoff) (.done (handoff.returned t (.ok ())))
  | published (handoff : Handoff) :
      Next t (.publishing handoff) (.ok ()) (some handoff) (.done (handoff.returned t (.ok ())))
  | unpublished (handoff : Handoff) (e : Error) :
      Next t (.publishing handoff) (.error e) none
        (.done (handoff.returned t (.error e)))

variable (t : Trigger)

theorem handedOff_snd (handoff : Handoff) (reply : Except Error Unit) :
    (t.handedOff handoff reply).2 = .done (handoff.returned t reply) := by
  cases handoff <;> cases reply <;> rfl

theorem reasons_handedOff (handoff : Handoff) (reply : Except Error Unit) :
    reasons (t.handedOff handoff reply).1 = match reply with
      | .ok () => [handoff.reason]
      | .error _ => [] := by
  cases handoff <;> cases reply <;> rfl

theorem reasons_handOff (handoff : Handoff) :
    reasons (t.handOff handoff).1 =
      if t.resubmission.delivered then [] else [handoff.reason] := by
  have announced : reasons [t.resubmission.announcement] = [] := by
    unfold Publication.announcement
    split <;> rfl
  unfold handOff andThen
  split
  · exact announced
  · rw [reasons, List.filterMap_append, ← reasons, ← reasons, announced, reasons_handedOff]
    rfl

theorem handOff_snd (handoff : Handoff) :
    (t.handOff handoff).2 =
      if t.resubmission.delivered then .at (.publishing handoff)
      else .done (handoff.returned t (.ok ())) := by
  unfold handOff andThen
  split
  · rfl
  · rw [handedOff_snd]

variable {t}

/-- A step follows the rules and counts the hand-off whose message is out. -/
def Follows (t : Trigger) (p : Point) (reply : (p.request t).Reply) (next : List Event × State) :
    Prop :=
  ∃ sent, t.Next p reply sent next.2 ∧ reasons next.1 = (sent.map Handoff.reason).toList

theorem follows_handOff {p : Point} {reply : (p.request t).Reply} {handoff : Handoff}
    (hands : t.HandsOff p reply handoff) : t.Follows p reply (t.handOff handoff) := by
  unfold Follows
  rw [handOff_snd, reasons_handOff]
  cases delivered : t.resubmission.delivered with
  | true => exact ⟨none, .announced hands delivered, rfl⟩
  | false => exact ⟨some handoff, .bypassed hands delivered, rfl⟩

theorem follows_andThen {p : Point} {reply : (p.request t).Reply} {events : List Event}
    {next : List Event × State} (quiet : reasons events = [])
    (follows : t.Follows p reply next) : t.Follows p reply (andThen events next) := by
  obtain ⟨sent, next, counted⟩ := follows
  refine ⟨sent, next, ?_⟩
  rw [andThen, reasons, List.filterMap_append, ← reasons, ← reasons, quiet, counted]
  rfl

theorem follows_released (ending : Ending) (reply : Except Error Unit) :
    t.Follows (.releasing ending) reply (t.released ending) := by
  cases ending with
  | caughtUp result cycles => exact ⟨none, .caughtUp result cycles reply, rfl⟩
  | exhausted result cycles => exact follows_andThen rfl (follows_handOff (.exhausted _ _ reply))
  | failed cause => exact ⟨none, .released cause reply, rfl⟩

variable (t) in
/-- Every step of a trigger follows the rules. -/
theorem follows_resume (p : Point) (reply : (p.request t).Reply) :
    t.Follows p reply (t.resume p reply) := by
  cases p with
  | acquiring =>
    match reply with
    | .error e => exact ⟨none, .acquireFailed e, rfl⟩
    | .ok true => exact ⟨none, .taken, rfl⟩
    | .ok false => exact ⟨none, .busy, rfl⟩
  | raising =>
    match reply with
    | .error e => exact ⟨none, .raiseFailed e, rfl⟩
    | .ok .alreadyUp => exact ⟨none, .alreadyUp, rfl⟩
    | .ok .created => exact ⟨none, .created, rfl⟩
  | probing =>
    match reply with
    | .error e => exact ⟨none, .probeFailed e, rfl⟩
    | .ok true => exact ⟨none, .probed, rfl⟩
    | .ok false => exact ⟨none, .refused, rfl⟩
  | leaving =>
    match reply with
    | .error e => exact ⟨none, .leaveFailed e, rfl⟩
    | .ok () => exact follows_andThen rfl (follows_handOff .left)
  | clearing cycle =>
    match reply with
    | .error e => exact ⟨none, .cleared cycle _, rfl⟩
    | .ok () => exact ⟨none, .cleared cycle _, rfl⟩
  | running cycle =>
    match reply with
    | .error cause => exact ⟨none, .failed cycle cause, rfl⟩
    | .ok result => exact ⟨none, .ran cycle result, rfl⟩
  | checking cycle result =>
    match reply with
    | .error e => exact ⟨none, .unseen cycle result nofun, rfl⟩
    | .ok false => exact ⟨none, .unseen cycle result nofun, rfl⟩
    | .ok true =>
      unfold Follows
      simp only [resume]
      split
      · next bound => exact ⟨none, .last result bound, rfl⟩
      · next bound => exact ⟨none, .again result (Nat.lt_of_not_le bound), rfl⟩
  | releasing ending =>
    match reply with
    | .error e => exact follows_andThen rfl (follows_released ending _)
    | .ok () => exact follows_released ending _
  | rechecking cause =>
    match reply with
    | .error e => exact ⟨none, .settled cause nofun, rfl⟩
    | .ok false => exact ⟨none, .settled cause nofun, rfl⟩
    | .ok true => exact follows_handOff (.failed cause)
  | publishing handoff =>
    match reply with
    | .error e =>
      refine ⟨none, ?_, t.reasons_handedOff handoff (.error e)⟩
      change t.Next _ _ _ (t.handedOff handoff (.error e)).2
      rw [handedOff_snd]
      exact .unpublished handoff e
    | .ok () =>
      refine ⟨some handoff, ?_, t.reasons_handedOff handoff (.ok ())⟩
      change t.Next _ _ _ (t.handedOff handoff (.ok ())).2
      rw [handedOff_snd]
      exact .published handoff

end Coalesce.Trigger
