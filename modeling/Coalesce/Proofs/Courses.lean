import Coalesce.Proofs.Trace

/-! The courses that a call can take: which step comes first, what each answer leads to, and what is
returned in the end. There is one relation for each part of a call, with a rule for each way that it
can go on. -/
namespace Coalesce.Trigger

variable (t : Trigger)

/-- A message is handed to the broker, or nothing happens if the broker is bypassed. -/
inductive Sends : List Answered → Except Error Unit → Prop where
  | asked (reply : Except Error Unit) (heard : t.resubmission.delivered = true) :
      Sends [⟨.publish t.resubmission.delivery, reply⟩] reply
  | bypassed (silent : t.resubmission.delivered = false) : Sends [] (.ok ())

/-- Once the flag is put up the lock is tried, and given back before a message is sent. -/
inductive Probes : List Answered → Except Error Outcome → Prop where
  | failed (e : Error) : Probes [⟨.acquire t.lock, .error e⟩] (.error e)
  | held : Probes [⟨.acquire t.lock, .ok false⟩] (.ok .deferred)
  | unreturned (e : Error) :
      Probes [⟨.acquire t.lock, .ok true⟩, ⟨.release t.lock, .error e⟩] (.error e)
  | free {steps : List Answered} {sent : Except Error Unit} (sends : t.Sends steps sent) :
      Probes (⟨.acquire t.lock, .ok true⟩ :: ⟨.release t.lock, .ok ()⟩ :: steps)
        (sent.map fun () => .resubmitted t.resubmission)

inductive Raises : List Answered → Except Error Outcome → Prop where
  | failed (e : Error) : Raises [⟨.raise t.lock, .error e⟩] (.error e)
  | alreadyUp : Raises [⟨.raise t.lock, .ok .alreadyUp⟩] (.ok .coalesced)
  | created {steps : List Answered} {result : Except Error Outcome}
      (probes : t.Probes steps result) : Raises (⟨.raise t.lock, .ok .created⟩ :: steps) result

/-- The steps after a failed run. Whatever comes of them, a message is sent exactly if the flag was
seen up. -/
inductive Settled : List Answered → Prop where
  | unseen (given : Except Error Unit) {look : Except Error Bool} (unseen : look ≠ .ok true) :
      Settled [⟨.release t.lock, given⟩, ⟨.isRaised t.lock, look⟩]
  | seen (given : Except Error Unit) {steps : List Answered} {sent : Except Error Unit}
      (sends : t.Sends steps sent) :
      Settled (⟨.release t.lock, given⟩ :: ⟨.isRaised t.lock, .ok true⟩ :: steps)

inductive Cycles : Nat → List Answered → Except Error Outcome → Prop where
  | failed (cycle : Nat) (lowered : Except Error Unit) (cause : Error) {steps : List Answered}
      (settled : t.Settled steps) :
      Cycles cycle
        (⟨.lower t.lock, lowered⟩ :: ⟨.invoke t.task t.input, .error cause⟩ :: steps)
        (.error (.task t.task cause))
  | caughtUp (cycle : Nat) (lowered : Except Error Unit) (value : Json)
      {look : Except Error Bool} (unseen : look ≠ .ok true) (given : Except Error Unit) :
      Cycles cycle
        [⟨.lower t.lock, lowered⟩, ⟨.invoke t.task t.input, .ok value⟩, ⟨.isRaised t.lock, look⟩,
          ⟨.release t.lock, given⟩]
        (.ok (.completed value cycle))
  | exhausted (lowered : Except Error Unit) (value : Json) (given : Except Error Unit)
      {steps : List Answered} {sent : Except Error Unit} (sends : t.Sends steps sent) :
      Cycles t.bound
        (⟨.lower t.lock, lowered⟩ :: ⟨.invoke t.task t.input, .ok value⟩ ::
          ⟨.isRaised t.lock, .ok true⟩ :: ⟨.release t.lock, given⟩ :: steps)
        (.ok (.requeued value t.bound (t.sent? sent)))
  | again {cycle : Nat} (lowered : Except Error Unit) (value : Json) (below : cycle < t.bound)
      {steps : List Answered} {result : Except Error Outcome}
      (cycles : Cycles (cycle + 1) steps result) :
      Cycles cycle
        (⟨.lower t.lock, lowered⟩ :: ⟨.invoke t.task t.input, .ok value⟩ ::
          ⟨.isRaised t.lock, .ok true⟩ :: steps)
        result

inductive Executes : List Answered → Except Error Outcome → Prop where
  | failed (e : Error) : Executes [⟨.acquire t.lock, .error e⟩] (.error e)
  | busy {steps : List Answered} {result : Except Error Outcome} (raises : t.Raises steps result) :
      Executes (⟨.acquire t.lock, .ok false⟩ :: steps) result
  | taken {steps : List Answered} {result : Except Error Outcome}
      (cycles : t.Cycles 1 steps result) : Executes (⟨.acquire t.lock, .ok true⟩ :: steps) result

variable {t} {steps : List Answered} {result : Except Error Outcome}

theorem HandsOff.unique {p : Point} {reply : (p.request t).Reply} {handoff handoff' : Handoff}
    (hands : t.HandsOff p reply handoff) (hands' : t.HandsOff p reply handoff') :
    handoff = handoff' := by
  cases hands <;> cases hands' <;> rfl

theorem Runs.of_publishing {handoff : Handoff}
    (runs : t.Runs (.at (.publishing handoff)) steps result) :
    ∃ reply, steps = [⟨.publish t.resubmission.delivery, reply⟩] ∧
      result = handoff.returned t reply := by
  obtain ⟨reply, sent, st, rest, rfl, next, later⟩ := runs.of_at
  cases next with
  | published | unpublished =>
    obtain ⟨rfl, same⟩ := later.of_done
    exact ⟨_, rfl, same⟩
  | announced hands | bypassed hands => cases hands

/-- From a step that hands work off the run goes on by sending the message, if it is sent at all. -/
theorem Runs.of_handsOff {p : Point} {reply : (p.request t).Reply} {handoff : Handoff}
    {out : Option Handoff} {st : State} (hands : t.HandsOff p reply handoff)
    (next : t.Next p reply out st) (runs : t.Runs st steps result) :
    ∃ sent, t.Sends steps sent ∧ result = handoff.returned t sent := by
  cases next with
  | announced hands' heard =>
    obtain ⟨reply, rfl, same⟩ := runs.of_publishing
    cases hands.unique hands'
    exact ⟨reply, .asked reply heard, same⟩
  | bypassed hands' silent =>
    obtain ⟨rfl, same⟩ := runs.of_done
    cases hands.unique hands'
    exact ⟨.ok (), .bypassed silent, same⟩
  | settled _ unseen =>
    cases hands
    exact absurd rfl unseen
  | _ => cases hands

theorem Runs.probes (runs : t.Runs (.at .probing) steps result) : t.Probes steps result := by
  obtain ⟨reply, sent, st, rest, rfl, next, later⟩ := runs.of_at
  cases next with
  | probeFailed e =>
    obtain ⟨rfl, rfl⟩ := later.of_done
    exact .failed e
  | refused =>
    obtain ⟨rfl, rfl⟩ := later.of_done
    exact .held
  | probed =>
    obtain ⟨reply, sent, st, rest, rfl, next, last⟩ := later.of_at
    match reply with
    | .ok () =>
      obtain ⟨sent, sends, rfl⟩ := last.of_handsOff .left next
      exact .free sends
    | .error e =>
      cases next with
      | leaveFailed =>
        obtain ⟨rfl, rfl⟩ := last.of_done
        exact .unreturned e
      | announced hands | bypassed hands => cases hands
  | announced hands | bypassed hands => cases hands

theorem Runs.raises (runs : t.Runs (.at .raising) steps result) : t.Raises steps result := by
  obtain ⟨reply, sent, st, rest, rfl, next, later⟩ := runs.of_at
  cases next with
  | raiseFailed e =>
    obtain ⟨rfl, rfl⟩ := later.of_done
    exact .failed e
  | alreadyUp =>
    obtain ⟨rfl, rfl⟩ := later.of_done
    exact .alreadyUp
  | created => exact .created later.probes
  | announced hands | bypassed hands => cases hands

theorem Runs.settled {cause : Error}
    (runs : t.Runs (.at (.releasing (.failed cause))) steps result) :
    t.Settled steps ∧ result = .error cause := by
  obtain ⟨given, sent, st, rest, rfl, next, later⟩ := runs.of_at
  cases next with
  | announced hands | bypassed hands => cases hands
  | released =>
    obtain ⟨look, sent, st, rest, rfl, next, last⟩ := later.of_at
    by_cases seen : look = .ok true
    · subst seen
      obtain ⟨sent, sends, same⟩ := last.of_handsOff (.failed cause) next
      exact ⟨.seen given sends, same⟩
    · cases next with
      | settled =>
        obtain ⟨rfl, same⟩ := last.of_done
        exact ⟨.unseen given seen, same⟩
      | announced hands | bypassed hands =>
        cases hands
        exact absurd rfl seen

theorem Runs.of_exhausted {value : Json} {cycles : Nat}
    (runs : t.Runs (.at (.releasing (.exhausted value cycles))) steps result) :
    ∃ given rest sent, steps = ⟨.release t.lock, given⟩ :: rest ∧ t.Sends rest sent ∧
      result = .ok (.requeued value cycles (t.sent? sent)) := by
  obtain ⟨given, sent, st, rest, rfl, next, later⟩ := runs.of_at
  obtain ⟨sent, sends, same⟩ := later.of_handsOff (.exhausted value cycles given) next
  exact ⟨given, rest, sent, rfl, sends, same⟩

theorem Runs.of_caughtUp {value : Json} {cycles : Nat}
    (runs : t.Runs (.at (.releasing (.caughtUp value cycles))) steps result) :
    ∃ given, steps = [⟨.release t.lock, given⟩] ∧ result = .ok (.completed value cycles) := by
  obtain ⟨given, sent, st, rest, rfl, next, later⟩ := runs.of_at
  cases next with
  | caughtUp =>
    obtain ⟨rfl, same⟩ := later.of_done
    exact ⟨given, rfl, same⟩
  | announced hands | bypassed hands => cases hands

theorem Runs.cycles {cycle : Nat} {steps : List Answered} (within : cycle ≤ t.bound)
    (runs : t.Runs (.at (.clearing cycle)) steps result) : t.Cycles cycle steps result := by
  obtain ⟨lowered, sent, st, rest, rfl, next, later⟩ := runs.of_at
  cases next with
  | announced hands | bypassed hands => cases hands
  | cleared =>
    obtain ⟨ran, sent, st, rest, rfl, next, later⟩ := later.of_at
    cases next with
    | announced hands | bypassed hands => cases hands
    | failed _ cause =>
      obtain ⟨settled, rfl⟩ := later.settled
      exact .failed cycle lowered cause settled
    | ran _ value =>
      obtain ⟨look, sent, st, rest, rfl, next, later⟩ := later.of_at
      cases next with
      | announced hands | bypassed hands => cases hands
      | unseen _ _ unseen =>
        obtain ⟨given, rfl, rfl⟩ := later.of_caughtUp
        exact .caughtUp cycle lowered value unseen given
      | last _ last =>
        obtain rfl := Nat.le_antisymm within last
        obtain ⟨given, rest, sent, rfl, sends, rfl⟩ := later.of_exhausted
        exact .exhausted lowered value given sends
      | again _ below => exact .again lowered value below (Runs.cycles below later)
termination_by t.bound - cycle

theorem Runs.executes (positive : 1 ≤ t.bound) (runs : t.Runs (.at .acquiring) steps result) :
    t.Executes steps result := by
  obtain ⟨reply, sent, st, rest, rfl, next, later⟩ := runs.of_at
  cases next with
  | acquireFailed e =>
    obtain ⟨rfl, rfl⟩ := later.of_done
    exact .failed e
  | busy => exact .busy later.raises
  | taken => exact .taken (later.cycles positive)
  | announced hands | bypassed hands => cases hands

theorem Cycles.head {cycle : Nat} (cycles : t.Cycles cycle steps result) :
    ∃ lowered rest, steps = ⟨.lower t.lock, lowered⟩ :: rest := by
  cases cycles <;> exact ⟨_, _, rfl⟩

theorem Sends.request {sent : Except Error Unit} (sends : t.Sends steps sent) :
    ∀ step ∈ steps, step.request = .publish t.resubmission.delivery := by
  cases sends with
  | asked => simp
  | bypassed => nofun

theorem Probes.request (probes : t.Probes steps result) : ∀ step ∈ steps, step.request ∈
    [.acquire t.lock, .release t.lock, .publish t.resubmission.delivery] := by
  cases probes with
  | free sends => simpa using fun step mem => .inr (.inr (sends.request step mem))
  | _ => simp

theorem Raises.request (raises : t.Raises steps result) : ∀ step ∈ steps, step.request ∈
    [.raise t.lock, .acquire t.lock, .release t.lock, .publish t.resubmission.delivery] := by
  cases raises with
  | created probes =>
    exact List.forall_mem_cons.2
      ⟨List.mem_cons_self, fun step mem => List.mem_cons_of_mem _ (probes.request step mem)⟩
  | _ => simp

theorem Settled.request (settled : t.Settled steps) : ∀ step ∈ steps, step.request ∈
    [.release t.lock, .isRaised t.lock, .publish t.resubmission.delivery] := by
  cases settled with
  | unseen => simp
  | seen given sends => simpa using fun step mem => .inr (.inr (sends.request step mem))

theorem Cycles.request {cycle : Nat} (cycles : t.Cycles cycle steps result) :
    ∀ step ∈ steps, step.request ∈
      [.lower t.lock, .invoke t.task t.input, .release t.lock, .isRaised t.lock,
        .publish t.resubmission.delivery] := by
  induction cycles with
  | failed cycle lowered cause settled =>
    have later := settled.request
    simp only [List.forall_mem_cons]
    exact ⟨by simp, by simp, fun step mem =>
      List.mem_cons_of_mem _ (List.mem_cons_of_mem _ (later step mem))⟩
  | caughtUp => simp
  | exhausted lowered value given sends =>
    have later := sends.request
    simp only [List.forall_mem_cons]
    exact ⟨by simp, by simp, by simp, by simp, fun step mem => by simp [later step mem]⟩
  | again lowered value below cycles ih =>
    simp only [List.forall_mem_cons]
    exact ⟨by simp, by simp, by simp, ih⟩

end Coalesce.Trigger
