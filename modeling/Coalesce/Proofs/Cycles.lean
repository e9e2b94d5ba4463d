import Mathlib.Data.Nat.Find
import Mathlib.Order.Bounds.Defs
import Coalesce.Proofs.Trace

/-! The runs of a task under its lock. In each cycle the flag is lowered, the task is run, and the
flag is looked at; the first cycle that fails, that finds the flag down or cannot see it, or that is
the last one allowed, ends them. -/
namespace Coalesce

/-- What an execution meets under its lock in its cycles, which count from 1. -/
structure Script where
  lowered : Nat → Except Error Unit
  ran : Nat → Except Error Json
  checked : Nat → Except Error Bool

structure Playing (σ : Type) where
  rest : σ
  lowered : Nat
  ran : Nat
  checked : Nat

namespace Script

variable (script : Script) (t : Trigger)

/-- Each kind of step has the answers of the script in turn. -/
def play {σ : Type} (b : Backend σ) : Backend (Playing σ) where
  answer
    | .lower _, s => (script.lowered (s.lowered + 1), { s with lowered := s.lowered + 1 })
    | .invoke _ _, s => (script.ran (s.ran + 1), { s with ran := s.ran + 1 })
    | .isRaised _, s => (script.checked (s.checked + 1), { s with checked := s.checked + 1 })
    | r, s =>
      let (reply, rest) := b.answer r s.rest
      (reply, { s with rest })

def Stops (bound i : Nat) : Prop :=
  (∃ cause, script.ran i = .error cause) ∨ script.checked i ≠ .ok true ∨ i = bound

/-- The steps of a cycle. After a failed run the flag is not looked at before the release. -/
def round (i : Nat) : List Answered :=
  ⟨.lower t.lock, script.lowered i⟩ :: ⟨.invoke t.task t.input, script.ran i⟩ ::
    match script.ran i with
    | .ok _ => [⟨.isRaised t.lock, script.checked i⟩]
    | .error _ => []

def rounds (n : Nat) : List Answered := (List.range' 1 n).flatMap (script.round t)

def ending (i : Nat) : Trigger.Ending :=
  match script.ran i, script.checked i with
  | .error cause, _ => .failed (.task t.task cause)
  | .ok result, .ok true => .exhausted result i
  | .ok result, _ => .caughtUp result i

/-- What the call returns if its runs end with cycle `k`. -/
def returns (bound k : Nat) (published : Option Publication) : Except Error Outcome :=
  match script.ran k, script.checked k with
  | .error cause, _ => .error (.task t.task cause)
  | .ok result, .ok true => .ok (.requeued result bound published)
  | .ok result, _ => .ok (.completed result k)

variable {script}

theorem rounds_succ (n : Nat) :
    script.rounds t (n + 1) = script.rounds t n ++ script.round t (n + 1) := by
  unfold rounds
  rw [List.range'_1_concat, List.flatMap_append, List.flatMap_singleton, Nat.add_comm 1 n]

theorem exists_least {bound : Nat} (positive : 1 ≤ bound) :
    ∃ k, IsLeast {i | 1 ≤ i ∧ script.Stops bound i} k ∧ k ≤ bound := by
  classical
  have stops : ∃ i, 1 ≤ i ∧ script.Stops bound i := ⟨bound, positive, .inr (.inr rfl)⟩
  have least : IsLeast {i | 1 ≤ i ∧ script.Stops bound i} (Nat.find stops) :=
    ⟨Nat.find_spec stops, fun _ earlier => Nat.find_min' stops earlier⟩
  exact ⟨_, least, least.2 ⟨positive, .inr (.inr rfl)⟩⟩

theorem Stops.eq_bound {bound i : Nat} {result : Json} (stops : script.Stops bound i)
    (ran : script.ran i = .ok result) (up : script.checked i = .ok true) : i = bound := by
  obtain ⟨cause, failed⟩ | unseen | last := stops
  · rw [ran] at failed
    cases failed
  · exact absurd up unseen
  · exact last

end Script

namespace Trigger

variable {σ : Type} (b : Backend σ) (t : Trigger)

/-- A bypassed broker refuses nothing. -/
def published? (s : σ) : Option Publication :=
  if t.resubmission.delivered then t.sent? (b.answer (.publish t.resubmission.delivery) s).1
  else some t.resubmission

def outcome (s : σ) : Ending → Except Error Outcome
  | .caughtUp result cycles => .ok (.completed result cycles)
  | .exhausted result cycles => .ok (.requeued result cycles (t.published? b s))
  | .failed cause => .error cause

def Settling (step : Answered) : Prop :=
  step.request = .isRaised t.lock ∨ step.request = .publish t.resubmission.delivery

variable {t}

theorem passes_handOff (handoff : Handoff) (s : σ) :
    ∃ steps s' reply,
      t.Passes b (t.handOff handoff).2 s steps (.done (handoff.returned t reply)) s' ∧
      t.sent? reply = t.published? b s ∧ ∀ step ∈ steps, t.Settling step := by
  rw [handOff_snd]
  unfold published?
  split
  · obtain ⟨reply, s', answered⟩ :
        ∃ reply s', b.answer (.publish t.resubmission.delivery) s = (reply, s') := ⟨_, _, rfl⟩
    have rest : t.Passes b (t.handedOff handoff reply).2 s' []
        (.done (handoff.returned t reply)) s' := by
      rw [handedOff_snd]
      exact .here _ s'
    rw [answered]
    exact ⟨_, s', reply, .step (p := .publishing handoff) answered rest, rfl,
      by simp [Settling, Point.request]⟩
  · exact ⟨[], s, .ok (), .here _ s, rfl, nofun⟩

theorem passes_released (ending : Ending) (s : σ) :
    ∃ steps s', t.Passes b (t.released ending).2 s steps (.done (t.outcome b s ending)) s' ∧
      ∀ step ∈ steps, t.Settling step := by
  cases ending with
  | caughtUp result cycles => exact ⟨[], s, .here _ s, nofun⟩
  | exhausted result cycles =>
    obtain ⟨steps, s', reply, passes, same, settling⟩ :=
      passes_handOff (t := t) b (.exhausted result cycles) s
    rw [Handoff.returned, same] at passes
    exact ⟨steps, s', passes, settling⟩
  | failed cause =>
    obtain ⟨reply, s', answered⟩ : ∃ reply s', b.answer (.isRaised t.lock) s = (reply, s') :=
      ⟨_, _, rfl⟩
    obtain ⟨steps, s'', rest, settling⟩ : ∃ steps s'',
        t.Passes b (t.resume (.rechecking cause) reply).2 s' steps (.done (.error cause)) s'' ∧
          ∀ step ∈ steps, t.Settling step := by
      match reply with
      | .error e => exact ⟨[], s', .here _ s', nofun⟩
      | .ok false => exact ⟨[], s', .here _ s', nofun⟩
      | .ok true =>
        obtain ⟨steps, s'', reply, passes, -, settling⟩ :=
          passes_handOff (t := t) b (.failed cause) s'
        exact ⟨steps, s'', passes, settling⟩
    exact ⟨_, s'', .step (p := .rechecking cause) answered rest,
      List.forall_mem_cons.2 ⟨.inl rfl, settling⟩⟩

variable {b}

/-! The cycles. -/

variable (script : Script)

variable {i : Nat} (s : σ)

theorem passes_of_ran {result : Json} (ran : script.ran (i + 1) = .ok result) :
    t.Passes (script.play b) (.at (.clearing (i + 1))) ⟨s, i, i, i⟩ (script.round t (i + 1))
      (t.resume (.checking (i + 1) result) (script.checked (i + 1))).2
      ⟨s, i + 1, i + 1, i + 1⟩ := by
  have round : script.round t (i + 1) = [⟨.lower t.lock, script.lowered (i + 1)⟩,
      ⟨.invoke t.task t.input, .ok result⟩, ⟨.isRaised t.lock, script.checked (i + 1)⟩] := by
    simp only [Script.round, ran]
  rw [round]
  exact .step (p := .clearing (i + 1)) rfl <| .step (p := .running (i + 1)) (congrArg (·, _) ran) <|
    .step (p := .checking (i + 1) result) rfl (.here _ _)

theorem passes_of_failed {cause : Error} (ran : script.ran (i + 1) = .error cause) :
    t.Passes (script.play b) (.at (.clearing (i + 1))) ⟨s, i, i, i⟩ (script.round t (i + 1))
      (.at (.releasing (.failed (.task t.task cause)))) ⟨s, i + 1, i + 1, i⟩ := by
  have round : script.round t (i + 1) = [⟨.lower t.lock, script.lowered (i + 1)⟩,
      ⟨.invoke t.task t.input, .error cause⟩] := by
    simp only [Script.round, ran]
  rw [round]
  exact .step (p := .clearing (i + 1)) rfl <| .step (p := .running (i + 1)) (congrArg (·, _) ran) <|
    .here _ _

theorem passes_round (goes : ¬script.Stops t.bound (i + 1)) (within : i + 1 ≤ t.bound) :
    t.Passes (script.play b) (.at (.clearing (i + 1))) ⟨s, i, i, i⟩ (script.round t (i + 1))
      (.at (.clearing (i + 2))) ⟨s, i + 1, i + 1, i + 1⟩ := by
  simp only [Script.Stops, not_or, not_exists, ne_eq, Classical.not_not] at goes
  obtain ⟨succeeds, up, before⟩ := goes
  cases ran : script.ran (i + 1) with
  | error cause => exact absurd ran (succeeds cause)
  | ok result =>
    have again : (t.resume (.checking (i + 1) result) (script.checked (i + 1))).2 =
        .at (.clearing (i + 2)) := by
      rw [up, resume_checking, if_neg (by omega)]
    have passes := passes_of_ran (b := b) (t := t) script s ran
    rwa [again] at passes

theorem passes_stop (stops : script.Stops t.bound (i + 1)) :
    ∃ c, t.Passes (script.play b) (.at (.clearing (i + 1))) ⟨s, i, i, i⟩
      (script.round t (i + 1)) (.at (.releasing (script.ending t (i + 1))))
      ⟨s, i + 1, i + 1, c⟩ := by
  cases ran : script.ran (i + 1) with
  | error cause =>
    have ending : script.ending t (i + 1) = .failed (.task t.task cause) := by
      simp only [Script.ending, ran]
    rw [ending]
    exact ⟨i, passes_of_failed script s ran⟩
  | ok result =>
    have passes := passes_of_ran (b := b) (t := t) script s ran
    have ended : (t.resume (.checking (i + 1) result) (script.checked (i + 1))).2 =
        .at (.releasing (script.ending t (i + 1))) := by
      unfold Script.ending
      rw [ran]
      match seen : script.checked (i + 1) with
      | .error e => rfl
      | .ok false => rfl
      | .ok true =>
        rw [resume_checking, if_pos (Nat.le_of_eq (stops.eq_bound ran seen).symm)]
    rw [ended] at passes
    exact ⟨i + 1, passes⟩

theorem passes_rounds {k n : Nat} (least : IsLeast {i | 1 ≤ i ∧ script.Stops t.bound i} k)
    (within : k ≤ t.bound) (before : n < k) :
    t.Passes (script.play b) (.at (.clearing 1)) ⟨s, 0, 0, 0⟩ (script.rounds t n)
      (.at (.clearing (n + 1))) ⟨s, n, n, n⟩ := by
  induction n with
  | zero => exact .here _ _
  | succ n ih =>
    have goes : ¬script.Stops t.bound (n + 1) := by
      intro stops
      have := least.2 ⟨Nat.le_add_left 1 n, stops⟩
      omega
    rw [Script.rounds_succ]
    exact (ih (by omega)).trans (passes_round script s goes (by omega))

theorem passes_releasing {k : Nat} (least : IsLeast {i | 1 ≤ i ∧ script.Stops t.bound i} k)
    (within : k ≤ t.bound) :
    ∃ c, t.Passes (script.play b) (.at (.clearing 1)) ⟨s, 0, 0, 0⟩ (script.rounds t k)
      (.at (.releasing (script.ending t k))) ⟨s, k, k, c⟩ := by
  obtain ⟨n, rfl⟩ : ∃ n, k = n + 1 := ⟨k - 1, by have := least.1.1; omega⟩
  obtain ⟨c, last⟩ := passes_stop (b := b) script s least.1.2
  rw [Script.rounds_succ]
  exact ⟨c, (passes_rounds script s least within (Nat.lt_succ_self n)).trans last⟩

theorem outcome_play (rest : σ) (i j c : Nat) (ending : Ending) :
    t.outcome (script.play b) ⟨rest, i, j, c⟩ ending = t.outcome b rest ending := by
  cases ending <;> rfl

theorem outcome_ending {k : Nat} (stops : script.Stops t.bound k) :
    t.outcome b s (script.ending t k) = script.returns t t.bound k (t.published? b s) := by
  unfold Script.ending Script.returns
  cases ran : script.ran k with
  | error cause => rfl
  | ok result =>
    match seen : script.checked k with
    | .error e => rfl
    | .ok false => rfl
    | .ok true =>
      rw [stops.eq_bound ran seen]
      rfl

theorem passes_acquiring {k : Nat} {s s' : σ}
    (obtained : b.answer (.acquire t.lock) s = (.ok true, s'))
    (least : IsLeast {i | 1 ≤ i ∧ script.Stops t.bound i} k) (within : k ≤ t.bound) :
    ∃ reply after last, t.Passes (script.play b) (.at .acquiring) ⟨s, 0, 0, 0⟩
      (⟨.acquire t.lock, .ok true⟩ :: script.rounds t k ++ ⟨.release t.lock, reply⟩ :: after)
      (.done (script.returns t t.bound k (t.published? b (b.answer (.release t.lock) s').2)))
      last ∧ ∀ step ∈ after, t.Settling step := by
  have taken : (script.play b).answer (.acquire t.lock) ⟨s, 0, 0, 0⟩ =
      (.ok true, ⟨s', 0, 0, 0⟩) := by
    change ((b.answer (.acquire t.lock) s).1, Playing.mk (b.answer (.acquire t.lock) s).2 0 0 0) = _
    rw [obtained]
  obtain ⟨c, runs⟩ := passes_releasing (b := b) script s' least within
  obtain ⟨reply, s'', answered⟩ : ∃ reply s'', b.answer (.release t.lock) s' = (reply, s'') :=
    ⟨_, _, rfl⟩
  have freed : (script.play b).answer (.release t.lock) ⟨s', k, k, c⟩ =
      (reply, ⟨s'', k, k, c⟩) := by
    change ((b.answer (.release t.lock) s').1,
      Playing.mk (b.answer (.release t.lock) s').2 k k c) = _
    rw [answered]
  obtain ⟨after, last, rest, settling⟩ :=
    passes_released (script.play b) (t := t) (script.ending t k) ⟨s'', k, k, c⟩
  rw [outcome_play, outcome_ending script s'' least.1.2] at rest
  refine ⟨reply, after, last, ?_, settling⟩
  rw [answered]
  have ended : (t.resume (.releasing (script.ending t k)) reply).2 =
      (t.released (script.ending t k)).2 := by
    match reply with
    | .ok () => rfl
    | .error e => rfl
  refine .step (p := .acquiring) taken (runs.trans (.step (p := .releasing _) freed ?_))
  rw [ended]
  exact rest

theorem start_of_admitted (t : Trigger) {settings : Settings} {context : Context}
    (admitted : context.inTransaction = false ∨ settings.strict = false) :
    (t.start settings context .execute).2 = .at .acquiring := by
  have allowed : ¬(context.inTransaction = true ∧ settings.strict = true) := by
    rcases admitted with outside | lenient <;> simp [*]
  simp only [start, if_neg allowed]

/-! The counter of the cycles. -/

def Point.cycle? : Point → Option Nat
  | .clearing cycle => some cycle
  | .running cycle => some cycle
  | .checking cycle _ => some cycle
  | _ => none

variable (t) in
def Counted : State → Prop
  | .at p => ∀ cycle, p.cycle? = some cycle → cycle ≤ t.bound
  | .done _ => True

theorem counted_of_no_cycle {p : Point} (none : p.cycle? = none) : Counted t (.at p) := by
  intro cycle there
  rw [none] at there
  cases there

theorem Next.counted (positive : 1 ≤ t.bound) {p : Point} {reply : (p.request t).Reply}
    {sent : Option Handoff} {st : State} (next : t.Next p reply sent st)
    (counted : Counted t (.at p)) : Counted t st := by
  cases next with
  | taken =>
    rintro cycle ⟨⟩
    exact positive
  | again result below =>
    rintro cycle ⟨⟩
    exact below
  | cleared | ran => exact counted
  | busy | created | probed | failed | unseen | last | released | announced =>
    exact counted_of_no_cycle rfl
  | _ => trivial

end Trigger

open Trigger in
/-- An execution that obtains the lock lowers the flag, runs its task and looks at the flag, cycle
by cycle, up to the first cycle that fails, does not see the flag up, or is the last one allowed;
then it gives the lock back. What it returns is told by that cycle, whatever comes of lowering the
flag, and the counter of the cycles stays a word of 32 bits. -/
theorem Script.runs_to_first_stop {β σ : Type} (script : Script) (b : Backend σ)
    (settings : Settings) (fresh : String) (task : Task β) (input : TaskInput) (context : Context)
    (word : settings.localCycles < UInt32.size)
    (admitted : context.inTransaction = false ∨ settings.strict = false) :
    let t := Trigger.ofTask settings fresh task input
    let start := (t.start settings context .execute).2
    let bound := max 1 settings.localCycles
    ∀ s s' : σ, b.answer (.acquire t.lock) s = (.ok true, s') →
      ∃ k, IsLeast {i | 1 ≤ i ∧ script.Stops bound i} k ∧
        (∃ reply after, t.trace (script.play b) start ⟨s, 0, 0, 0⟩ =
            ⟨.acquire t.lock, .ok true⟩ :: script.rounds t k ++ ⟨.release t.lock, reply⟩ :: after ∧
          ∀ step ∈ after, t.Settling step) ∧
        (t.drive (script.play b) start ⟨s, 0, 0, 0⟩).2.1 =
          script.returns t bound k (t.published? b (b.answer (.release t.lock) s').2) ∧
        (∀ lowered, (t.drive ({ script with lowered }.play b) start ⟨s, 0, 0, 0⟩).2.1 =
          (t.drive (script.play b) start ⟨s, 0, 0, 0⟩).2.1) ∧
        ∀ steps p s'', t.Passes (script.play b) start ⟨s, 0, 0, 0⟩ steps (.at p) s'' →
          ∀ cycle, p.cycle? = some cycle → cycle < UInt32.size := by
  intro t start bound s s' obtained
  have starts : start = .at .acquiring := t.start_of_admitted admitted
  have positive : 1 ≤ bound := Nat.le_max_left 1 _
  obtain ⟨k, least, within⟩ := script.exists_least positive
  have ends (lowered : Nat → Except Error Unit) :
      (t.drive ({ script with lowered }.play b) start ⟨s, 0, 0, 0⟩).2.1 =
        script.returns t bound k (t.published? b (b.answer (.release t.lock) s').2) := by
    obtain ⟨reply, after, last, passes, -⟩ :=
      passes_acquiring { script with lowered } obtained least within
    rw [starts, passes.drive.1, snd_drive_done]
    rfl
  obtain ⟨reply, after, last, passes, settling⟩ := passes_acquiring script obtained least within
  refine ⟨k, least, ⟨reply, after, ?_, settling⟩, ends script.lowered, ?_, ?_⟩
  · rw [starts, passes.drive.2, trace_done, List.append_nil]
  · exact fun lowered => (ends lowered).trans (ends script.lowered).symm
  · intro steps p s'' reached cycle there
    have counted : Counted t (.at p) := by
      rw [starts] at reached
      exact reached.keeps (Next.counted positive) (counted_of_no_cycle rfl)
    have low : cycle ≤ max 1 settings.localCycles := counted cycle there
    have one : 1 < UInt32.size := by decide
    omega

def Backend.granting : Backend Unit where
  answer
    | .acquire _, s => (.ok true, s)
    | .release _, s => (.ok (), s)
    | .raise _, s => (.ok .created, s)
    | .isRaised _, s => (.ok false, s)
    | .lower _, s => (.ok (), s)
    | .raised, s => (.ok [], s)
    | .publish _, s => (.ok (), s)
    | .invoke _ _, s => (.ok .null, s)

/-- With two cycles, and a flag that is always up and cannot be lowered, the task runs twice and the
rest is left to a message. -/
theorem Script.runs_to_first_stop_twice :
    let script : Script :=
      ⟨fun _ => .error (.other "refused"), fun i => .ok (.ofNat i), fun _ => .ok true⟩
    let settings : Settings := { Settings.default with localCycles := 2 }
    let t := Trigger.ofTask settings "a" (Task.ofBody "f" ()) ⟨[.ofNat 7], []⟩
    let start := (t.start settings .autocommit .execute).2
    settings.localCycles < UInt32.size ∧ Context.autocommit.inTransaction = false ∧
      Backend.granting.answer (.acquire t.lock) () = (.ok true, ()) ∧
      (t.drive (script.play .granting) start ⟨(), 0, 0, 0⟩).2.1 =
        .ok (.requeued (.ofNat 2) 2 (some t.resubmission)) := by
  intro script settings t start
  have word : settings.localCycles < UInt32.size := by decide
  have outside : Context.autocommit.inTransaction = false := rfl
  obtain ⟨k, least, -, returned, -⟩ := script.runs_to_first_stop .granting settings "a"
    (Task.ofBody "f" ()) ⟨[.ofNat 7], []⟩ .autocommit word (.inl outside) () () rfl
  have two : k = 2 := by
    obtain ⟨-, ⟨cause, failed⟩ | unseen | last⟩ := least.1
    · cases failed
    · exact absurd rfl unseen
    · exact last
  subst two
  exact ⟨word, outside, rfl, returned⟩

end Coalesce
