import Coalesce.Proofs.Trace

/-! The handles of locks along the steps of a call. Every handle that is obtained is given back once
before the call returns; a probe gives it back at once, and while an execution has it nothing
happens but runs of the task and the bookkeeping of its flag. Messages are published with no handle
in hand. -/
namespace Coalesce

/-- What may be asked for while an execution has the lock. -/
def Request.DuringRun (lock : String) : Request → Prop
  | .lower flag => flag = lock
  | .isRaised flag => flag = lock
  | .invoke _ _ => True
  | _ => False

namespace Answered

def takes : Answered → Bool
  | ⟨.acquire _, reply⟩ =>
    match (reply : Except Error Bool) with
    | .ok taken => taken
    | .error _ => false
  | _ => false

/-- The step gives a handle back, whatever comes of that. -/
def returns : Answered → Bool
  | ⟨.release _, _⟩ => true
  | _ => false

def sends : Answered → Bool
  | ⟨.publish _, _⟩ => true
  | _ => false

variable (lock : String)

@[simp] theorem takes_taken : takes ⟨.acquire lock, .ok true⟩ = true := rfl

@[simp] theorem returns_taken : returns ⟨.acquire lock, .ok true⟩ = false := rfl

@[simp] theorem takes_released (reply : Except Error Unit) :
    takes ⟨.release lock, reply⟩ = false := rfl

@[simp] theorem returns_released (reply : Except Error Unit) :
    returns ⟨.release lock, reply⟩ = true := rfl

end Answered

def Balanced (steps : List Answered) : Prop :=
  steps.countP Answered.takes = steps.countP Answered.returns

/-- How a call deals with handles. Only the handle that an execution obtains with its first step is
kept for some steps, if the call `executes` at all. -/
structure Disciplined (executes : Prop) (trace : List Answered) : Prop where
  handled : ∀ before lock after, trace = before ++ ⟨.acquire lock, .ok true⟩ :: after →
    ∃ inside reply rest, after = inside ++ ⟨.release lock, reply⟩ :: rest ∧
      (inside = [] ∨
        executes ∧ before = [] ∧ ∀ step ∈ inside, step.request.DuringRun lock)
  returned : Balanced trace
  sent : ∀ before step after, trace = before ++ step :: after → step.sends = true → Balanced before

/-- What a call has in hand between two of its steps. `first` is the start of an execution. -/
inductive Hand where
  | first
  | empty
  | run (lock : String)
  | probe (lock : String)

def Hand.handles : Hand → Nat
  | .run _ => 1
  | .probe _ => 1
  | _ => 0

inductive Orderly : Hand → List Answered → Prop where
  | done : Orderly .empty []
  | refused {step : Answered} {rest : List Answered} (kept : step.takes = false)
      (none : step.returns = false) : Orderly .empty rest → Orderly .first (step :: rest)
  | taken {lock : String} {rest : List Answered} :
      Orderly (.run lock) rest → Orderly .first (⟨.acquire lock, .ok true⟩ :: rest)
  | apart {step : Answered} {rest : List Answered} (kept : step.takes = false)
      (none : step.returns = false) : Orderly .empty rest → Orderly .empty (step :: rest)
  | probed {lock : String} {rest : List Answered} :
      Orderly (.probe lock) rest → Orderly .empty (⟨.acquire lock, .ok true⟩ :: rest)
  | left {lock : String} {reply : Except Error Unit} {rest : List Answered} :
      Orderly .empty rest → Orderly (.probe lock) (⟨.release lock, reply⟩ :: rest)
  | during {lock : String} {step : Answered} {rest : List Answered}
      (bookkeeping : step.request.DuringRun lock) :
      Orderly (.run lock) rest → Orderly (.run lock) (step :: rest)
  | released {lock : String} {reply : Except Error Unit} {rest : List Answered} :
      Orderly .empty rest → Orderly (.run lock) (⟨.release lock, reply⟩ :: rest)

theorem Answered.of_duringRun {lock : String} {step : Answered}
    (bookkeeping : step.request.DuringRun lock) :
    step.takes = false ∧ step.returns = false ∧ step.sends = false := by
  obtain ⟨request, reply⟩ := step
  cases request with
  | lower | isRaised | invoke => exact ⟨rfl, rfl, rfl⟩
  | _ => exact bookkeeping.elim

namespace Orderly

variable {hand : Hand} {step : Answered} {before after rest : List Answered}

theorem tail (orderly : Orderly hand (step :: rest)) :
    ∃ next, Orderly next rest ∧ next ≠ .first ∧
      (if step.returns then 1 else 0) + next.handles =
        (if step.takes then 1 else 0) + hand.handles := by
  cases orderly with
  | refused kept none orderly => exact ⟨.empty, orderly, nofun, by simp [kept, none, Hand.handles]⟩
  | taken orderly => exact ⟨_, orderly, nofun, by simp [Hand.handles]⟩
  | apart kept none orderly => exact ⟨.empty, orderly, nofun, by simp [kept, none]⟩
  | probed orderly => exact ⟨_, orderly, nofun, by simp [Hand.handles]⟩
  | left orderly => exact ⟨.empty, orderly, nofun, by simp [Hand.handles]⟩
  | during bookkeeping orderly =>
    obtain ⟨kept, none, -⟩ := Answered.of_duringRun bookkeeping
    exact ⟨_, orderly, nofun, by simp [kept, none]⟩
  | released orderly => exact ⟨.empty, orderly, nofun, by simp [Hand.handles]⟩

/-- Wherever the steps are cut, what was obtained and not given back is in hand. -/
theorem cut (orderly : Orderly hand (before ++ after)) :
    ∃ next, Orderly next after ∧ (next = .first → before = [] ∧ hand = .first) ∧
      before.countP Answered.returns + next.handles =
        before.countP Answered.takes + hand.handles := by
  induction before generalizing hand with
  | nil => exact ⟨hand, orderly, fun first => ⟨rfl, first⟩, rfl⟩
  | cons step before ih =>
    obtain ⟨next, orderly, begun, balance⟩ := tail orderly
    obtain ⟨last, orderly, first, later⟩ := ih orderly
    refine ⟨last, orderly, fun start => absurd (first start).2 begun, ?_⟩
    rw [List.countP_cons, List.countP_cons]
    omega

theorem of_run {lock : String} (orderly : Orderly (.run lock) after) :
    ∃ inside reply rest, after = inside ++ ⟨.release lock, reply⟩ :: rest ∧
      ∀ step ∈ inside, step.request.DuringRun lock := by
  induction after with
  | nil => cases orderly
  | cons step after ih =>
    cases orderly with
    | released => exact ⟨[], _, _, rfl, nofun⟩
    | during bookkeeping orderly =>
      obtain ⟨inside, reply, rest, same, all⟩ := ih orderly
      exact ⟨step :: inside, reply, rest, by rw [same]; rfl,
        List.forall_mem_cons.2 ⟨bookkeeping, all⟩⟩

theorem handles_of_sends (orderly : Orderly hand (step :: rest)) (sends : step.sends = true) :
    hand.handles = 0 := by
  cases orderly with
  | refused | apart | taken | probed => rfl
  | left | released => cases sends
  | during bookkeeping =>
    obtain ⟨-, -, silent⟩ := Answered.of_duringRun bookkeeping
    simp [silent] at sends

theorem disciplined {trace : List Answered} (orderly : Orderly hand trace)
    (empty : hand.handles = 0) : Disciplined (hand = .first) trace where
  handled before lock after split := by
    rw [split] at orderly
    obtain ⟨next, orderly, first, -⟩ := cut orderly
    cases orderly with
    | refused kept => cases kept
    | apart kept => cases kept
    | during bookkeeping => exact bookkeeping.elim
    | taken orderly =>
      obtain ⟨inside, reply, rest, same, all⟩ := of_run orderly
      obtain ⟨start, executes⟩ := first rfl
      exact ⟨inside, reply, rest, same, .inr ⟨executes, start, all⟩⟩
    | probed orderly =>
      cases orderly with
      | left => exact ⟨[], _, _, rfl, .inl rfl⟩
  returned := by
    have whole : Orderly hand (trace ++ []) := by rwa [List.append_nil]
    obtain ⟨next, orderly, -, balance⟩ := cut whole
    cases orderly with
    | done =>
      rw [empty] at balance
      exact balance.symm
  sent before step after split sends := by
    rw [split] at orderly
    obtain ⟨next, orderly, -, balance⟩ := cut orderly
    rw [handles_of_sends orderly sends, empty] at balance
    exact balance.symm

end Orderly

namespace Trigger

variable (t : Trigger)

def hand : State → Hand
  | .at .acquiring => .first
  | .at .leaving => .probe t.lock
  | .at p => if p.holds then .run t.lock else .empty
  | .done _ => .empty

variable {t} in
theorem Next.orderly {p : Point} {reply : (p.request t).Reply} {sent : Option Handoff} {st : State}
    (next : t.Next p reply sent st) {rest : List Answered} (orderly : Orderly (t.hand st) rest) :
    Orderly (t.hand (.at p)) (⟨p.request t, reply⟩ :: rest) := by
  cases next with
  | acquireFailed | busy => exact .refused rfl rfl orderly
  | taken => exact .taken orderly
  | probed => exact .probed orderly
  | leaveFailed => exact .left orderly
  | cleared | unseen | last | again => exact .during rfl orderly
  | ran | failed => exact .during trivial orderly
  | caughtUp | released => exact .released orderly
  | announced hands | bypassed hands =>
    cases hands with
    | left => exact .left orderly
    | exhausted => exact .released orderly
    | failed => exact .apart rfl rfl orderly
  | _ => exact .apart rfl rfl orderly

variable {σ : Type} (b : Backend σ)

theorem orderly_trace (state : State) (s : σ) :
    Orderly (t.hand state) (t.trace b state s) := by
  induction state, s using drive.induct t b with
  | case1 s result =>
    rw [trace_done]
    exact .done
  | case2 s p reply s' answered next _ _ _ _ ih =>
    obtain ⟨sent, step, -⟩ := t.follows_resume p reply
    rw [t.trace_at b answered]
    exact step.orderly ih

theorem done_of_sends {p : Point} {reply : (p.request t).Reply}
    (sends : (⟨p.request t, reply⟩ : Answered).sends = true) :
    ∃ result, (t.resume p reply).2 = .done result := by
  cases p with
  | publishing handoff => exact ⟨_, t.handedOff_snd handoff reply⟩
  | _ => cases sends

theorem countP_sends_le (state : State) (s : σ) :
    (t.trace b state s).countP Answered.sends ≤ 1 := by
  induction state, s using drive.induct t b with
  | case1 s result => simp
  | case2 s p reply s' answered next _ _ _ _ ih =>
    rw [t.trace_at b answered, List.countP_cons]
    split
    · next sends =>
      obtain ⟨result, ends⟩ := t.done_of_sends sends
      rw [ends, trace_done]
      exact Nat.le_refl 1
    · exact ih

end Trigger

namespace Sweep

variable {β : Type} (sw : Sweep β)

def hand : State → Hand
  | .at (.leaving _ flag _) => .probe flag
  | _ => .empty

theorem hand_next (report : SweepReport) (flags : List Flag) :
    hand (next report flags).2 = .empty := by
  cases flags <;> rfl

theorem hand_published (report : SweepReport) (flag : String) (rest : List Flag) (p : Publication)
    (reply : Except Error Unit) : hand (published report flag rest p reply).2 = .empty := by
  cases reply <;> exact hand_next _ rest

theorem hand_orphaned (report : SweepReport) (flag : String) (rest : List Flag) :
    hand (sw.orphaned report flag rest).2 = .empty := by
  unfold orphaned
  split
  · exact hand_next _ rest
  · split
    · exact hand_next _ rest
    · dsimp only [andThen]
      split
      · rfl
      · exact hand_published report flag rest _ (.ok ())

variable {sw} in
theorem orderly_step (p : Point) (reply : p.request.Reply) {steps : List Answered}
    (orderly : Orderly (hand (sw.resume p reply).2) steps) :
    Orderly (hand (.at p)) (⟨p.request, reply⟩ :: steps) := by
  cases p with
  | listing =>
    match reply with
    | .error e => exact .apart rfl rfl orderly
    | .ok flags =>
      have empty : hand (sw.resume .listing (.ok flags)).2 = .empty := hand_next .empty flags
      rw [empty] at orderly
      exact .apart rfl rfl orderly
  | probing report flag rest =>
    match reply with
    | .error e => exact .apart rfl rfl orderly
    | .ok true => exact .probed orderly
    | .ok false =>
      have empty : hand (sw.resume (.probing report flag rest) (.ok false)).2 = .empty :=
        hand_next _ rest
      rw [empty] at orderly
      exact .apart rfl rfl orderly
  | leaving report flag rest =>
    match reply with
    | .error e => exact .left orderly
    | .ok () =>
      have empty : hand (sw.resume (.leaving report flag rest) (.ok ())).2 = .empty :=
        sw.hand_orphaned report flag rest
      rw [empty] at orderly
      exact .left orderly
  | publishing report flag rest publication =>
    have empty : hand (sw.resume (.publishing report flag rest publication) reply).2 = .empty :=
      hand_published report flag rest publication reply
    rw [empty] at orderly
    exact .apart rfl rfl orderly

variable {σ : Type} (b : Backend σ)

theorem orderly_trace (state : State) (s : σ) : Orderly (hand state) (sw.trace b state s) := by
  induction state, s using drive.induct sw b with
  | case1 s result =>
    rw [trace_done]
    exact .done
  | case2 s p reply s' answered next _ _ _ _ ih =>
    rw [sw.trace_at b answered]
    exact orderly_step p reply ih

end Sweep

theorem Trigger.handles_of_start (t : Trigger) (settings : Settings) (context : Context)
    (mode : Mode) :
    (t.hand (t.start settings context mode).2).handles = 0 ∧
      (t.hand (t.start settings context mode).2 = .first → mode = .execute) := by
  unfold start
  split
  · exact ⟨rfl, nofun⟩
  · cases mode with
    | execute => exact ⟨rfl, fun _ => rfl⟩
    | request => exact ⟨rfl, nofun⟩

theorem Disciplined.mono {p q : Prop} {trace : List Answered} (disciplined : Disciplined p trace)
    (weaker : p → q) : Disciplined q trace where
  handled before lock after split := by
    obtain ⟨inside, reply, rest, same, kept⟩ := disciplined.handled before lock after split
    exact ⟨inside, reply, rest, same, kept.imp_right fun kept => ⟨weaker kept.1, kept.2⟩⟩
  returned := disciplined.returned
  sent := disciplined.sent

/-- Whatever answers a call gets, it gives each handle back once and publishes without one, and a
trigger publishes at most once. -/
theorem disciplined_of_call {σ : Type} (b : Backend σ) (s : σ) :
    (∀ (t : Trigger) (settings : Settings) (context : Context) (mode : Mode),
      let trace := t.trace b (t.start settings context mode).2 s
      Disciplined (mode = .execute) trace ∧ trace.countP Answered.sends ≤ 1) ∧
    ∀ {β : Type} (sw : Sweep β), Disciplined False (sw.trace b Sweep.start.2 s) := by
  constructor
  · intro t settings context mode trace
    obtain ⟨empty, executes⟩ := t.handles_of_start settings context mode
    exact ⟨((t.orderly_trace b _ s).disciplined empty).mono executes, t.countP_sends_le b _ s⟩
  · intro β sw
    exact ((sw.orderly_trace b Sweep.start.2 s).disciplined rfl).mono nofun

end Coalesce
