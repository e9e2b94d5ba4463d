import Coalesce.Dispatch.Dispatcher
import Coalesce.Dispatch.Next

/-! Running triggers and sweeps to their end against anything that answers their requests. -/
namespace Coalesce

structure Backend (σ : Type) where
  answer : (r : Request) → σ → r.Reply × σ

namespace Trigger

variable (t : Trigger)

variable {t} in
theorem HandsOff.one_lt_remaining {p : Point} {reply : (p.request t).Reply} {handoff : Handoff}
    (hands : t.HandsOff p reply handoff) : 1 < p.remaining t := by
  cases hands <;> simp [Point.remaining]

theorem remaining_resume_lt (p : Point) (reply : (p.request t).Reply) :
    (t.resume p reply).2.remaining t < p.remaining t := by
  obtain ⟨sent, next, -⟩ := t.follows_resume p reply
  generalize (t.resume p reply).2 = state at next ⊢
  cases next with
  | announced hands => exact hands.one_lt_remaining
  | bypassed hands => exact Nat.zero_lt_of_lt hands.one_lt_remaining
  | _ =>
    simp only [State.remaining, Point.remaining]
    omega

/-- Answers every request of a trigger in turn; the events come in order. -/
def drive {σ : Type} (b : Backend σ) (state : State) (s : σ) :
    List Event × Except Error Outcome × σ :=
  match state with
  | .done result => ([], result, s)
  | .at p =>
    let (reply, s) := b.answer (p.request t) s
    let next := t.resume p reply
    let (events, result, s) := drive b next.2 s
    (next.1 ++ events, result, s)
termination_by state.remaining t
decreasing_by exact t.remaining_resume_lt p reply

end Trigger

namespace Sweep

variable {β : Type} (sw : Sweep β)

def Point.remaining : Point → Nat
  | .listing => 0
  | .probing _ _ rest => 3 * rest.length + 3
  | .leaving _ _ rest => 3 * rest.length + 2
  | .publishing _ _ rest _ => 3 * rest.length + 1

/-- Before the listing nothing is known about how many steps there will be. -/
def State.rank : State → Nat × Nat
  | .at .listing => (1, 0)
  | .at p => (0, p.remaining)
  | .done _ => (0, 0)

theorem rank_andThen (events : List Event) (n : List Event × State) :
    (andThen events n).2.rank = n.2.rank := rfl

theorem rank_next (report : SweepReport) (flags : List Flag) :
    (next report flags).2.rank = (0, 3 * flags.length) := by
  cases flags with
  | nil => rfl
  | cons flag rest => simp [next, State.rank, Point.remaining]; omega

theorem rank_published (report : SweepReport) (flag : String) (rest : List Flag) (p : Publication)
    (reply : Except Error Unit) :
    (published report flag rest p reply).2.rank = (0, 3 * rest.length) := by
  cases reply <;> simp [published, rank_andThen, rank_next]

theorem rank_orphaned (report : SweepReport) (flag : String) (rest : List Flag) :
    (sw.orphaned report flag rest).2.rank.1 = 0 ∧
      (sw.orphaned report flag rest).2.rank.2 ≤ 3 * rest.length + 1 := by
  unfold orphaned
  split
  · simp [rank_andThen, unresolved, rank_next]
  · split
    · simp [rank_andThen, unresolved, rank_next]
    · simp only [rank_andThen]
      split
      · simp [State.rank, Point.remaining]
      · simp [rank_published]

theorem rank_resume_lt (p : Point) (reply : p.request.Reply) :
    Prod.Lex (· < ·) (· < ·) (sw.resume p reply).2.rank (State.at p).rank := by
  have low {a b : Nat × Nat} {n : Nat} (h₁ : a.1 = 0) (h₂ : a.2 ≤ n) (h₃ : b = (0, n + 1)) :
      Prod.Lex (· < ·) (· < ·) a b := by
    obtain ⟨a₁, a₂⟩ := a
    subst h₃
    cases h₁
    exact .right _ (Nat.lt_succ_of_le h₂)
  have lower {a b : Nat × Nat} {m n : Nat} (h₁ : a = (0, m)) (h₂ : m ≤ n) (h₃ : b = (0, n + 1)) :
      Prod.Lex (· < ·) (· < ·) a b := low (congrArg Prod.fst h₁) (h₁ ▸ h₂) h₃
  cases p with
  | listing =>
    match reply with
    | .error e => exact .left _ _ Nat.zero_lt_one
    | .ok flags =>
      simp only [resume, rank_next]
      exact .left _ _ Nat.zero_lt_one
  | probing report flag rest =>
    match reply with
    | .error e => exact low rfl (Nat.zero_le _) rfl
    | .ok true => exact low rfl (Nat.le_refl _) rfl
    | .ok false => exact lower (rank_next _ rest) (Nat.le_add_right _ 2) rfl
  | leaving report flag rest =>
    match reply with
    | .error e => exact low rfl (Nat.zero_le _) rfl
    | .ok () =>
      have h := sw.rank_orphaned report flag rest
      exact low h.1 h.2 rfl
  | publishing report flag rest pub =>
    exact lower (rank_published report flag rest pub reply) (Nat.le_refl _) rfl

def drive {σ : Type} (b : Backend σ) (state : State) (s : σ) :
    List Event × Except Error SweepReport × σ :=
  match state with
  | .done result => ([], result, s)
  | .at p =>
    let (reply, s) := b.answer p.request s
    let next := sw.resume p reply
    let (events, result, s) := drive b next.2 s
    (next.1 ++ events, result, s)
termination_by state.rank
decreasing_by exact sw.rank_resume_lt p reply

end Sweep
end Coalesce
