import Coalesce.Server.Database
import Coalesce.Worker.Step

/-! Running a worker on the server until its message is dealt with. -/
namespace Coalesce.Worker

open Server (Database)

def answer (run : Database.Runner) (db : Database) : (r : Request) → r.Reply × Database
  | .read queue seconds => db.perform (Server.Queues.read queue seconds)
  | .archive queue id => db.perform (Server.Queues.archive queue id)
  | .dispatch r => Database.answer run r db

/-- Once a message is read, the steps that are left of its trigger. -/
def State.rank : State → Nat × Nat
  | .at .reading => (2, 0)
  | .at (.handling _ _ t p) => (1, p.remaining t)
  | .at (.archiving _) => (0, 1)
  | .done _ => (0, 0)

theorem rank_andThen (events : List Event) (next : List Event × State) :
    (andThen events next).2.rank = next.2.rank := rfl

theorem rank_handled (entry : Server.Received) (m : Message) (result : Except Error Outcome) :
    (handled entry m result).2.rank.1 = 0 := by
  cases result with
  | ok outcome => rfl
  | error e => cases e <;> rfl

theorem rank_settled (entry : Server.Received) (m : Message) (t : Trigger) (state : Trigger.State) :
    (settled entry m t state).2.rank.1 = 0 ∨
      (settled entry m t state).2.rank = (1, state.remaining t) := by
  cases state with
  | «at» p => exact .inr rfl
  | done result => exact .inl (rank_handled entry m result)

variable {β : Type} (d : Dispatcher β) (fresh : String)

theorem rank_received (entry : Server.Received) : (received d fresh entry).2.rank.1 < 2 := by
  unfold received
  split
  · exact Nat.zero_lt_two
  · rw [rank_andThen]
    split
    · rw [rank_handled]
      exact Nat.zero_lt_two
    · next t events state _ =>
      rw [rank_andThen]
      rcases rank_settled entry _ t state with h | h
      · rw [h]
        exact Nat.zero_lt_two
      · rw [h]
        exact Nat.one_lt_two

variable (c : WorkerConfig)

theorem rank_resume_lt (p : Point) (reply : (p.request c).Reply) :
    Prod.Lex (· < ·) (· < ·) (resume c d fresh p reply).2.rank (State.at p).rank := by
  have lower {a b : Nat × Nat} (h : a.1 < b.1) : Prod.Lex (· < ·) (· < ·) a b := by
    obtain ⟨a₁, a₂⟩ := a
    obtain ⟨b₁, b₂⟩ := b
    exact .left _ _ h
  cases p with
  | reading =>
    match reply with
    | .error e => exact lower Nat.zero_lt_two
    | .ok none => exact lower Nat.zero_lt_two
    | .ok (some entry) => exact lower (rank_received d fresh entry)
  | handling entry m t p =>
    have less := t.remaining_resume_lt p reply
    simp only [resume, rank_andThen]
    rcases rank_settled entry m t (t.resume p reply).2 with h | h
    · exact lower (h ▸ Nat.zero_lt_one)
    · rw [h]
      exact .right _ less
  | archiving entry =>
    match reply with
    | .error e => exact .right _ Nat.zero_lt_one
    | .ok () => exact .right _ Nat.zero_lt_one

def drive (run : Database.Runner) (state : State) (db : Database) :
    List Event × Except Error Bool × Database :=
  match state with
  | .done result => ([], result, db)
  | .at p =>
    let (reply, db) := answer run db (p.request c)
    let next := resume c d fresh p reply
    let (events, result, db) := drive run next.2 db
    (next.1 ++ events, result, db)
termination_by state.rank
decreasing_by exact rank_resume_lt d fresh c p reply

def processNext (run : Database.Runner) (db : Database) :
    List Event × Except Error Bool × Database :=
  drive d fresh c run start db

end Coalesce.Worker
