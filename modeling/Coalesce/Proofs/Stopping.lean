import Coalesce.Proofs.Interleaving
import Coalesce.Worker.Loop
import Coalesce.Worker.Run

/-! Stopping a worker. Being asked to stop changes nothing until the worker waits: it finishes the
attempt in hand, and after a message that was dealt with it makes another attempt. It returns when a
wait ends with the stop, so what it did last was an attempt that found no message or failed. -/
namespace Coalesce

namespace WorkerLoop

structure Act (c : WorkerConfig) where
  point : Point
  reply : (point.request c).Reply

namespace Act

variable {c : WorkerConfig}

def isRead : Act c → Bool
  | ⟨.draining .reading, _⟩ => true
  | _ => false

def entry? : Act c → Option Server.Received
  | ⟨.draining .reading, reply⟩ =>
    match (reply : Except Error (Option Server.Received)) with
    | .ok found => found
    | .error _ => none
  | _ => none

def woken (w : Wake) : Act c := ⟨.waiting, w⟩

end Act

variable (c : WorkerConfig) {β : Type} (d : Dispatcher β)

/-- Any answer may come, but the stop only if it was asked for. -/
def Allows (l : WorkerLoop) : (p : Point) → (p.request c).Reply → Prop
  | .waiting, reply => l.Admits (reply : Wake)
  | _, _ => True

/-- A part of a run with its acts. The stop can be asked for between any two of them. -/
inductive Run : WorkerLoop → List (Act c) → WorkerLoop → Prop where
  | here (l : WorkerLoop) : Run l [] l
  | asked {s : Bool} {p : Point} {acts : List (Act c)} {last : WorkerLoop}
      (rest : Run (WorkerLoop.mk s (.at p)).requestStop acts last) : Run ⟨s, .at p⟩ acts last
  | answered {s : Bool} {p : Point} {reply : (p.request c).Reply} {acts : List (Act c)}
      {last : WorkerLoop} (fresh : String) (allowed : Allows c ⟨s, .at p⟩ p reply)
      (rest : Run ⟨s, (resume c d fresh p reply).2⟩ acts last) :
      Run ⟨s, .at p⟩ (⟨p, reply⟩ :: acts) last

inductive Finishes : Worker.State → List (Act c) → Except Error Bool → Prop where
  | done (outcome : Except Error Bool) : Finishes (.done outcome) [] outcome
  | step {p : Worker.Point} {reply : (p.request c).Reply} {acts : List (Act c)}
      {outcome : Except Error Bool} (fresh : String)
      (rest : Finishes (Worker.resume c d fresh p reply).2 acts outcome) :
      Finishes (.at p) (⟨.draining p, reply⟩ :: acts) outcome

def next : Except Error Bool → Point
  | .ok true => .draining .reading
  | _ => .waiting

/-- A run to its end as a row of attempts and waits. -/
inductive Returns : Point → List (Act c) → Except Error Unit → Prop where
  | refused (e : Error) : Returns .creating [⟨.creating, .error e⟩] (.error e)
  | created {acts : List (Act c)} {result : Except Error Unit}
      (rest : Returns .listening acts result) :
      Returns .creating (⟨.creating, .ok ()⟩ :: acts) result
  | deaf (e : Error) : Returns .listening [⟨.listening, .error e⟩] (.error e)
  | listened {acts : List (Act c)} {result : Except Error Unit}
      (rest : Returns (.draining .reading) acts result) :
      Returns .listening (⟨.listening, .ok ()⟩ :: acts) result
  | worked {p : Worker.Point} {hand acts : List (Act c)} {outcome : Except Error Bool}
      {result : Except Error Unit} (finishes : Finishes c d (.at p) hand outcome)
      (rest : Returns (next outcome) acts result) : Returns (.draining p) (hand ++ acts) result
  | woken {w : Wake} {acts : List (Act c)} {result : Except Error Unit} (other : w ≠ .stop)
      (rest : Returns (.draining .reading) acts result) :
      Returns .waiting (.woken w :: acts) result
  | stopped : Returns .waiting [.woken .stop] (.ok ())

def Quiet : Point → List (Act c) → Prop
  | .creating, acts => (∃ e, acts = [⟨.creating, .error e⟩]) ∨
      ∃ e, acts = [⟨.creating, .ok ()⟩, ⟨.listening, .error e⟩]
  | .listening, acts => ∃ e, acts = [⟨.listening, .error e⟩]
  | .draining p, acts => ∃ hand outcome, Finishes c d (.at p) hand outcome ∧ outcome ≠ .ok true ∧
      acts = hand ++ [.woken .stop]
  | .waiting, acts => acts = [.woken .stop]

variable {c d} {p : Point} {acts : List (Act c)} {outcome : Except Error Bool}
  {result : Except Error Unit} {s s' : Bool}

theorem next_of_ne (ended : outcome ≠ .ok true) : next outcome = .waiting := by
  match outcome with
  | .error _ => rfl
  | .ok false => rfl
  | .ok true => exact absurd rfl ended

theorem drained_done (outcome : Except Error Bool) :
    (drained c (.done outcome)).2 = .at (next outcome) := by
  match outcome with
  | .error _ => rfl
  | .ok false => rfl
  | .ok true => rfl

theorem Run.of_ended {last : WorkerLoop} (run : Run c d ⟨s, .ended result⟩ acts last) :
    acts = [] ∧ last = ⟨s, .ended result⟩ := by
  cases run
  exact ⟨rfl, rfl⟩

theorem Returns.step {p : Worker.Point} {reply : (p.request c).Reply} (fresh : String)
    (rest : ∀ p', (drained c (Worker.resume c d fresh p reply).2).2 = .at p' →
      Returns c d p' acts result) :
    Returns c d (.draining p) (⟨.draining p, reply⟩ :: acts) result := by
  cases state : (Worker.resume c d fresh p reply).2 with
  | done outcome =>
    rw [state] at rest
    have finishes : Finishes c d (.at p) [⟨.draining p, reply⟩] outcome := by
      refine .step fresh ?_
      rw [state]
      exact .done outcome
    exact .worked finishes (rest _ (drained_done outcome))
  | «at» q =>
    rw [state] at rest
    cases rest (.draining q) rfl with
    | worked finishes rest =>
      refine .worked (.step fresh ?_) rest
      rw [state]
      exact finishes

theorem returns_of_run {l last : WorkerLoop} (run : Run c d l acts last)
    (ended : last.phase = .ended result) :
    ∀ p, l.phase = .at p → Returns c d p acts result := by
  induction run with
  | here l =>
    intro p here
    rw [here] at ended
    cases ended
  | asked rest ih => exact ih ended
  | @answered s p reply acts last fresh allowed rest ih =>
    intro p' here
    cases here
    cases p with
    | creating =>
      obtain e | ⟨⟩ := reply
      · obtain ⟨rfl, rfl⟩ := rest.of_ended
        cases ended
        exact .refused e
      · exact .created (ih ended _ rfl)
    | listening =>
      obtain e | ⟨⟩ := reply
      · obtain ⟨rfl, rfl⟩ := rest.of_ended
        cases ended
        exact .deaf e
      · exact .listened (ih ended _ rfl)
    | draining q => exact .step fresh (ih ended)
    | waiting =>
      obtain _ | queue | reason | _ := reply
      · obtain ⟨rfl, rfl⟩ := rest.of_ended
        cases ended
        exact .stopped
      · exact .woken nofun (ih ended _ rfl)
      · exact .woken nofun (ih ended _ rfl)
      · exact .woken nofun (ih ended _ rfl)

/-! Where reads stand in a run. -/

theorem resume_ne_reading {p : Worker.Point} (reply : (p.request c).Reply) (fresh : String) :
    (Worker.resume c d fresh p reply).2 ≠ .at .reading := by
  intro again
  have less := Worker.rank_resume_lt d fresh c p reply
  rw [again] at less
  cases p <;> cases less <;> omega

theorem Finishes.unread {state : Worker.State} (finishes : Finishes c d state acts outcome)
    (within : state ≠ .at .reading) : ∀ act ∈ acts, act.isRead = false := by
  induction finishes with
  | done => exact List.forall_mem_nil _
  | @step p reply acts outcome fresh rest ih =>
    refine List.forall_mem_cons.2 ⟨?_, ih (resume_ne_reading reply fresh)⟩
    cases p with
    | reading => exact absurd rfl within
    | handling | archiving => rfl

theorem Finishes.of_at {p : Worker.Point} (finishes : Finishes c d (.at p) acts outcome) :
    ∃ reply rest, acts = ⟨.draining p, reply⟩ :: rest ∧ ∀ act ∈ rest, act.isRead = false := by
  cases finishes with
  | @step _ reply acts _ fresh rest =>
    exact ⟨reply, acts, rfl, rest.unread (resume_ne_reading reply fresh)⟩

theorem Returns.of_reading (returns : Returns c d (.draining .reading) acts result) :
    ∃ reply rest, acts = ⟨.draining .reading, reply⟩ :: rest := by
  cases returns with
  | worked finishes rest =>
    obtain ⟨reply, hand, rfl, -⟩ := finishes.of_at
    exact ⟨reply, _, List.cons_append⟩

/-- Without an error the end is a wait that the stop ends. Before it stands an attempt without a
message, unless there is nothing before it. -/
theorem Returns.last (returns : Returns c d p acts result) (good : result = .ok ()) :
    p = .waiting ∧ acts = [.woken .stop] ∨
      ∃ before q hand outcome, Finishes c d (.at q) hand outcome ∧ outcome ≠ .ok true ∧
        acts = before ++ (hand ++ [.woken .stop]) := by
  induction returns with
  | refused e => cases good
  | deaf e => cases good
  | stopped => exact .inl ⟨rfl, rfl⟩
  | created rest ih | listened rest ih | woken other rest ih =>
    obtain ⟨other, -⟩ | ⟨before, q, hand, outcome, finishes, without, rfl⟩ := ih good
    · cases other
    · exact .inr ⟨_ :: before, q, hand, outcome, finishes, without, rfl⟩
  | @worked q hand acts outcome result finishes rest ih =>
    obtain ⟨waits, rfl⟩ | ⟨before, q', hand', outcome', finishes', without, rfl⟩ := ih good
    · refine .inr ⟨[], q, hand, outcome, finishes, ?_, rfl⟩
      rintro rfl
      cases waits
    · exact .inr ⟨hand ++ before, q', hand', outcome', finishes', without, by simp⟩

theorem Quiet.unread (quiet : Quiet c d p acts) : ∀ act ∈ acts.tail, act.isRead = false := by
  cases p with
  | creating =>
    obtain ⟨e, rfl⟩ | ⟨e, rfl⟩ := quiet
    · exact List.forall_mem_nil _
    · exact List.forall_mem_singleton.2 rfl
  | listening =>
    obtain ⟨e, rfl⟩ := quiet
    exact List.forall_mem_nil _
  | waiting =>
    obtain rfl := quiet
    exact List.forall_mem_nil _
  | draining q =>
    obtain ⟨hand, outcome, finishes, -, rfl⟩ := quiet
    obtain ⟨reply, rest, rfl, unread⟩ := finishes.of_at
    exact List.forall_mem_append.2 ⟨unread, List.forall_mem_singleton.2 rfl⟩

theorem Returns.not_reading (before : List (Act c)) (returns : Returns c d p acts result)
    (unread : ∀ act ∈ before ++ acts, act.isRead = false) : p ≠ .draining .reading := by
  rintro rfl
  obtain ⟨reply, rest, rfl⟩ := returns.of_reading
  exact Bool.noConfusion (unread ⟨.draining .reading, reply⟩ (by simp))

theorem Returns.quiet (returns : Returns c d p acts result)
    (unread : ∀ act ∈ acts.tail, act.isRead = false) : Quiet c d p acts := by
  cases returns with
  | refused e => exact .inl ⟨e, rfl⟩
  | deaf e => exact ⟨e, rfl⟩
  | stopped => exact rfl
  | listened rest => exact absurd rfl (rest.not_reading [] unread)
  | woken other rest => exact absurd rfl (rest.not_reading [] unread)
  | created rest =>
    cases rest with
    | deaf e => exact .inr ⟨e, rfl⟩
    | listened rest => exact absurd rfl (rest.not_reading [_] unread)
  | @worked q hand acts outcome _ finishes rest =>
    obtain ⟨reply, tail, rfl, -⟩ := finishes.of_at
    have onward := rest.not_reading tail unread
    by_cases dealt : outcome = .ok true
    · subst dealt
      exact absurd rfl onward
    · rw [next_of_ne dealt] at rest
      cases rest with
      | stopped => exact ⟨_, outcome, finishes, dealt, rfl⟩
      | @woken w acts _ other rest =>
        exact absurd rfl (rest.not_reading (tail ++ [.woken w]) (by simpa using unread))

variable (c d) in
/-- What a worker has done, from its stop on, where it was at `p` when it was asked to stop. The act
in hand then is the first; a read among the others has begun since. -/
structure Stopped (p : Point) (acts : List (Act c)) (result : Except Error Unit) : Prop where
  inHand : ∀ q, p = .draining q → ∃ hand outcome rest, Finishes c d (.at q) hand outcome ∧
    acts = hand ++ rest ∧
    (outcome = .ok true → ∃ reply more, rest = ⟨.draining .reading, reply⟩ :: more) ∧
    (outcome ≠ .ok true → ∃ w more, rest = .woken w :: more)
  quiet : (∀ act ∈ acts.tail, act.isRead = false) ↔ Quiet c d p acts
  last : result = .ok () → p = .waiting ∧ acts = [.woken .stop] ∨
    ∃ before q hand outcome, Finishes c d (.at q) hand outcome ∧ outcome ≠ .ok true ∧
      acts = before ++ (hand ++ [.woken .stop])

theorem Returns.of_waiting (returns : Returns c d .waiting acts result) :
    ∃ w rest, acts = .woken w :: rest := by
  cases returns with
  | woken => exact ⟨_, _, rfl⟩
  | stopped => exact ⟨_, _, rfl⟩

theorem Returns.inHand {q : Worker.Point} (returns : Returns c d (.draining q) acts result) :
    ∃ hand outcome rest, Finishes c d (.at q) hand outcome ∧ acts = hand ++ rest ∧
      (outcome = .ok true → ∃ reply more, rest = ⟨.draining .reading, reply⟩ :: more) ∧
      (outcome ≠ .ok true → ∃ w more, rest = .woken w :: more) := by
  cases returns with
  | @worked q hand rest outcome _ finishes onward =>
    refine ⟨hand, outcome, rest, finishes, rfl, ?_, fun without => ?_⟩
    · rintro rfl
      exact onward.of_reading
    · rw [next_of_ne without] at onward
      exact onward.of_waiting

/-- A worker that is asked to stop finishes the attempt in hand, and reads again if a message was
dealt with in it; otherwise it waits. It begins no read only if it has not yet begun to drain and
then fails, or if the attempt in hand does not deal with a message, or it waits already, and the
wait ends with the stop. Its last attempt before it returns finds no message or fails. -/
theorem stopped_of_run {l last : WorkerLoop} (here : l.phase = .at p)
    (run : Run c d l.requestStop acts last) (ended : last.phase = .ended result) :
    Stopped c d p acts result := by
  have returns : Returns c d p acts result := returns_of_run run ended p here
  refine ⟨?_, ⟨returns.quiet, Quiet.unread⟩, returns.last⟩
  rintro q rfl
  exact returns.inHand

/-! A run on a server with two messages that are of no use to anybody. -/

def config : WorkerConfig := ⟨"q", 60, 5⟩

def backlog : Server.Database :=
  ⟨⟨⟨[], [("q", ⟨[⟨1, 0, 0, "null"⟩, ⟨2, 0, 0, "null"⟩], [], 2⟩)], []⟩, ⟨0, 0⟩, [], []⟩,
    .empty, fun _ => 0, ⟨id⟩⟩

def entry (id : Nat) : Server.Received := ⟨id, 1, .null⟩

/-- The answers to the acts are those that the server gives in turn; how a wait ends is not for the
server to say. -/
def Served : Server.Database → List (Act config) → Prop
  | _, [] => True
  | db, ⟨.creating, reply⟩ :: acts =>
    reply = (db.perform (Server.Queues.create config.queue)).1 ∧
      Served (db.perform (Server.Queues.create config.queue)).2 acts
  | db, ⟨.listening, reply⟩ :: acts =>
    reply = (db.perform .control).1 ∧ Served (db.perform .control).2 acts
  | db, ⟨.draining p, reply⟩ :: acts =>
    reply = (Worker.answer Server.Database.noTasks db (p.request config)).1 ∧
      Served (Worker.answer Server.Database.noTasks db (p.request config)).2 acts
  | db, ⟨.waiting, _⟩ :: acts => Served db acts

def begun : List (Act config) :=
  [⟨.creating, .ok ()⟩, ⟨.listening, .ok ()⟩, ⟨.draining .reading, .ok (some (entry 1))⟩]

def onward : List (Act config) :=
  [⟨.draining (.archiving (entry 1)), .ok ()⟩, ⟨.draining .reading, .ok (some (entry 2))⟩,
    ⟨.draining (.archiving (entry 2)), .ok ()⟩, ⟨.draining .reading, .ok none⟩, .woken .stop]

theorem run_begun : Run config Interleaving.single start begun
    ⟨false, .at (.draining (.archiving (entry 1)))⟩ :=
  .answered "" trivial <| .answered "" trivial <| .answered "" trivial <| .here _

theorem run_onward : Run config Interleaving.single
    ⟨true, .at (.draining (.archiving (entry 1)))⟩ onward ⟨true, .ended (.ok ())⟩ :=
  .answered "" trivial <| .answered "" trivial <| .answered "" trivial <| .answered "" trivial <|
    .answered "" (fun _ => rfl) <| .here _

theorem stopped_of_run_onward :
    (WorkerLoop.mk false (.at (.draining (.archiving (entry 1))))).phase =
        .at (.draining (.archiving (entry 1))) ∧
      Run config Interleaving.single
        (WorkerLoop.mk false (.at (.draining (.archiving (entry 1))))).requestStop onward
        ⟨true, .ended (.ok ())⟩ ∧
      Stopped config Interleaving.single (.draining (.archiving (entry 1))) onward (.ok ()) :=
  ⟨rfl, run_onward, stopped_of_run (l := ⟨false, .at (.draining (.archiving (entry 1)))⟩) rfl
    run_onward rfl⟩

theorem served_backlog : Served backlog (begun ++ onward) := by
  refine ⟨rfl, rfl, rfl, rfl, rfl, rfl, rfl, trivial⟩

/-- The worker is asked to stop with the first message in hand, and takes the second one. -/
theorem read_after_stop :
    Run config Interleaving.single start begun ⟨false, .at (.draining (.archiving (entry 1)))⟩ ∧
      Run config Interleaving.single
        (WorkerLoop.mk false (.at (.draining (.archiving (entry 1))))).requestStop onward
        ⟨true, .ended (.ok ())⟩ ∧
      Served backlog (begun ++ onward) ∧ ∃ act ∈ onward.tail, act.entry? = some (entry 2) :=
  ⟨run_begun, run_onward, served_backlog, _, List.mem_cons_self, rfl⟩

end WorkerLoop
end Coalesce
