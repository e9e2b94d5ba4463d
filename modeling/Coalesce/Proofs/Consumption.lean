import Mathlib.Data.List.Forall2
import Coalesce.Proofs.Archives
import Coalesce.Proofs.Moves
import Coalesce.Proofs.RoundTrip

/-! Messages are taken out of a queue only when they are accounted for. Any number of workers deal
with one message each, step by step, among whatever else happens at the server; the history says
which call archived what, and why it could. -/
namespace Coalesce

namespace Trigger

def Own (t : Trigger) (e : Error) : Prop := ∃ cause, e = .task t.task cause

/-- What has happened by the time a trigger stands where it does: its flag was `noted`, or its task
`ran`. An error that it ends with is that of its task or of the server. -/
def Accounted (t : Trigger) (noted ran : Prop) : State → Prop
  | .at .acquiring | .at .raising | .at (.clearing _) | .at (.running _) => True
  | .at .probing | .at .leaving => noted
  | .at (.checking ..) => ran
  | .at (.releasing (.failed cause)) | .at (.rechecking cause) => ran ∧ t.Own cause
  | .at (.releasing _) => ran
  | .at (.publishing .lostWakeup) => noted
  | .at (.publishing (.exhausted ..)) => ran
  | .at (.publishing (.failed cause)) => ran ∧ t.Own cause
  | .done (.ok _) => noted ∨ ran
  | .done (.error e) => ran ∧ t.Own e ∨ ∃ fault, e = .database fault

variable {t : Trigger} {noted ran : Prop}

theorem Accounted.mono {noted' ran' : Prop} {st : State} (accounted : t.Accounted noted ran st)
    (noted_mono : noted → noted') (ran_mono : ran → ran') : t.Accounted noted' ran' st := by
  cases st with
  | done result =>
    cases result with
    | ok outcome => exact accounted.imp noted_mono ran_mono
    | error e => exact accounted.imp_left (And.imp_left ran_mono)
  | «at» p =>
    cases p with
    | acquiring | raising | clearing | running => trivial
    | probing | leaving => exact noted_mono accounted
    | checking => exact ran_mono accounted
    | rechecking => exact accounted.imp_left ran_mono
    | releasing ending =>
      cases ending with
      | failed => exact accounted.imp_left ran_mono
      | caughtUp | exhausted => exact ran_mono accounted
    | publishing handoff =>
      cases handoff with
      | lostWakeup => exact noted_mono accounted
      | exhausted => exact ran_mono accounted
      | failed => exact accounted.imp_left ran_mono

def Point.notes (t : Trigger) : (p : Point) → (p.request t).Reply → Prop
  | .raising, reply => ∃ r, (reply : Except Error Raise) = .ok r
  | _, _ => False

theorem HandsOff.accounted {p : Point} {reply : (p.request t).Reply} {handoff : Handoff}
    (hands : t.HandsOff p reply handoff) (accounted : t.Accounted noted ran (.at p)) :
    t.Accounted noted ran (.at (.publishing handoff)) := by
  cases hands <;> exact accounted

theorem Handoff.accounted {handoff : Handoff} {reply : Except Error Unit}
    (accounted : t.Accounted noted ran (.at (.publishing handoff))) (faults : OnlyFaults reply) :
    t.Accounted noted ran (.done (handoff.returned t reply)) := by
  cases handoff with
  | lostWakeup =>
    cases reply with
    | ok => exact .inl accounted
    | error e => exact .inr (faults e rfl)
  | exhausted => exact .inr accounted
  | failed => exact .inl accounted

theorem Next.accounted {p : Point} {reply : (p.request t).Reply} {sent : Option Handoff}
    {st : State} (next : t.Next p reply sent st) (accounted : t.Accounted noted ran (.at p))
    (faults : (p.request t).OnlyFaults reply) (notes : p.notes t reply → noted)
    (runs : Interleaving.isRunning p = true → ran) : t.Accounted noted ran st := by
  cases next with
  | acquireFailed e | raiseFailed e | probeFailed e | leaveFailed e => exact .inr (faults e rfl)
  | taken | busy | cleared | again => trivial
  | alreadyUp => exact .inl (notes ⟨_, rfl⟩)
  | created => exact notes ⟨_, rfl⟩
  | probed | unseen | last | released => exact accounted
  | refused => exact .inl accounted
  | ran => exact runs rfl
  | failed cycle cause => exact ⟨runs rfl, cause, rfl⟩
  | caughtUp => exact .inr accounted
  | settled => exact .inl accounted
  | announced hands => exact hands.accounted accounted
  | bypassed hands => exact Handoff.accounted (hands.accounted accounted) nofun
  | published | unpublished => exact Handoff.accounted accounted faults

end Trigger

namespace Consumption

open Server (Database Tables Received)

/-- One worker with the one message that it deals with; `inside` while the task runs, and `gone`
once the worker is. -/
structure Call (β : Type) where
  config : WorkerConfig
  dispatcher : Dispatcher β
  fresh : String
  state : Worker.State
  inside : Bool
  gone : Bool

inductive Happening where
  | answered (call : Nat) (config : WorkerConfig) (point : Worker.Point)
      (reply : (point.request config).Reply) (after : Tables)
  | invoked (call : Nat) (task : String) (input : TaskInput)

structure World (β : Type) where
  tables : Tables
  calls : List (Call β)
  history : List Happening

variable {β : Type}

def World.answered (w : World β) (i : Nat) (c : Call β) (p : Worker.Point)
    (reply : (p.request c.config).Reply) (after : Tables) : World β where
  tables := after
  calls := w.calls.set i
    { c with
      state := (Worker.resume c.config c.dispatcher c.fresh p reply).2
      inside := false }
  history := .answered i c.config p reply after :: w.history

/-- The server does what it is asked for, as far as it gets, and its answer may be lost. -/
inductive Answers (before : Tables) (r : Worker.Request) : r.Reply → Tables → Prop where
  | served (db : Database) (here : db.link.tables = before) :
      Answers before r (Worker.answer Database.noTasks db r).1
        (Worker.answer Database.noTasks db r).2.link.tables
  | lost (db : Database) (here : db.link.tables = before) (fault : DatabaseFault) :
      Answers before r (r.failed (.database fault))
        (Worker.answer Database.noTasks db r).2.link.tables

def asks : Worker.Point → Bool
  | .handling _ _ _ p => !Interleaving.isRunning p
  | _ => true

/-- One step of a worker, of anyone else at the server, or of a crash. Only workers archive. -/
inductive Step (w : World β) : World β → Prop where
  | begin (config : WorkerConfig) {d : Dispatcher β} (built : d.Built) (fresh : String) :
      Step w { w with calls := w.calls ++ [⟨config, d, fresh, Worker.start, false, false⟩] }
  | ask {i : Nat} {c : Call β} {p : Worker.Point} {reply : (p.request c.config).Reply}
      {after : Tables} (call : w.calls[i]? = some c) (live : c.gone = false)
      (state : c.state = .at p) (quiet : asks p = true)
      (answers : Answers w.tables (p.request c.config) reply after) :
      Step w (w.answered i c p reply after)
  | invoke {i : Nat} {c : Call β} {entry : Received} {m : Message} {t : Trigger} {cycle : Nat}
      (call : w.calls[i]? = some c) (live : c.gone = false)
      (state : c.state = .at (.handling entry m t (.running cycle))) (out : c.inside = false) :
      Step w { w with
        calls := w.calls.set i { c with inside := true }
        history := .invoked i t.task t.input :: w.history }
  | finish {i : Nat} {c : Call β} {entry : Received} {m : Message} {t : Trigger} {cycle : Nat}
      (call : w.calls[i]? = some c) (live : c.gone = false)
      (state : c.state = .at (.handling entry m t (.running cycle))) (within : c.inside = true)
      (result : Except Error Json) :
      Step w (w.answered i c (.handling entry m t (.running cycle)) result w.tables)
  | other {after : Tables} (archives : Tables.Archives (fun _ _ => False) w.tables after) :
      Step w { w with tables := after }
  | vanish {i : Nat} {c : Call β} (call : w.calls[i]? = some c) :
      Step w { w with calls := w.calls.set i { c with gone := true } }

inductive Reachable (tables : Tables) : World β → Prop where
  | idle : Reachable tables ⟨tables, [], []⟩
  | next {w w'} (reached : Reachable tables w) (step : Step w w') : Reachable tables w'

/-! Kinds of happenings. -/

namespace Happening

def call : Happening → Nat
  | .answered i .. => i
  | .invoked i .. => i

def Reads (i : Nat) (queue : String) (entry : Received) : Happening → Prop
  | .answered j config .reading reply after =>
    j = i ∧ config.queue = queue ∧ (reply : Except Error (Option Received)) = .ok (some entry) ∧
      ∃ e ∈ after.entries queue, e.received = .ok entry
  | _ => False

def Invokes (i : Nat) (task : String) (input : TaskInput) : Happening → Prop
  | .invoked j task' input' => j = i ∧ task' = task ∧ input' = input
  | _ => False

def Flags (i : Nat) (name : String) : Happening → Prop
  | .answered j _ (.handling _ _ t .raising) _ after =>
    j = i ∧ t.lock = name ∧ after.isRaised name = true
  | _ => False

/-- The call had the message taken out, whether or not it came to know. -/
def Archives (i : Nat) (queue : String) (id : Nat) : Happening → Prop
  | .answered j config (.archiving entry) _ _ => j = i ∧ config.queue = queue ∧ entry.id = id
  | _ => False

/-- The handling of the message ended in an error that is not one of the task itself. -/
def Fails (i : Nat) : Happening → Prop
  | .answered j _ (.handling _ m t p) reply _ =>
    j = i ∧ ∃ e, (t.resume p reply).2 = .done (.error e) ∧ ∀ cause, e ≠ .task m.task cause
  | _ => False

end Happening

/-- Happenings of these kinds stand in the history in this order, the latest first. -/
def Follows (kinds : List (Happening → Prop)) (history : List Happening) : Prop :=
  ∃ es, es.Sublist history ∧ List.Forall₂ (fun kind e => kind e) kinds es

variable {kinds : List (Happening → Prop)} {history : List Happening} {e : Happening}

theorem Follows.push (follows : Follows kinds history) (e : Happening) :
    Follows kinds (e :: history) := by
  obtain ⟨es, sub, each⟩ := follows
  exact ⟨es, sub.cons e, each⟩

theorem Follows.cons {kind : Happening → Prop} (is : kind e) (follows : Follows kinds history) :
    Follows (kind :: kinds) (e :: history) := by
  obtain ⟨es, sub, each⟩ := follows
  exact ⟨e :: es, sub.cons_cons e, .cons is each⟩

theorem follows_nil (history : List Happening) : Follows [] history :=
  ⟨[], List.nil_sublist _, .nil⟩

open Happening (Reads Invokes Flags Archives Fails)

/-- What a call needs to take out the message that it has read, with `since` after it: either the
message cannot be decoded, or its task is known and was then invoked or had its flag up. -/
def Due (since : List (Happening → Prop)) (history : List Happening) (i : Nat)
    (d : Dispatcher β) (queue : String) (entry : Received) : Prop :=
  match Message.decode entry.payload with
  | .error _ => Follows (since ++ [Reads i queue entry]) history
  | .ok m =>
    (d.registry.find? m.task).isSome ∧
      (Follows (since ++ [Invokes i m.task ⟨m.args, m.kwargs⟩, Reads i queue entry]) history ∨
        Follows (since ++ [Flags i m.identity.lockName, Reads i queue entry]) history)

variable {since : List (Happening → Prop)} {i : Nat} {d : Dispatcher β} {queue : String}
  {entry : Received}

theorem Due.push (due : Due since history i d queue entry) (e : Happening) :
    Due since (e :: history) i d queue entry := by
  unfold Due at due ⊢
  split at due
  · exact due.push e
  · exact ⟨due.1, due.2.imp (·.push e) (·.push e)⟩

theorem Due.cons {kind : Happening → Prop} (is : kind e) (due : Due since history i d queue entry) :
    Due (kind :: since) (e :: history) i d queue entry := by
  unfold Due at due ⊢
  split at due
  · exact due.cons is
  · exact ⟨due.1, due.2.imp (·.cons is) (·.cons is)⟩

/-- The call took out a message as it may, and this was the one that it had read. -/
structure Consumed (history : List Happening) (i : Nat) (d : Dispatcher β) (queue : String)
    (entry : Received) : Prop where
  only : ∀ e ∈ history, ∀ queue' entry', Reads i queue' entry' e → entry' = entry
  due : Due [Archives i queue entry.id] history i d queue entry
  unfailed : ∀ e ∈ history, ¬ Fails i e

structure Happening.Open (i : Nat) (entry : Received) (e : Happening) : Prop where
  only : ∀ queue entry', Reads i queue entry' e → entry' = entry
  kept : ∀ queue id, ¬ Archives i queue id e
  unfailed : ¬ Fails i e

theorem Happening.call_of_archives {id : Nat} (archives : Archives i queue id e) : e.call = i := by
  cases e with
  | invoked => exact archives.elim
  | answered j config p reply after =>
    cases p with
    | archiving => exact archives.1
    | handling | reading => exact archives.elim

theorem Happening.open_of_other (other : e.call ≠ i) (entry : Received) : e.Open i entry := by
  cases e with
  | invoked => exact ⟨nofun, nofun, nofun⟩
  | answered j config p reply after =>
    cases p with
    | reading => exact ⟨fun _ _ reads => absurd reads.1 other, nofun, nofun⟩
    | handling => exact ⟨nofun, nofun, fun fails => other fails.1⟩
    | archiving => exact ⟨nofun, fun _ _ archives => other archives.1, nofun⟩

theorem Consumed.push (consumed : Consumed history i d queue entry) (other : e.call ≠ i) :
    Consumed (e :: history) i d queue entry where
  only := List.forall_mem_cons.2 ⟨(Happening.open_of_other other entry).only, consumed.only⟩
  due := consumed.due.push e
  unfailed :=
    List.forall_mem_cons.2 ⟨(Happening.open_of_other other entry).unfailed, consumed.unfailed⟩

structure Handles (history : List Happening) (i : Nat) (d : Dispatcher β) (queue : String)
    (entry : Received) (m : Message) (t : Trigger) : Prop where
  decoded : Message.decode entry.payload = .ok m
  registered : (d.registry.find? m.task).isSome
  task : t.task = m.task
  input : t.input = ⟨m.args, m.kwargs⟩
  read : Follows [Reads i queue entry] history

def Ran (history : List Happening) (i : Nat) (queue : String) (entry : Received) (m : Message) :
    Prop :=
  Follows [Invokes i m.task ⟨m.args, m.kwargs⟩, Reads i queue entry] history

def Noted (history : List Happening) (i : Nat) (queue : String) (entry : Received) (m : Message) :
    Prop :=
  Follows [Flags i m.identity.lockName, Reads i queue entry] history

section Handling

variable {m : Message} {t : Trigger}

theorem Handles.push (handles : Handles history i d queue entry m t) (e : Happening) :
    Handles (e :: history) i d queue entry m t :=
  { handles with read := handles.read.push e }

theorem Handles.lock (handles : Handles history i d queue entry m t) :
    t.lock = m.identity.lockName := by
  unfold Trigger.lock Trigger.identity Message.identity
  rw [handles.task, handles.input]

theorem Handles.due (handles : Handles history i d queue entry m t)
    (since : Noted history i queue entry m ∨ Ran history i queue entry m) :
    Due [] history i d queue entry := by
  unfold Due
  rw [handles.decoded]
  exact ⟨handles.registered, since.symm⟩

end Handling

/-- What the history tells of a call that stands where it does. -/
def Told (history : List Happening) (i : Nat) (d : Dispatcher β) (queue : String)
    (inside : Bool) : Worker.State → Prop
  | .at .reading => ∀ e ∈ history, e.call ≠ i
  | .at (.handling entry m t p) =>
    Handles history i d queue entry m t ∧ (∀ e ∈ history, e.Open i entry) ∧
      t.Accounted (Noted history i queue entry m) (Ran history i queue entry m) (.at p) ∧
      (inside = true → Ran history i queue entry m)
  | .at (.archiving entry) =>
    Due [] history i d queue entry ∧ ∀ e ∈ history, e.Open i entry
  | .done _ =>
    ∀ queue' id, (∃ e ∈ history, Archives i queue' id e) →
      ∃ entry, entry.id = id ∧ Consumed history i d queue' entry

theorem Told.push {inside : Bool} {state : Worker.State}
    (told : Told history i d queue inside state) (other : e.call ≠ i) :
    Told (e :: history) i d queue inside state := by
  have more {entry : Received} (each : ∀ e ∈ history, e.Open i entry) :
      ∀ e' ∈ e :: history, e'.Open i entry :=
    List.forall_mem_cons.2 ⟨Happening.open_of_other other entry, each⟩
  cases state with
  | «at» p =>
    cases p with
    | reading => exact List.forall_mem_cons.2 ⟨other, told⟩
    | handling entry m t p =>
      obtain ⟨handles, each, accounted, ran⟩ := told
      exact ⟨handles.push e, more each, accounted.mono (·.push e) (·.push e),
        fun inside => (ran inside).push e⟩
    | archiving entry => exact ⟨told.1.push e, more told.2⟩
  | done result =>
    rintro queue' id ⟨e', mem, archives⟩
    obtain rfl | before := List.mem_cons.1 mem
    · exact absurd (Happening.call_of_archives archives) other
    · obtain ⟨entry, same, consumed⟩ := told queue' id ⟨e', before, archives⟩
      exact ⟨entry, same, consumed.push other⟩

theorem told_of_kept {inside : Bool} {result : Except Error Bool}
    (kept : ∀ e ∈ history, ∀ queue id, ¬ Archives i queue id e) :
    Told history i d queue inside (.done result) := by
  rintro queue' id ⟨e, mem, archives⟩
  exact absurd archives (kept e mem queue' id)

/-! The steps of a call, by where it stands. -/

section Steps

variable {config : WorkerConfig} {m : Message} {t : Trigger} {before after : Tables}
  {fresh : String}

theorem told_received (built : d.Built) (read : Follows [Reads i queue entry] history)
    (each : ∀ e ∈ history, e.Open i entry) :
    Told history i d queue false (Worker.received d fresh entry).2 := by
  unfold Worker.received
  split
  · next undecodable =>
    refine ⟨?_, each⟩
    unfold Due
    rw [undecodable]
    exact read
  · next m decoded =>
    cases handled : d.handle fresh m with
    | error e =>
      rw [Dispatcher.eq_unknownTask_of_handle handled]
      exact told_of_kept fun e mem => (each e mem).kept
    | ok started =>
      obtain ⟨t, events, state⟩ := started
      obtain ⟨registered, task, input, rfl⟩ := built.eq_of_handle handled
      exact ⟨⟨decoded, registered, task, input, read⟩, each, trivial, nofun⟩

theorem told_read (built : d.Built) (silent : ∀ e ∈ history, e.call ≠ i)
    {reply : Except Error (Option Received)}
    (there : ∀ entry, reply = .ok (some entry) →
      ∃ e ∈ after.entries config.queue, e.received = .ok entry) :
    Told (.answered i config .reading reply after :: history) i d config.queue false
      (Worker.resume config d fresh .reading reply).2 := by
  have kept : ∀ e ∈ .answered i config .reading reply after :: history,
      ∀ queue id, ¬ Archives i queue id e :=
    List.forall_mem_cons.2
      ⟨nofun, fun e mem _ _ archives => silent e mem (Happening.call_of_archives archives)⟩
  obtain e | ⟨_ | entry⟩ := reply
  · exact told_of_kept kept
  · exact told_of_kept kept
  · refine told_received built ?_ ?_
    · exact (follows_nil history).cons ⟨rfl, rfl, rfl, there entry rfl⟩
    · refine List.forall_mem_cons.2
        ⟨⟨?_, nofun, nofun⟩, fun e mem => Happening.open_of_other (silent e mem) entry⟩
      rintro queue entry' ⟨-, -, same, -⟩
      cases same
      rfl

theorem told_settled {state : Trigger.State} (handles : Handles history i d queue entry m t)
    (kept : ∀ e ∈ history, ∀ queue id, ¬ Archives i queue id e)
    (opened : (∀ e, state = .done (.error e) → t.Own e) → ∀ e ∈ history, e.Open i entry)
    (accounted : t.Accounted (Noted history i queue entry m) (Ran history i queue entry m) state) :
    Told history i d queue false (Worker.settled entry m t state).2 := by
  cases state with
  | «at» p => exact ⟨handles, opened nofun, accounted, nofun⟩
  | done result =>
    cases result with
    | ok outcome => exact ⟨handles.due accounted, opened nofun⟩
    | error e =>
      obtain ⟨ran, cause, rfl⟩ | ⟨fault, rfl⟩ := accounted
      · refine ⟨handles.due (.inr ran), opened fun e same => ?_⟩
        cases same
        exact ⟨cause, rfl⟩
      · exact told_of_kept kept

theorem told_handled {p : Trigger.Point} {reply : (p.request t).Reply}
    (handles : Handles history i d config.queue entry m t) (each : ∀ e ∈ history, e.Open i entry)
    (accounted : t.Accounted (Noted history i config.queue entry m)
      (Ran history i config.queue entry m) (.at p))
    (faults : (p.request t).OnlyFaults reply)
    (notes : p.notes t reply → after.isRaised t.lock = true)
    (runs : Interleaving.isRunning p = true → Ran history i config.queue entry m) :
    Told (.answered i config (.handling entry m t p) reply after :: history) i d config.queue false
      (Worker.settled entry m t (t.resume p reply).2).2 := by
  refine told_settled (handles.push _) ?kept ?opened ?accounted
  case kept => exact List.forall_mem_cons.2 ⟨nofun, fun e mem => (each e mem).kept⟩
  case opened =>
    intro own
    refine List.forall_mem_cons.2 ⟨⟨nofun, nofun, ?_⟩, each⟩
    rintro ⟨-, e, ended, foreign⟩
    obtain ⟨cause, rfl⟩ := own e ended
    exact foreign cause (by rw [handles.task])
  case accounted =>
    obtain ⟨sent, next, -⟩ := t.follows_resume p reply
    refine next.accounted (accounted.mono (·.push _) (·.push _)) faults ?_
      fun running => (runs running).push _
    intro is
    cases p with
    | raising => exact handles.read.cons ⟨rfl, handles.lock, handles.lock ▸ notes is⟩
    | _ => exact is.elim

theorem told_archived {reply : Except Error Unit} (due : Due [] history i d config.queue entry)
    (each : ∀ e ∈ history, e.Open i entry) :
    Told (.answered i config (.archiving entry) reply after :: history) i d config.queue false
      (Worker.resume config d fresh (.archiving entry) reply).2 := by
  have consumed : Consumed (.answered i config (.archiving entry) reply after :: history) i d
      config.queue entry :=
    { only := List.forall_mem_cons.2 ⟨nofun, fun e mem => (each e mem).only⟩
      due := due.cons ⟨rfl, rfl, rfl⟩
      unfailed := List.forall_mem_cons.2 ⟨nofun, fun e mem => (each e mem).unfailed⟩ }
  have told (result : Except Error Bool) :
      Told (.answered i config (.archiving entry) reply after :: history) i d config.queue false
        (.done result) := by
    rintro queue id ⟨e, mem, archives⟩
    obtain rfl | before := List.mem_cons.1 mem
    · obtain ⟨-, rfl, rfl⟩ := archives
      exact ⟨entry, rfl, consumed⟩
    · exact absurd archives ((each e before).kept queue id)
  cases reply with
  | ok done => exact told (.ok true)
  | error e => exact told (.error e)

/-! Answers of the server. -/

theorem Answers.settled {r : Worker.Request} {reply : r.Reply}
    (answers : Answers before r reply after) :
    Tables.Archives r.Archives before after ∧ r.OnlyFaults reply := by
  cases answers with
  | served db here =>
    subst here
    exact Worker.settled_answer db r
  | lost db here fault =>
    subst here
    exact ⟨(Worker.settled_answer db r).1, r.onlyFaults_failed fault⟩

theorem Answers.isRaised {flag : String} {r : Raise}
    {reply : (Worker.Request.dispatch (.raise flag)).Reply}
    (answers : Answers before (.dispatch (.raise flag)) reply after)
    (ok : (reply : Except Error Raise) = .ok r) : after.isRaised flag = true := by
  cases answers with
  | served db here => exact db.isRaised_of_raise ok
  | lost => cases ok

theorem Answers.mem_entries {seconds : Nat} {reply : (Worker.Request.read queue seconds).Reply}
    (answers : Answers before (.read queue seconds) reply after)
    (ok : (reply : Except Error (Option Received)) = .ok (some entry)) :
    ∃ e ∈ after.entries queue, e.received = .ok entry := by
  cases answers with
  | served db here => exact db.mem_entries_of_read ok
  | lost => cases ok

theorem told_asked {inside : Bool} {p : Worker.Point} {reply : (p.request config).Reply}
    (built : d.Built) (told : Told history i d config.queue inside (.at p)) (quiet : asks p = true)
    (answers : Answers before (p.request config) reply after) :
    Told (.answered i config p reply after :: history) i d config.queue false
      (Worker.resume config d fresh p reply).2 := by
  cases p with
  | reading => exact told_read built told fun entry ok => answers.mem_entries ok
  | handling entry m t p =>
    obtain ⟨handles, each, accounted, -⟩ := told
    refine told_handled handles each accounted answers.settled.2 ?_ ?_
    · intro notes
      cases p with
      | raising =>
        obtain ⟨r, ok⟩ := notes
        exact answers.isRaised ok
      | _ => exact notes.elim
    · intro running
      simp [asks, running] at quiet
  | archiving entry => exact told_archived told.1 told.2

end Steps

/-! Whole runs. -/

/-- What holds of a world that came about from the given tables. -/
structure Sound (tables : Tables) (w : World β) : Prop where
  known : ∀ e ∈ w.history, e.call < w.calls.length
  built : ∀ c ∈ w.calls, c.dispatcher.Built
  told : ∀ i c, w.calls[i]? = some c →
    Told w.history i c.dispatcher c.config.queue c.inside c.state
  archives : Tables.Archives (fun queue id => ∃ i, ∃ e ∈ w.history, Archives i queue id e)
    tables w.tables

variable {tables : Tables} {w w' : World β}

theorem told_set {calls : List (Call β)} {c₀ c : Call β} (call : calls[i]? = some c₀)
    (told : Told history i c.dispatcher c.config.queue c.inside c.state)
    (others : ∀ j c', i ≠ j → calls[j]? = some c' →
      Told history j c'.dispatcher c'.config.queue c'.inside c'.state) :
    ∀ j c', (calls.set i c)[j]? = some c' →
      Told history j c'.dispatcher c'.config.queue c'.inside c'.state := by
  intro j c' there
  by_cases same : i = j
  · subst same
    rw [List.getElem?_set_self (List.getElem?_eq_some_iff.1 call).1] at there
    cases there
    exact told
  · rw [List.getElem?_set_ne same] at there
    exact others j c' same there

theorem Sound.record (sound : Sound tables w) {c₀ c : Call β} {after : Tables}
    (call : w.calls[e.call]? = some c₀) (built : c.dispatcher.Built)
    (told : Told (e :: w.history) e.call c.dispatcher c.config.queue c.inside c.state)
    (archives : Tables.Archives (fun queue id => Archives e.call queue id e) w.tables after) :
    Sound tables ⟨after, w.calls.set e.call c, e :: w.history⟩ where
  known := by
    rw [List.length_set]
    exact List.forall_mem_cons.2 ⟨(List.getElem?_eq_some_iff.1 call).1, sound.known⟩
  built c' mem := by
    obtain old | rfl := List.mem_or_eq_of_mem_set mem
    · exact sound.built c' old
    · exact built
  told := told_set call told fun j c' other there => (sound.told j c' there).push other
  archives := by
    refine Tables.Archives.trans (v := after) ?_ fun queue id mem =>
      (archives queue id mem).imp_right fun new => ⟨e.call, e, List.mem_cons_self, new⟩
    intro queue id mem
    exact (sound.archives queue id mem).imp_right fun ⟨i, e', mem, archives⟩ =>
      ⟨i, e', List.mem_cons_of_mem e mem, archives⟩

theorem Sound.answered (sound : Sound tables w) {c : Call β} {p : Worker.Point}
    {reply : (p.request c.config).Reply} {after : Tables} (call : w.calls[i]? = some c)
    (told : Told (.answered i c.config p reply after :: w.history) i c.dispatcher c.config.queue
      false (Worker.resume c.config c.dispatcher c.fresh p reply).2)
    (archives : Tables.Archives (p.request c.config).Archives w.tables after) :
    Sound tables (w.answered i c p reply after) := by
  refine sound.record (e := .answered i c.config p reply after) call
    (sound.built c (List.mem_of_getElem? call)) told (archives.mono fun queue id new => ?_)
  cases p with
  | reading | handling => exact new.elim
  | archiving entry => exact ⟨rfl, new.1.symm, new.2.symm⟩

theorem Sound.invoke (sound : Sound tables w) {c : Call β} {m : Message} {t : Trigger} {cycle : Nat}
    (call : w.calls[i]? = some c)
    (state : c.state = .at (.handling entry m t (.running cycle))) :
    Sound tables { w with
      calls := w.calls.set i { c with inside := true }
      history := .invoked i t.task t.input :: w.history } := by
  have told := sound.told i c call
  rw [state] at told
  obtain ⟨handles, each, -, -⟩ := told
  refine sound.record (e := .invoked i t.task t.input) call
    (sound.built c (List.mem_of_getElem? call)) ?_ (.refl _)
  change Told _ _ _ _ _ c.state
  rw [state]
  exact ⟨handles.push _, List.forall_mem_cons.2 ⟨⟨nofun, nofun, nofun⟩, each⟩, trivial,
    fun _ => handles.read.cons ⟨rfl, handles.task, handles.input⟩⟩

theorem Sound.step (sound : Sound tables w) (step : Step w w') : Sound tables w' := by
  cases step with
  | @begin config d built fresh =>
    refine ⟨?_, ?_, ?_, sound.archives⟩
    · intro e mem
      rw [List.length_append]
      exact Nat.lt_add_right 1 (sound.known e mem)
    · intro c mem
      obtain old | new := List.mem_append.1 mem
      · exact sound.built c old
      · cases List.mem_singleton.1 new
        exact built
    · intro j c there
      obtain old | new := Nat.lt_or_ge j w.calls.length
      · rw [List.getElem?_append_left old] at there
        exact sound.told j c there
      · rw [List.getElem?_append_right new] at there
        cases List.mem_singleton.1 (List.mem_of_getElem? there)
        intro e mem same
        exact absurd (sound.known e mem) (Nat.not_lt.2 (same ▸ new))
  | @ask i c p reply after call live state quiet answers =>
    have told := sound.told i c call
    rw [state] at told
    exact sound.answered call
      (told_asked (sound.built c (List.mem_of_getElem? call)) told quiet answers)
      answers.settled.1
  | invoke call live state => exact sound.invoke call state
  | @finish i c entry m t cycle call live state within result =>
    have told := sound.told i c call
    rw [state] at told
    obtain ⟨handles, each, accounted, ran⟩ := told
    exact sound.answered call
      (told_handled handles each accounted trivial False.elim fun _ => ran within) (.refl _)
  | other archives =>
    exact { sound with
      archives := sound.archives.trans (archives.mono fun _ _ => False.elim) }
  | @vanish i c call =>
    refine ⟨?_, ?_, ?_, sound.archives⟩
    · rw [List.length_set]
      exact sound.known
    · intro c' mem
      obtain old | rfl := List.mem_or_eq_of_mem_set mem
      · exact sound.built c' old
      · exact sound.built c (List.mem_of_getElem? call)
    · exact told_set call (sound.told i c call) fun j c' _ there => sound.told j c' there

theorem sound_of_reachable (reachable : Reachable tables w) : Sound tables w := by
  induction reachable with
  | idle =>
    refine ⟨List.forall_mem_nil _, List.forall_mem_nil _, fun i c call => ?_, .refl _⟩
    exact absurd (List.mem_of_getElem? call) List.not_mem_nil
  | next reached step sound => exact sound.step step

/-- A message that was not archived at the start was taken out by a call that had read it. It
cannot be decoded, or its task is known to the call and, after the message was read, was invoked by
the call or had its flag up; and its handling did not end in an error that is not of its task. -/
theorem consumed_of_reachable (reachable : Reachable tables w) :
    (∀ queue, ∀ id ∈ w.tables.archived queue, id ∈ tables.archived queue ∨
        ∃ i, ∃ e ∈ w.history, Archives i queue id e) ∧
      ∀ i queue id, (∃ e ∈ w.history, Archives i queue id e) →
        ∃ c entry, w.calls[i]? = some c ∧ entry.id = id ∧
          Consumed w.history i c.dispatcher queue entry := by
  have sound := sound_of_reachable reachable
  refine ⟨sound.archives, ?_⟩
  rintro i queue id ⟨e, mem, archives⟩
  obtain rfl := Happening.call_of_archives archives
  obtain ⟨c, call⟩ : ∃ c, w.calls[e.call]? = some c :=
    ⟨_, List.getElem?_eq_getElem (sound.known e mem)⟩
  have told := sound.told e.call c call
  cases state : c.state with
  | done result =>
    rw [state] at told
    obtain ⟨entry, same, consumed⟩ := told queue id ⟨e, mem, archives⟩
    exact ⟨c, entry, call, same, consumed⟩
  | «at» p =>
    rw [state] at told
    cases p with
    | reading => exact absurd rfl (told e mem)
    | handling entry m t p => exact absurd archives ((told.2.1 e mem).kept queue id)
    | archiving entry => exact absurd archives ((told.2 e mem).kept queue id)

def waitingText : String :=
  "\x7b\"id\": \"\", \"args\": [], \"task\": \"t\", \"kwargs\": \x7b\x7d\x7d"

def waiting : Tables := ⟨[⟨"t", ⟨0, 0⟩⟩], [("q", ⟨[⟨1, 0, 0, waitingText⟩], [], 1⟩)], []⟩

def hidden : Tables := ⟨[⟨"t", ⟨0, 0⟩⟩], [("q", ⟨[⟨1, 1, 60, waitingText⟩], [], 1⟩)], []⟩

def busy (tables : Tables) : Database :=
  ⟨⟨tables, ⟨0, 0⟩, [], []⟩, ⟨[(0, 0)], [], [(0, 0)], [], 1⟩, fun _ => 0, ⟨id⟩⟩

def waitingRead : Received :=
  ⟨1, 1, (Message.ofTask "" "t" []).toJson⟩

theorem received_waiting : Server.Entry.received ⟨1, 1, 60, waitingText⟩ = .ok waitingRead := by
  have parsed : Json.parse waitingText = .ok waitingRead.payload := by decide +kernel
  rw [Server.Entry.received, parsed]
  rfl

theorem answers_waiting :
    Answers waiting (.read "q" 60) (.ok (some waitingRead)) hidden := by
  have found : Server.Queues.onQueue "q" (fun now q => q.read now.seconds 60) (busy waiting).link =
      .ok (some ⟨1, 1, 60, waitingText⟩) (busy hidden).link := rfl
  have answered : (busy waiting).perform (Server.Queues.read "q" 60) =
      (.ok (some waitingRead), (busy hidden).report (.counted (.queueOperation "q" "read"))) := by
    rw [Database.perform, Server.Queues.read_of_received "q" found received_waiting]
    rfl
  have served := Answers.served (r := .read "q" 60) (busy waiting) rfl
  simp only [Worker.answer, answered] at served
  exact served

/-- The worker is refused the lock, finds the flag up and takes the message out. -/
theorem run_alreadyUp : ∃ w : World Unit, Reachable waiting w ∧ 1 ∈ w.tables.archived "q" :=
  ⟨_, Reachable.idle
    |>.next (.begin ⟨"q", 60, 5⟩ Interleaving.single_built "")
    |>.next (.ask (i := 0) rfl rfl rfl rfl answers_waiting)
    |>.next (.ask (i := 0) rfl rfl rfl rfl (.served (busy _) rfl))
    |>.next (.ask (i := 0) rfl rfl rfl rfl (.served (busy _) rfl))
    |>.next (.ask (i := 0) rfl rfl rfl rfl (.served (busy _) rfl)),
    List.mem_singleton_self 1⟩

theorem consumed_alreadyUp : ∃ (w : World Unit) (i : Nat) (c : Call Unit) (entry : Received),
    1 ∈ w.tables.archived "q" ∧ w.calls[i]? = some c ∧ entry.id = 1 ∧
      Consumed w.history i c.dispatcher "q" entry := by
  obtain ⟨w, reachable, out⟩ := run_alreadyUp
  obtain ⟨sources, consumed⟩ := consumed_of_reachable reachable
  obtain start | ⟨i, archives⟩ := sources "q" 1 out
  · cases start
  · obtain ⟨c, entry, call, same, told⟩ := consumed i "q" 1 archives
    exact ⟨w, i, c, entry, out, call, same, told⟩

end Consumption
end Coalesce
