import Coalesce.Proofs.Statements
import Coalesce.Worker.Run

/-! The archives of queues. Of all that a worker asks of the server only the archiving of a message
adds to an archive, and whatever fails fails with an error of the server. -/
namespace Coalesce

def OnlyFaults {α : Type} (answer : Except Error α) : Prop :=
  ∀ e, answer = .error e → ∃ fault, e = .database fault

namespace Server

namespace Tables

def archived (t : Tables) (queue : String) : List Nat :=
  ((t.queues.get? queue).map Queue.archived).getD []

theorem archived_eq_getD (t : Tables) (queue : String) :
    t.archived queue = ((t.queues.get? queue).getD .empty).archived := by
  unfold archived
  cases t.queues.get? queue <;> rfl

/-- What comes to an archive is such as `allowed` says. -/
def Archives (allowed : String → Nat → Prop) (t t' : Tables) : Prop :=
  ∀ queue, ∀ id ∈ t'.archived queue, id ∈ t.archived queue ∨ allowed queue id

variable {allowed : String → Nat → Prop}

theorem Archives.of_eq {t t' : Tables} (same : t'.queues = t.queues) : Archives allowed t t' := by
  intro queue id mem
  rw [archived, same] at mem
  exact .inl mem

theorem Archives.refl (t : Tables) : Archives allowed t t := .of_eq rfl

theorem Archives.trans {t u v : Tables} (first : Archives allowed t u)
    (second : Archives allowed u v) : Archives allowed t v := by
  intro queue id mem
  obtain before | new := second queue id mem
  · exact first queue id before
  · exact .inr new

theorem Archives.mono {more : String → Nat → Prop} {t t' : Tables}
    (archives : Archives allowed t t') (weaker : ∀ queue id, allowed queue id → more queue id) :
    Archives more t t' :=
  fun queue id mem => (archives queue id mem).imp_right (weaker queue id)

theorem archives_ensureQueue (t : Tables) (queue : String) :
    Archives allowed t (t.ensureQueue queue) := by
  intro other id mem
  rw [archived_eq_getD, getD_ensureQueue, ← archived_eq_getD] at mem
  exact .inl mem

theorem entries_onQueue? {α : Type} {t t' : Tables} {queue : String} {a : α}
    {change : Queue → α × Queue} (changed : t.onQueue? queue change = some (a, t')) :
    ∃ q, (change q).1 = a ∧ t'.entries queue = (change q).2.entries := by
  obtain ⟨q, -, same⟩ := Option.map_eq_some_iff.1 changed
  cases same
  exact ⟨q, rfl, by simp [entries, Table.get?_insert_self]⟩

theorem archives_onQueue? {α : Type} {t t' : Tables} {queue : String} {a : α}
    {change : Queue → α × Queue}
    (kept : ∀ q, ∀ id ∈ (change q).2.archived, id ∈ q.archived ∨ allowed queue id)
    (changed : t.onQueue? queue change = some (a, t')) : Archives allowed t t' := by
  obtain ⟨q, there, same⟩ := Option.map_eq_some_iff.1 changed
  cases same
  intro other id mem
  by_cases same : other = queue
  · subst same
    simp only [archived, Table.get?_insert_self, Option.map_some, Option.getD_some] at mem
    simpa [archived, there] using kept q id mem
  · simp only [archived, Table.get?_insert_of_ne same] at mem
    exact .inl mem

end Tables

theorem Entry.database_of_received (entry : Entry) {e : Error}
    (unreadable : entry.received = .error e) : ∃ fault, e = .database fault := by
  unfold Entry.received at unreadable
  split at unreadable
  · cases unreadable
  · cases unreadable
    exact ⟨_, rfl⟩

theorem Queue.archived_archive (q : Queue) (id : Nat) :
    ∀ other ∈ (q.archive id).archived, other ∈ q.archived ∨ other = id := by
  intro other mem
  unfold Queue.archive at mem
  split at mem
  · simpa using mem
  · exact .inl mem

theorem Queue.mem_of_read {q : Queue} {now : Int} {seconds : Nat} {e : Entry}
    (found : (q.read now seconds).1 = some e) : e ∈ (q.read now seconds).2.entries := by
  unfold Queue.read at found ⊢
  split at found
  · cases found
  · next e' next =>
    cases found
    have mem : e' ∈ q.entries := List.mem_of_find?_eq_some next
    refine List.mem_map.2 ⟨e', mem, ?_⟩
    rw [if_pos rfl]

theorem Tables.isRaised_raise (t : Tables) (name : String) (now : Timestamp) :
    (t.raise name now).2.isRaised name = true := by
  unfold Tables.raise
  split
  · next up => exact up
  · simp [Tables.isRaised]

theorem Queue.archived_read (q : Queue) (now : Int) (seconds : Nat) :
    (q.read now seconds).2.archived = q.archived := by
  unfold Queue.read
  split <;> rfl

namespace Query

variable {α β : Type} {allowed : String → Nat → Prop}

theorem bind_eq_ok {q : Query α} {f : α → Query β} {b : β} {l l' : Link} :
    (q >>= f) l = .ok b l' ↔ ∃ a l₁, q l = .ok a l₁ ∧ f a l₁ = .ok b l' := by
  cases answer : q l with
  | ok a l₁ =>
    rw [bind_of_ok answer]
    constructor
    · exact fun rest => ⟨a, l₁, rfl, rest⟩
    · rintro ⟨a', l₁', same, rest⟩
      cases same
      exact rest
  | error e l₁ => simp [bind_of_error answer]

theorem of_statement? {work : Timestamp → Tables → Except String (α × Tables)} {a : α} {l l' : Link}
    (done : statement? work l = .ok a l') : work l.clock l.tables = .ok (a, l'.tables) := by
  unfold statement? at done
  split at done
  · cases done
  · dsimp only at done
    split at done
    · next worked =>
      cases done
      exact worked
    · cases done

theorem of_statement {work : Timestamp → Tables → α × Tables} {a : α} {l l' : Link}
    (done : statement work l = .ok a l') : work l.clock l.tables = (a, l'.tables) :=
  Except.ok.inj (of_statement? done)

theorem tables_of_control {l l' : Link} {u : Unit} (done : control l = .ok u l') :
    l'.tables = l.tables :=
  (congrArg Prod.snd (of_statement done)).symm

theorem of_transaction {body : Query α} {a : α} {l l' : Link}
    (done : transaction body l = .ok a l') :
    ∃ l₁ l₂, l₁.tables = l.tables ∧ body l₁ = .ok a l₂ ∧ l'.tables = l₂.tables := by
  unfold transaction at done
  dsimp only at done
  split at done
  · next answer =>
    cases done
    obtain ⟨_, l₁, begun, answer⟩ := bind_eq_ok.1 answer
    obtain ⟨a, l₂, worked, answer⟩ := bind_eq_ok.1 answer
    obtain ⟨_, l₃, committed, answer⟩ := bind_eq_ok.1 answer
    cases answer
    exact ⟨l₁, l₂, tables_of_control begun, worked, tables_of_control committed⟩
  · cases done

/-- However the query goes, archives grow only as they may, and it fails only as the server does. -/
structure Settles (allowed : String → Nat → Prop) (q : Query α) : Prop where
  archives : Within (Tables.Archives allowed) q
  faults : ∀ l e l', q l = .error e l' → ∃ fault, e = .database fault

theorem settles_pure (a : α) : Settles allowed (pure a : Query α) :=
  ⟨within_pure .refl a, nofun⟩

theorem settles_report (event : Event) : Settles allowed (report event) :=
  ⟨within_report .refl event, nofun⟩

theorem settles_throw (fault : DatabaseFault) :
    Settles allowed (throw (.database fault) : Query α) where
  archives l := .refl l.tables
  faults _ _ _ failed := by
    cases failed
    exact ⟨fault, rfl⟩

theorem settles_bind {q : Query α} {f : α → Query β} (first : Settles allowed q)
    (rest : ∀ a, Settles allowed (f a)) : Settles allowed (q >>= f) where
  archives := within_bind .trans first.archives fun a => (rest a).archives
  faults l e l' failed := by
    cases answer : q l with
    | ok a l'' =>
      rw [bind_of_ok answer] at failed
      exact (rest a).faults l'' e l' failed
    | error e' l'' =>
      rw [bind_of_error answer] at failed
      cases failed
      exact first.faults l e l' answer

theorem database_of_statement? {work : Timestamp → Tables → Except String (α × Tables)}
    {l l' : Link} {e : Error} (failed : statement? work l = .error e l') :
    ∃ fault, e = .database fault := by
  unfold statement? at failed
  split at failed
  · cases failed
    exact ⟨_, rfl⟩
  · dsimp only at failed
    split at failed
    · cases failed
    · cases failed
      exact ⟨_, rfl⟩

theorem settles_statement? {work : Timestamp → Tables → Except String (α × Tables)}
    (works : ∀ now t a t', work now t = .ok (a, t') → Tables.Archives allowed t t') :
    Settles allowed (statement? work) :=
  ⟨within_statement? .refl works, fun _ _ _ => database_of_statement?⟩

theorem settles_statement {work : Timestamp → Tables → α × Tables}
    (works : ∀ now t, Tables.Archives allowed t (work now t).2) :
    Settles allowed (statement work) :=
  ⟨within_statement .refl works, fun _ _ _ => database_of_statement?⟩

theorem settles_control : Settles allowed control := settles_statement fun _ t => .refl t

theorem settles_transaction {body : Query α} (settles : Settles allowed body) :
    Settles allowed (transaction body) where
  archives := within_transaction .refl .trans settles.archives
  faults l e l' failed := by
    have whole := settles_bind settles_control (fun _ => settles_bind settles (fun a =>
      settles_bind settles_control (fun _ => settles_pure a)))
    unfold transaction at failed
    dsimp only at failed
    split at failed
    · cases failed
    · next answer =>
      cases failed
      exact whole.faults l _ _ answer

end Query

namespace Flags

variable {allowed : String → Nat → Prop} (name : String)

theorem settles_raise : Query.Settles allowed (raise name) := by
  refine Query.settles_transaction (Query.settles_statement fun now t => ?_)
  unfold Tables.raise
  split <;> exact .of_eq rfl

theorem settles_isRaised : Query.Settles allowed (isRaised name) :=
  Query.settles_statement fun _ t => .refl t

theorem settles_lower : Query.Settles allowed (lower name) :=
  Query.settles_statement fun _ _ => .of_eq rfl

theorem settles_list : Query.Settles allowed list := Query.settles_statement fun _ t => .refl t

end Flags

namespace Queues

variable {allowed : String → Nat → Prop} (column : Column) (queue : String)

theorem settles_onQueue {α : Type} {change : Timestamp → Queue → α × Queue}
    (kept : ∀ now q, ∀ id ∈ (change now q).2.archived, id ∈ q.archived ∨ allowed queue id) :
    Query.Settles allowed (onQueue queue change) := by
  refine Query.settles_statement? fun now t a t' worked => ?_
  split at worked
  · next changed =>
    cases worked
    exact Tables.archives_onQueue? (kept now) changed
  · cases worked

theorem settles_sendOn (payload : Json) : Query.Settles allowed (sendOn column queue payload) :=
  Query.settles_bind (Query.settles_statement fun _ t => Tables.archives_ensureQueue t queue)
    fun _ => Query.settles_bind (settles_onQueue queue fun _ _ _ mem => .inl mem) fun id =>
      Query.settles_bind (Query.settles_statement fun _ _ => .of_eq rfl) fun _ =>
        Query.settles_bind (Query.settles_report _) fun _ => Query.settles_pure id

theorem settles_sendToAll (payload : Json) (queues : List String) :
    Query.Settles allowed (sendToAll column payload queues) := by
  induction queues with
  | nil => exact Query.settles_pure ()
  | cons queue rest ih => exact Query.settles_bind (settles_sendOn column queue payload) fun _ => ih

theorem settles_publish (d : Delivery) : Query.Settles allowed (publish column d) := by
  unfold publish
  split
  · exact Query.settles_bind (Query.settles_transaction (settles_sendOn column d.queue _)) fun _ =>
      Query.settles_pure ()
  · refine Query.settles_bind (Query.settles_statement fun _ t => .refl t) fun bound => ?_
    split
    · exact Query.settles_report _
    · exact Query.settles_transaction (settles_sendToAll column _ bound)

theorem settles_received (entry : Option Entry) : Query.Settles allowed (received entry) := by
  match entry with
  | none => exact Query.settles_pure none
  | some entry =>
    unfold received
    dsimp only
    split
    · exact Query.settles_pure _
    · next e unreadable =>
      obtain ⟨fault, rfl⟩ := entry.database_of_received unreadable
      exact Query.settles_throw fault

theorem of_received {entry : Option Entry} {message : Received} {l l' : Link}
    (answered : received entry l = .ok (some message) l') :
    ∃ e, entry = some e ∧ e.received = .ok message ∧ l' = l := by
  match entry with
  | none => cases answered
  | some e =>
    refine ⟨e, rfl, ?_⟩
    cases gave : e.received with
    | ok message' =>
      simp only [received, gave] at answered
      cases answered
      exact ⟨rfl, rfl⟩
    | error reason =>
      simp only [received, gave] at answered
      cases answered

theorem read_of_received {seconds : Nat} {e : Entry} {message : Received} {l l' : Link}
    (found : onQueue queue (fun now q => q.read now.seconds seconds) l = .ok (some e) l')
    (given : e.received = .ok message) :
    read queue seconds l =
      .ok (some message)
        { l' with events := l'.events ++ [.counted (.queueOperation queue "read")] } := by
  have taken : received (some e) l' = .ok (some message) l' := by
    simp only [received, given]
    rfl
  simp only [read, bind, EStateM.bind, found, taken]
  rfl

theorem settles_read (seconds : Nat) : Query.Settles allowed (read queue seconds) := by
  refine Query.settles_bind (settles_onQueue queue fun now q id mem => ?_) fun entry =>
    Query.settles_bind (settles_received entry) fun message =>
      Query.settles_bind (Query.settles_report _) fun _ => Query.settles_pure message
  rw [q.archived_read] at mem
  exact .inl mem

theorem settles_archive (id : Nat) :
    Query.Settles (fun q i => q = queue ∧ i = id) (archive queue id) :=
  Query.settles_bind
    (settles_onQueue queue fun _ q i mem =>
      (q.archived_archive id i mem).imp_right fun same => ⟨rfl, same⟩)
    fun _ => Query.settles_report _

end Queues

namespace Database

variable {α : Type} (db : Database)

/-- A request may add to archives as `allowed` says, and its answer is an error only if the server
has failed. -/
def Settled (allowed : String → Nat → Prop) (answer : Except Error α × Database) : Prop :=
  Tables.Archives allowed db.link.tables answer.2.link.tables ∧ OnlyFaults answer.1

variable {allowed : String → Nat → Prop}

theorem settled_perform {q : Query α} (settles : Query.Settles allowed q) :
    db.Settled allowed (db.perform q) := by
  have archives := settles.archives db.link
  unfold Query.tablesAfter at archives
  unfold perform
  cases answer : q db.link with
  | ok a l =>
    rw [answer] at archives
    exact ⟨archives, nofun⟩
  | error e l =>
    rw [answer] at archives
    refine ⟨archives, fun e' same => ?_⟩
    cases same
    exact settles.faults db.link e l answer

theorem settled_withVerdict (act : Verdict → α × Sessions UInt64) :
    db.Settled allowed (db.withVerdict act) := by
  have settled : db.Settled allowed (db.perform .control) :=
    db.settled_perform Query.settles_control
  unfold withVerdict
  obtain ⟨result, db', out⟩ : ∃ result db', db.perform .control = (result, db') := ⟨_, _, rfl⟩
  rw [out] at settled ⊢
  cases result with
  | ok u => exact ⟨settled.1, nofun⟩
  | error e =>
    refine ⟨settled.1, fun e' same => ?_⟩
    cases same
    exact settled.2 e rfl

theorem settled_acquire (lock : String) : db.Settled allowed (db.acquire lock) := by
  have settled : db.Settled allowed (db.withVerdict (db.sessions.acquire (db.key lock))) :=
    db.settled_withVerdict _
  obtain ⟨result, db', out⟩ : ∃ result db',
    db.withVerdict (db.sessions.acquire (db.key lock)) = (result, db') := ⟨_, _, rfl⟩
  unfold acquire
  rw [out] at settled ⊢
  refine ⟨settled.1, fun e failed => ?_⟩
  cases result with
  | ok attempt => cases failed
  | error e' =>
    cases failed
    exact settled.2 e rfl

theorem settled_release (lock : String) : db.Settled allowed (db.release lock) := by
  cases handle : db.sessions.handle? (db.key lock) with
  | none =>
    rw [db.release_of_no_handle lock handle]
    exact ⟨.refl _, nofun⟩
  | some session =>
    let act := db.sessions.release session (db.key lock)
    have settled : db.Settled allowed (db.withVerdict act) := db.settled_withVerdict act
    obtain ⟨result, db', out⟩ : ∃ result db', db.withVerdict act = (result, db') := ⟨_, _, rfl⟩
    unfold release
    rw [handle]
    dsimp only
    rw [out] at settled ⊢
    cases result with
    | ok given => cases given <;> exact ⟨settled.1, nofun⟩
    | error e =>
      refine ⟨settled.1, fun e' same => ?_⟩
      cases same
      exact settled.2 e rfl

theorem perform_eq_ok {q : Query α} {a : α} (answered : (db.perform q).1 = .ok a) :
    ∃ l, q db.link = .ok a l ∧ (db.perform q).2.link = l := by
  unfold perform at answered ⊢
  cases answer : q db.link with
  | ok b l =>
    rw [answer] at answered
    cases answered
    exact ⟨l, rfl, rfl⟩
  | error e l =>
    rw [answer] at answered
    cases answered

theorem isRaised_of_raise {name : String} {r : Raise}
    (answered : (db.perform (Flags.raise name)).1 = .ok r) :
    (db.perform (Flags.raise name)).2.link.tables.isRaised name = true := by
  obtain ⟨l, done, after⟩ := db.perform_eq_ok answered
  obtain ⟨l₁, l₂, -, raised, same⟩ := Query.of_transaction done
  have result : (l₁.tables.raise name l₁.clock).2 = l₂.tables :=
    congrArg Prod.snd (Query.of_statement raised)
  rw [after, same, ← result]
  exact Tables.isRaised_raise ..

theorem mem_entries_of_read {queue : String} {seconds : Nat} {message : Received}
    (answered : (db.perform (Queues.read queue seconds)).1 = .ok (some message)) :
    ∃ e ∈ (db.perform (Queues.read queue seconds)).2.link.tables.entries queue,
      e.received = .ok message := by
  obtain ⟨l, done, after⟩ := db.perform_eq_ok answered
  obtain ⟨found, l₁, read, rest⟩ := Query.bind_eq_ok.1 done
  obtain ⟨message', l₂, received, rest⟩ := Query.bind_eq_ok.1 rest
  cases rest
  obtain ⟨entry, rfl, gave, rfl⟩ := Queues.of_received received
  have worked := Query.of_statement? read
  split at worked
  · next change =>
    cases worked
    obtain ⟨q, found, entries⟩ := Tables.entries_onQueue? change
    rw [after]
    exact ⟨entry, entries ▸ Queue.mem_of_read found, gave⟩
  · cases worked

end Database
end Server

/-! The requests of a worker. -/

namespace Request

def OnlyFaults : (r : Request) → r.Reply → Prop
  | .acquire _, reply => Coalesce.OnlyFaults (reply : Except Error Bool)
  | .release _, reply => Coalesce.OnlyFaults (reply : Except Error Unit)
  | .raise _, reply => Coalesce.OnlyFaults (reply : Except Error Raise)
  | .isRaised _, reply => Coalesce.OnlyFaults (reply : Except Error Bool)
  | .lower _, reply => Coalesce.OnlyFaults (reply : Except Error Unit)
  | .raised, reply => Coalesce.OnlyFaults (reply : Except Error (List Flag))
  | .publish _, reply => Coalesce.OnlyFaults (reply : Except Error Unit)
  | .invoke _ _, _ => True

def failed (e : Error) : (r : Request) → r.Reply
  | .acquire _ | .release _ | .raise _ | .isRaised _ | .lower _ | .raised | .publish _
  | .invoke _ _ => .error e

theorem onlyFaults_failed (fault : DatabaseFault) (r : Request) :
    r.OnlyFaults (r.failed (.database fault)) := by
  cases r with
  | invoke task input => trivial
  | _ =>
    intro e same
    cases same
    exact ⟨fault, rfl⟩

end Request

namespace Worker

open Server (Database Tables)

namespace Request

def OnlyFaults : (r : Request) → r.Reply → Prop
  | .read .., reply => Coalesce.OnlyFaults (reply : Except Error (Option Server.Received))
  | .archive .., reply => Coalesce.OnlyFaults (reply : Except Error Unit)
  | .dispatch r, reply => r.OnlyFaults reply

def failed (e : Error) : (r : Request) → r.Reply
  | .read .. | .archive .. => .error e
  | .dispatch r => r.failed e

theorem onlyFaults_failed (fault : DatabaseFault) (r : Request) :
    r.OnlyFaults (r.failed (.database fault)) := by
  cases r with
  | dispatch r => exact r.onlyFaults_failed fault
  | _ =>
    intro e same
    cases same
    exact ⟨fault, rfl⟩

def Archives : Request → String → Nat → Prop
  | .archive queue id, queue', id' => queue' = queue ∧ id' = id
  | _, _, _ => False

end Request

theorem settled_answer (db : Database) (r : Request) :
    Tables.Archives r.Archives db.link.tables (answer Database.noTasks db r).2.link.tables ∧
      r.OnlyFaults (answer Database.noTasks db r).1 := by
  cases r with
  | read queue seconds => exact db.settled_perform (Server.Queues.settles_read queue seconds)
  | archive queue id => exact db.settled_perform (Server.Queues.settles_archive queue id)
  | dispatch r =>
    cases r with
    | acquire lock => exact db.settled_acquire lock
    | release lock => exact db.settled_release lock
    | raise flag => exact db.settled_perform (Server.Flags.settles_raise flag)
    | isRaised flag => exact db.settled_perform (Server.Flags.settles_isRaised flag)
    | lower flag => exact db.settled_perform (Server.Flags.settles_lower flag)
    | raised => exact db.settled_perform Server.Flags.settles_list
    | publish d => exact db.settled_perform (Server.Queues.settles_publish db.column d)
    | invoke task input => exact ⟨.refl _, trivial⟩

end Worker
end Coalesce
