import Coalesce.Server.Database

/-! What statements do to the tables and locks of a server, whichever of them are refused.
Publishing adds messages at the ends of queues, and a lock that is taken and given back leaves no
grant. -/
namespace Coalesce.Server

namespace Tables

def entries (t : Tables) (queue : String) : List Entry :=
  ((t.queues.get? queue).map Queue.entries).getD []

theorem entries_eq_getD (t : Tables) (queue : String) :
    t.entries queue = ((t.queues.get? queue).getD .empty).entries := by
  unfold entries
  cases t.queues.get? queue <;> rfl

theorem get?_ensureQueue_self (t : Tables) (queue : String) :
    (t.ensureQueue queue).queues.get? queue = some ((t.queues.get? queue).getD .empty) := by
  unfold ensureQueue Table.contains
  cases found : t.queues.get? queue with
  | some q => simpa using found
  | none => simp [Table.get?_insert_self]

theorem get?_ensureQueue_of_ne (t : Tables) {queue other : String} (apart : other ≠ queue) :
    (t.ensureQueue queue).queues.get? other = t.queues.get? other := by
  unfold ensureQueue
  split
  · rfl
  · exact Table.get?_insert_of_ne apart _ _

theorem kept_ensureQueue (t : Tables) (queue : String) :
    (t.ensureQueue queue).flags = t.flags ∧ (t.ensureQueue queue).notices = t.notices := by
  unfold ensureQueue
  split <;> exact ⟨rfl, rfl⟩

theorem getD_ensureQueue (t : Tables) (queue other : String) :
    ((t.ensureQueue queue).queues.get? other).getD .empty =
      (t.queues.get? other).getD .empty := by
  by_cases same : other = queue
  · subst same
    rw [get?_ensureQueue_self, Option.getD_some]
  · rw [get?_ensureQueue_of_ne t same]

/-- What comes to queues comes to their ends and is such as `P` says. -/
def Appends (P : String → Prop) (t t' : Tables) : Prop :=
  ∀ queue, ∃ new, t'.entries queue = t.entries queue ++ new ∧ ∀ e ∈ new, P e.text

variable {P : String → Prop}

theorem Appends.of_eq {t t' : Tables} (same : t'.queues = t.queues) : Appends P t t' := by
  refine fun queue => ⟨[], ?_, nofun⟩
  rw [entries, same, List.append_nil]
  rfl

theorem Appends.trans {t u v : Tables} (first : Appends P t u) (second : Appends P u v) :
    Appends P t v := by
  intro queue
  obtain ⟨new, added, all⟩ := first queue
  obtain ⟨more, appended, every⟩ := second queue
  refine ⟨new ++ more, by rw [appended, added, List.append_assoc], fun e mem => ?_⟩
  exact (List.mem_append.1 mem).elim (all e) (every e)

structure Grows (P : String → Prop) (t t' : Tables) : Prop where
  flags : t'.flags = t.flags
  appends : Appends P t t'

theorem Grows.refl (t : Tables) : Grows P t t := ⟨rfl, .of_eq rfl⟩

theorem Grows.trans {t u v : Tables} (first : Grows P t u) (second : Grows P u v) :
    Grows P t v :=
  ⟨second.flags.trans first.flags, first.appends.trans second.appends⟩

theorem grows_ensureQueue (t : Tables) (queue : String) : Grows P t (t.ensureQueue queue) where
  flags := (t.kept_ensureQueue queue).1
  appends other := by
    refine ⟨[], ?_, nofun⟩
    rw [List.append_nil, entries_eq_getD, getD_ensureQueue, ← entries_eq_getD]

theorem grows_notify (t : Tables) (queue : String) : Grows P t (t.notify queue) :=
  ⟨rfl, .of_eq rfl⟩

theorem grows_send {t t' : Tables} {queue : String} {now : Int} {text : String} {id : Nat}
    (allowed : P text)
    (sent : t.onQueue? queue (fun q => q.send now text) = some (id, t')) : Grows P t t' := by
  obtain ⟨q, there, same⟩ := Option.map_eq_some_iff.1 sent
  cases same
  refine ⟨rfl, fun other => ?_⟩
  by_cases same : other = queue
  · subst same
    refine ⟨[⟨q.sent + 1, 0, now, text⟩], ?_, ?_⟩
    · simp [entries, Table.get?_insert_self, there]
    · simpa using allowed
  · exact ⟨[], by simp [entries, Table.get?_insert_of_ne same]⟩

end Tables

namespace Query

variable {α β : Type}

section
variable {R : Tables → Tables → Prop}

/-- However a query goes, it leads from tables to such as `R` says. -/
def Within (R : Tables → Tables → Prop) (q : Query α) : Prop :=
  ∀ l, R l.tables (q.tablesAfter l)

theorem within_pure (refl : ∀ t, R t t) (a : α) : Within R (pure a : Query α) :=
  fun l => refl l.tables

theorem within_report (refl : ∀ t, R t t) (event : Event) : Within R (report event) :=
  fun l => refl l.tables

theorem bind_of_ok {q : Query α} {a : α} {l l' : Link} (answer : q l = .ok a l')
    (f : α → Query β) : (q >>= f) l = f a l' := by
  simp [bind, EStateM.bind, answer]

theorem bind_of_error {q : Query α} {e : Error} {l l' : Link} (answer : q l = .error e l')
    (f : α → Query β) : (q >>= f) l = .error e l' := by
  simp [bind, EStateM.bind, answer]

theorem within_bind (trans : ∀ {t u v}, R t u → R u v → R t v) {q : Query α} {f : α → Query β}
    (first : Within R q) (rest : ∀ a, Within R (f a)) : Within R (q >>= f) := by
  intro l
  have grown := first l
  unfold tablesAfter at grown ⊢
  cases answer : q l with
  | ok a l' =>
    rw [answer] at grown
    rw [bind_of_ok answer]
    exact trans grown (rest a l')
  | error e l' =>
    rw [answer] at grown
    rw [bind_of_error answer]
    exact grown

theorem within_statement? (refl : ∀ t, R t t)
    {work : Timestamp → Tables → Except String (α × Tables)}
    (works : ∀ now t a t', work now t = .ok (a, t') → R t t') : Within R (statement? work) := by
  intro l
  unfold tablesAfter statement?
  split
  · next reached =>
    split at reached
    · cases reached
    · dsimp only at reached
      split at reached
      · next worked =>
        cases reached
        exact works _ _ _ _ worked
      · cases reached
  · next reached =>
    split at reached
    · cases reached
      exact refl l.tables
    · dsimp only at reached
      split at reached
      · cases reached
      · cases reached
        exact refl l.tables

theorem within_statement (refl : ∀ t, R t t) {work : Timestamp → Tables → α × Tables}
    (works : ∀ now t, R t (work now t).2) : Within R (statement work) :=
  within_statement? refl fun now t a t' worked => by
    have same := Except.ok.inj worked
    rw [show t' = (work now t).2 by rw [same]]
    exact works now t

theorem within_transaction (refl : ∀ t, R t t) (trans : ∀ {t u v}, R t u → R u v → R t v)
    {body : Query α} (within : Within R body) : Within R (transaction body) := by
  intro l
  have control : Within R control := within_statement refl fun _ t => refl t
  have whole := within_bind (R := R) trans control (fun _ => within_bind (R := R) trans within
    (fun a => within_bind (R := R) trans control (fun _ => within_pure refl a))) l
  unfold tablesAfter transaction at *
  dsimp only
  split
  · next answer =>
    split at answer
    · next done =>
      cases answer
      rw [done] at whole
      exact whole
    · cases answer
  · next answer =>
    split at answer
    · cases answer
    · cases answer
      exact refl l.tables

end

variable {P : String → Prop}

def Grows (P : String → Prop) (q : Query α) : Prop :=
  ∀ l, Tables.Grows P l.tables (q.tablesAfter l)

theorem grows_pure (a : α) : Grows P (pure a : Query α) := within_pure .refl a

theorem grows_report (event : Event) : Grows P (report event) := within_report .refl event

theorem grows_bind {q : Query α} {f : α → Query β} (first : Grows P q)
    (rest : ∀ a, Grows P (f a)) : Grows P (q >>= f) :=
  within_bind .trans first rest

theorem grows_statement? {work : Timestamp → Tables → Except String (α × Tables)}
    (works : ∀ now t a t', work now t = .ok (a, t') → Tables.Grows P t t') :
    Grows P (statement? work) :=
  within_statement? .refl works

theorem grows_statement {work : Timestamp → Tables → α × Tables}
    (works : ∀ now t, Tables.Grows P t (work now t).2) : Grows P (statement work) :=
  within_statement .refl works

theorem statement_cases (work : Timestamp → Tables → α × Tables) (l : Link) :
    (∃ e l', statement work l = .error e l' ∧ l'.tables = l.tables) ∨
      ∃ l', statement work l = .ok (work l.clock l.tables).1 l' ∧
        l'.tables = (work l.clock l.tables).2 := by
  obtain ⟨tables, clock, verdicts, events⟩ := l
  match verdicts with
  | [] => exact .inr ⟨_, rfl, rfl⟩
  | none :: rest => exact .inr ⟨_, rfl, rfl⟩
  | some reason :: rest => exact .inl ⟨_, _, rfl, rfl⟩

theorem grows_control : Grows P control := grows_statement fun _ t => .refl t

theorem grows_transaction {body : Query α} (grows : Grows P body) : Grows P (transaction body) :=
  within_transaction .refl .trans grows

end Query

namespace Flags

variable {P : String → Prop}

theorem grows_list : Query.Grows P list := Query.grows_statement fun _ t => .refl t

theorem grows_isRaised (name : String) : Query.Grows P (isRaised name) :=
  Query.grows_statement fun _ t => .refl t

end Flags

namespace Queues

variable {P : String → Prop} {column : Column}

theorem grows_ensure (queue : String) : Query.Grows P (ensure queue) :=
  Query.grows_statement fun _ t => Tables.grows_ensureQueue t queue

theorem grows_sendOn {payload : Json} (allowed : P (column.giveBack payload.compact))
    (queue : String) : Query.Grows P (sendOn column queue payload) := by
  refine Query.grows_bind (grows_ensure queue) fun _ => Query.grows_bind ?_ fun id =>
    Query.grows_bind (Query.grows_statement fun _ t => Tables.grows_notify t queue) fun _ =>
      Query.grows_bind (Query.grows_report _) fun _ => Query.grows_pure id
  refine Query.grows_statement? fun now t id t' worked => ?_
  split at worked
  · next sent =>
    cases worked
    exact Tables.grows_send allowed sent
  · cases worked

theorem grows_sendToAll {payload : Json} (allowed : P (column.giveBack payload.compact))
    (queues : List String) : Query.Grows P (sendToAll column payload queues) := by
  induction queues with
  | nil => exact Query.grows_pure ()
  | cons queue rest ih => exact Query.grows_bind (grows_sendOn allowed queue) fun _ => ih

theorem grows_publish {d : Delivery} (allowed : P (column.giveBack d.message.toJson.compact)) :
    Query.Grows P (publish column d) := by
  unfold publish
  split
  · exact Query.grows_bind (Query.grows_transaction (grows_sendOn allowed d.queue)) fun _ =>
      Query.grows_pure ()
  · refine Query.grows_bind (Query.grows_statement fun _ t => .refl t) fun bound => ?_
    split
    · exact Query.grows_report _
    · exact Query.grows_transaction (grows_sendToAll allowed bound)

end Queues

namespace Sessions

variable {κ : Type} (s : Sessions κ)

theorem kept_checkOut : s.checkOut.2.grants = s.grants ∧ s.checkOut.2.leased = s.leased := by
  unfold checkOut
  split <;> exact ⟨rfl, rfl⟩

theorem grants_finishAll_subset : ∀ g ∈ s.finishAll.grants, g ∈ s.grants := by
  have go (ending : List Nat) (s : Sessions κ) :
      ∀ g ∈ (ending.foldl finish s).grants, g ∈ s.grants := by
    induction ending generalizing s with
    | nil => exact fun _ mem => mem
    | cons session ending ih => exact fun g mem => (List.mem_filter.1 (ih _ g mem)).1
  exact go s.closing s

variable [DecidableEq κ]

theorem acquire_cases (key : κ) :
    (∃ session, (s.acquire key .answered).1 = .taken session ∧
      (s.acquire key .answered).2.grants = (session, key) :: s.grants ∧
      (s.acquire key .answered).2.leased = (session, key) :: s.leased) ∨
    (s.acquire key .answered).1 = .busy ∧ (∃ g ∈ s.grants, g.2 = key) ∧
      (s.acquire key .answered).2.grants = s.grants := by
  obtain ⟨grants, leased⟩ := s.kept_checkOut
  obtain ⟨session, s', out⟩ : ∃ session s', s.checkOut = (session, s') := ⟨_, _, rfl⟩
  rw [out] at grants leased
  by_cases may : s'.mayLock session key = true
  · have taken : s.acquire key .answered =
        (.taken session, { s' with grants := (session, key) :: s'.grants }.lease session key) := by
      rw [acquire, out]
      simp [lock, may]
    rw [taken]
    exact .inl ⟨session, rfl, by rw [← grants]; rfl, by rw [← leased]; rfl⟩
  · have busy : s.acquire key .answered = (.busy, s'.putBack session) := by
      rw [acquire, out]
      simp [lock, may]
    obtain ⟨g, mem, other⟩ := List.all_eq_false.1 (eq_false_of_ne_true may)
    have same : g.2 = key ∧ g.1 ≠ session := by simpa using other
    rw [busy]
    exact .inr ⟨rfl, ⟨g, grants ▸ mem, same.1⟩, grants⟩

theorem grants_acquire_failed (key : κ) : (s.acquire key (.failed false)).2.grants = s.grants :=
  s.kept_checkOut.1

theorem grants_release_subset (session : Nat) (key : κ) (v : Verdict) :
    ∀ g ∈ (s.release session key v).2.grants, g ∈ s.grants := by
  intro g mem
  cases v with
  | answered =>
    unfold release unlock at mem
    dsimp only at mem
    split at mem <;> exact List.mem_of_mem_erase mem
  | failed effective =>
    cases effective with
    | true => exact List.mem_of_mem_erase mem
    | false => exact mem

theorem grants_release_newest {session : Nat} {key : κ} {grants : List (Nat × κ)}
    (newest : s.grants = (session, key) :: grants) :
    (s.release session key .answered).2.grants = grants := by
  have given : s.release session key .answered = (.released,
      { s.endLease session with grants := s.grants.erase (session, key) }.putBack session) := by
    simp [release, unlock, endLease, holds, newest]
  rw [given]
  simp [putBack, newest]

end Sessions

namespace Database

variable {α : Type} {P : String → Prop} (db : Database)

structure Grows (P : String → Prop) (db db' : Database) : Prop where
  key : db'.key = db.key
  column : db'.column = db.column
  tables : Tables.Grows P db.link.tables db'.link.tables

theorem Grows.refl : Grows P db db := ⟨rfl, rfl, .refl _⟩

theorem Grows.trans {db db' db'' : Database} (first : Grows P db db') (second : Grows P db' db'') :
    Grows P db db'' :=
  ⟨second.key.trans first.key, second.column.trans first.column, first.tables.trans second.tables⟩

theorem grows_perform {q : Query α} (grows : Query.Grows P q) : Grows P db (db.perform q).2 := by
  have grown := grows db.link
  unfold Query.tablesAfter at grown
  unfold perform
  split <;> next answer => rw [answer] at grown; exact ⟨rfl, rfl, grown⟩

theorem sessions_perform (q : Query α) : (db.perform q).2.sessions = db.sessions := by
  unfold perform
  split <;> rfl

theorem list_of_answered {flags : List Flag} (answered : (db.perform Flags.list).1 = .ok flags) :
    flags.Perm db.link.tables.flags := by
  unfold perform Flags.list at answered
  obtain ⟨e, l, refused, -⟩ | ⟨l, listed, -⟩ :=
    Query.statement_cases (fun _ tables => (tables.sortedFlags, tables)) db.link
  · rw [refused] at answered
    cases answered
  · rw [listed] at answered
    cases answered
    exact List.mergeSort_perm _ _

theorem tables_lower (name : String) :
    (db.perform (Flags.lower name)).2.link.tables = db.link.tables ∨
      (db.perform (Flags.lower name)).2.link.tables = db.link.tables.lower name := by
  unfold perform Flags.lower
  obtain ⟨e, l, refused, same⟩ | ⟨l, lowered, after⟩ :=
    Query.statement_cases (fun _ tables => ((), tables.lower name)) db.link
  · rw [refused]
    exact .inl same
  · rw [lowered]
    exact .inr after

theorem key_perform (q : Query α) : (db.perform q).2.key = db.key := by
  unfold perform
  split <;> rfl

theorem column_perform (q : Query α) : (db.perform q).2.column = db.column := by
  unfold perform
  split <;> rfl

theorem withVerdict_cases (act : Verdict → α × Sessions UInt64) :
    Grows P db (db.withVerdict act).2 ∧
      ((db.withVerdict act).1 = .ok (act .answered).1 ∧
        (db.withVerdict act).2.sessions = (act .answered).2 ∨
      (∃ e, (db.withVerdict act).1 = .error e) ∧
        (db.withVerdict act).2.sessions = (act (.failed false)).2) := by
  have grown := db.grows_perform (P := P) Query.grows_control
  obtain ⟨result, db', out⟩ : ∃ result db', db.perform .control = (result, db') := ⟨_, _, rfl⟩
  unfold withVerdict
  rw [out] at grown ⊢
  cases result with
  | ok u => exact ⟨⟨grown.key, grown.column, grown.tables⟩, .inl ⟨rfl, rfl⟩⟩
  | error e => exact ⟨⟨grown.key, grown.column, grown.tables⟩, .inr ⟨⟨e, rfl⟩, rfl⟩⟩

variable (lock : String)

theorem grows_acquire : Grows P db (db.acquire lock).2 :=
  (db.withVerdict_cases (db.sessions.acquire (db.key lock))).1

/-- A lock that is taken is granted; otherwise no grant changes. A lock without any grant is not
busy. -/
theorem acquire_cases :
    ((db.acquire lock).1 = .ok true ∧ ∃ session,
      (db.acquire lock).2.sessions.grants = (session, db.key lock) :: db.sessions.grants ∧
      (db.acquire lock).2.sessions.leased = (session, db.key lock) :: db.sessions.leased) ∨
    (db.acquire lock).1 ≠ .ok true ∧
      ((db.acquire lock).1 = .ok false → ∃ g ∈ db.sessions.grants, g.2 = db.key lock) ∧
      (db.acquire lock).2.sessions.grants = db.sessions.grants := by
  let act := db.sessions.acquire (db.key lock)
  have result : (db.acquire lock).1 = (db.withVerdict act).1.map _ := rfl
  have after : (db.acquire lock).2 = (db.withVerdict act).2 := rfl
  rw [result, after]
  obtain ⟨-, ⟨answered, sessions⟩ | ⟨⟨e, refused⟩, sessions⟩⟩ :=
    db.withVerdict_cases (P := fun _ => True) act
  · rw [answered, sessions]
    obtain ⟨session, taken, granted⟩ | ⟨busy, other, same⟩ :=
      db.sessions.acquire_cases (db.key lock)
    · refine .inl ⟨?_, session, granted⟩
      rw [taken]
      rfl
    · refine .inr ⟨?_, fun _ => other, same⟩
      rw [busy]
      simp [Except.map]
  · rw [refused, sessions]
    exact .inr ⟨by simp [Except.map], by simp [Except.map], db.sessions.grants_acquire_failed _⟩

theorem release_cases {session : Nat} (handle : db.sessions.handle? (db.key lock) = some session) :
    Grows P db (db.release lock).2 ∧ ∃ v,
      (db.release lock).2.sessions = (db.sessions.release session (db.key lock) v).2.finishAll ∧
      ((db.release lock).1 = .ok () → v = .answered) := by
  let act := db.sessions.release session (db.key lock)
  obtain ⟨grown, cases⟩ := db.withVerdict_cases (P := P) act
  obtain ⟨result, db', out⟩ : ∃ result db', db.withVerdict act = (result, db') := ⟨_, _, rfl⟩
  unfold release
  rw [handle]
  dsimp only
  rw [out] at grown cases ⊢
  obtain ⟨answered, sessions⟩ | ⟨⟨e, refused⟩, sessions⟩ := cases
  · cases answered
    cases (act .answered).1 <;>
      exact ⟨⟨grown.key, grown.column, grown.tables⟩, .answered,
        congrArg Sessions.finishAll sessions, fun _ => rfl⟩
  · cases refused
    exact ⟨⟨grown.key, grown.column, grown.tables⟩, .failed false,
      congrArg Sessions.finishAll sessions, fun given => by cases given⟩

theorem release_of_no_handle (handle : db.sessions.handle? (db.key lock) = none) :
    db.release lock = (.ok (), db) := by
  rw [release, handle]

theorem grows_release : Grows P db (db.release lock).2 := by
  cases handle : db.sessions.handle? (db.key lock) with
  | none =>
    rw [db.release_of_no_handle lock handle]
    exact .refl db
  | some session => exact (db.release_cases lock handle).1

theorem grants_release_subset :
    ∀ g ∈ (db.release lock).2.sessions.grants, g ∈ db.sessions.grants := by
  intro g mem
  cases handle : db.sessions.handle? (db.key lock) with
  | none =>
    rw [db.release_of_no_handle lock handle] at mem
    exact mem
  | some session =>
    obtain ⟨-, v, sessions, -⟩ := db.release_cases (P := fun _ => True) lock handle
    rw [sessions] at mem
    exact db.sessions.grants_release_subset _ _ _ g (Sessions.grants_finishAll_subset _ g mem)

theorem grants_release_newest {session : Nat} {grants leased : List (Nat × UInt64)}
    (newest : db.sessions.grants = (session, db.key lock) :: grants)
    (handle : db.sessions.leased = (session, db.key lock) :: leased)
    (given : (db.release lock).1 = .ok ()) :
    ∀ g ∈ (db.release lock).2.sessions.grants, g ∈ grants := by
  intro g mem
  have found : db.sessions.handle? (db.key lock) = some session := by
    simp [Sessions.handle?, handle]
  obtain ⟨-, v, sessions, answered⟩ := db.release_cases (P := fun _ => True) lock found
  rw [sessions, answered given] at mem
  have left := Sessions.grants_finishAll_subset _ g mem
  rwa [db.sessions.grants_release_newest newest] at left

end Database
end Coalesce.Server
