import Coalesce.Proofs.Archives
import Coalesce.Proofs.Columns

/-! Publishing on the server. A publication that is answered puts one copy of its message at the end
of every queue it reaches and leaves the other queues as they are; one that fails leaves all tables
as they were. -/
namespace Coalesce

namespace Server

namespace Tables

variable {copy : Entry → Prop} {queue : String} {receivers : List String} {t u v : Tables}

theorem entries_congr (same : u.queues.get? queue = t.queues.get? queue) :
    u.entries queue = t.entries queue := by
  rw [entries, same, entries]

theorem archived_congr (same : u.queues.get? queue = t.queues.get? queue) :
    u.archived queue = t.archived queue := by
  rw [archived, same, archived]

/-- Each receiver has one entry more, at its end, and is told of once; the other queues are as they
were. -/
structure Delivered (copy : Entry → Prop) (receivers : List String) (t t' : Tables) : Prop where
  flags : t'.flags = t.flags
  there : ∀ queue ∈ receivers, t'.queues.contains queue = true
  received : ∀ queue ∈ receivers, ∃ e, copy e ∧ t'.entries queue = t.entries queue ++ [e]
  archived : ∀ queue, t'.archived queue = t.archived queue
  others : ∀ queue, queue ∉ receivers → t'.queues.get? queue = t.queues.get? queue
  notices : t'.notices = t.notices ++ receivers
  sorted : t.queues.Sorted → t'.queues.Sorted

namespace Delivered

theorem nil (t : Tables) : Delivered copy [] t t where
  flags := rfl
  there := nofun
  received := nofun
  archived _ := rfl
  others _ _ := rfl
  notices := (List.append_nil _).symm
  sorted := id

theorem cons (first : Delivered copy [queue] t u) (rest : Delivered copy receivers u v)
    (fresh : queue ∉ receivers) : Delivered copy (queue :: receivers) t v where
  flags := rest.flags.trans first.flags
  there := by
    refine List.forall_mem_cons.2 ⟨?_, rest.there⟩
    rw [Table.contains, rest.others queue fresh]
    exact first.there queue List.mem_cons_self
  received := by
    refine List.forall_mem_cons.2 ⟨?_, fun other mem => ?_⟩
    · rw [entries_congr (rest.others queue fresh)]
      exact first.received queue List.mem_cons_self
    · have apart : other ∉ [queue] := by
        rw [List.mem_singleton]
        rintro rfl
        exact fresh mem
      rw [← entries_congr (first.others other apart)]
      exact rest.received other mem
  archived other := (rest.archived other).trans (first.archived other)
  others other apart := by
    obtain ⟨distinct, later⟩ := List.ne_and_not_mem_of_not_mem_cons apart
    rw [rest.others other later, first.others other (by simpa using distinct)]
  notices := by rw [rest.notices, first.notices, List.append_assoc, List.singleton_append]
  sorted unique := rest.sorted (first.sorted unique)

theorem mono {copy' : Entry → Prop} (delivered : Delivered copy receivers t u)
    (weaker : ∀ e, copy e → copy' e) : Delivered copy' receivers t u where
  __ := delivered
  received queue mem :=
    let ⟨e, carried, appended⟩ := delivered.received queue mem
    ⟨e, weaker e carried, appended⟩

theorem contains_eq (delivered : Delivered copy receivers t u) (queue : String) :
    u.queues.contains queue = (t.queues.contains queue || decide (queue ∈ receivers)) := by
  by_cases mem : queue ∈ receivers
  · simp [mem, delivered.there queue mem]
  · simp [mem, Table.contains, delivered.others queue mem]

end Delivered

theorem sorted_ensureQueue (unique : t.queues.Sorted) (queue : String) :
    (t.ensureQueue queue).queues.Sorted := by
  unfold ensureQueue
  split
  · exact unique
  · exact unique.insert queue .empty

theorem onQueue?_of_found {α : Type} {change : Queue → α × Queue} {q : Queue}
    (found : t.queues.get? queue = some q) :
    t.onQueue? queue change =
      some ((change q).1, { t with queues := t.queues.insert queue (change q).2 }) := by
  rw [onQueue?, found]
  rfl

theorem delivered_send (t : Tables) (queue : String) (now : Int) (text : String) :
    ∃ id t', (t.ensureQueue queue).onQueue? queue (·.send now text) = some (id, t') ∧
      Delivered (·.text = text) [queue] t (t'.notify queue) := by
  obtain ⟨flags, notices⟩ := t.kept_ensureQueue queue
  obtain ⟨q, before⟩ : ∃ q, (t.queues.get? queue).getD .empty = q := ⟨_, rfl⟩
  have found : (t.ensureQueue queue).queues.get? queue = some q :=
    before ▸ t.get?_ensureQueue_self queue
  have others {other : String} (apart : other ≠ queue) :=
    (Table.get?_insert_of_ne apart (q.send now text).2 _).trans
      (t.get?_ensureQueue_of_ne apart)
  refine ⟨_, _, onQueue?_of_found found, ?_⟩
  refine ⟨flags, ?there, ?received, fun other => ?archived,
    fun other apart => others (by simpa using apart), ?notices,
    fun unique => (sorted_ensureQueue unique queue).insert queue _⟩
  case there => simp [notify, Table.contains, Table.get?_insert_self]
  case received =>
    refine List.forall_mem_singleton.2 ⟨⟨q.sent + 1, 0, now, text⟩, rfl, ?_⟩
    rw [entries_eq_getD, entries_eq_getD t, before]
    simp [notify, Table.get?_insert_self, Queue.send]
  case archived =>
    by_cases same : other = queue
    · subst same
      rw [archived_eq_getD, archived_eq_getD t, before]
      simp [notify, Table.get?_insert_self, Queue.send]
    · exact archived_congr (others same)
  case notices =>
    rw [← notices]
    rfl

end Tables

namespace Query

variable {α β : Type} {Q : α → Tables → Prop} {R : β → Tables → Prop} {l : Link}

/-- A query answers with what `Q` says, unless one of its statements is refused. -/
def Leads (q : Query α) (l : Link) (Q : α → Tables → Prop) : Prop :=
  match q l with
  | .ok a l' => Q a l'.tables ∧ l'.verdicts ⊆ l.verdicts
  | .error e _ => ∃ reason, some reason ∈ l.verdicts ∧ e = .database (.returned reason)

theorem leads_pure {a : α} (holds : Q a l.tables) : Leads (pure a) l Q :=
  ⟨holds, List.Subset.refl _⟩

theorem leads_report {event : Event} {Q : Unit → Tables → Prop} (holds : Q () l.tables) :
    Leads (report event) l Q :=
  ⟨holds, List.Subset.refl _⟩

theorem leads_statement? {work : Timestamp → Tables → Except String (α × Tables)} {a : α}
    {t : Tables} (worked : work l.clock l.tables = .ok (a, t)) (holds : Q a t) :
    Leads (statement? work) l Q := by
  obtain ⟨tables, clock, verdicts, events⟩ := l
  dsimp only at worked
  unfold Leads statement?
  match verdicts with
  | [] =>
    dsimp only
    rw [worked]
    exact ⟨holds, nofun⟩
  | none :: rest =>
    dsimp only
    rw [worked]
    exact ⟨holds, List.subset_cons_self _ _⟩
  | some reason :: rest => exact ⟨reason, List.mem_cons_self, rfl⟩

theorem leads_statement {work : Timestamp → Tables → α × Tables}
    (holds : Q (work l.clock l.tables).1 (work l.clock l.tables).2) :
    Leads (statement work) l Q :=
  leads_statement? rfl holds

theorem leads_control {Q : Unit → Tables → Prop} (holds : Q () l.tables) : Leads control l Q :=
  leads_statement holds

theorem Leads.bind {q : Query α} {f : α → Query β} (first : Leads q l Q)
    (rest : ∀ a l', Q a l'.tables → Leads (f a) l' R) : Leads (q >>= f) l R := by
  unfold Leads at first
  cases answer : q l with
  | error e l' =>
    rw [answer] at first
    unfold Leads
    rw [bind_of_error answer]
    exact first
  | ok a l' =>
    rw [answer] at first
    obtain ⟨holds, fewer⟩ := first
    have later := rest a l' holds
    unfold Leads at later ⊢
    rw [bind_of_ok answer]
    split at later
    · exact ⟨later.1, List.Subset.trans later.2 fewer⟩
    · obtain ⟨reason, refused, same⟩ := later
      exact ⟨reason, fewer refused, same⟩

theorem Leads.mono {q : Query α} {Q' : α → Tables → Prop} (leads : Leads q l Q)
    (weaker : ∀ a t, Q a t → Q' a t) : Leads q l Q' := by
  unfold Leads at leads ⊢
  split at leads
  · exact ⟨weaker _ _ leads.1, leads.2⟩
  · exact leads

def framed (body : Query α) : Query α :=
  control >>= fun _ => body >>= fun a => control >>= fun _ => pure a

theorem transaction_eq (body : Query α) (l : Link) :
    transaction body l = match framed body l with
      | .ok a l' => .ok a l'
      | .error e failed => .error e { failed with tables := l.tables } :=
  rfl

theorem leads_transaction {body : Query α}
    (leads : ∀ l', l'.tables = l.tables → Leads body l' Q) : Leads (transaction body) l Q := by
  have goes : Leads (framed body) l Q :=
    (leads_control (Q := fun _ t => t = l.tables) rfl).bind fun _ l₁ begun =>
      (leads l₁ begun).bind fun _ _ worked =>
        (leads_control worked).bind fun _ _ committed => leads_pure committed
  unfold Leads at goes ⊢
  rw [transaction_eq]
  cases answer : framed body l with
  | ok a l' =>
    rw [answer] at goes
    exact goes
  | error e failed =>
    rw [answer] at goes
    exact goes

/-! What fails leaves the tables as they were. -/

theorem tables_of_refused {work : Timestamp → Tables → α × Tables} {e : Error} {l l' : Link}
    (failed : statement work l = .error e l') : l'.tables = l.tables := by
  obtain ⟨e', l₁, refused, same⟩ | ⟨l₁, worked, -⟩ := statement_cases work l
  · rw [refused] at failed
    cases failed
    exact same
  · rw [worked] at failed
    cases failed

theorem tables_of_rolledBack {body : Query α} {e : Error} {l l' : Link}
    (failed : transaction body l = .error e l') : l'.tables = l.tables := by
  unfold transaction at failed
  dsimp only at failed
  split at failed
  · cases failed
  · cases failed
    rfl

theorem bind_eq_error {q : Query α} {f : α → Query β} {e : Error} {l l' : Link} :
    (q >>= f) l = .error e l' ↔
      q l = .error e l' ∨ ∃ a l₁, q l = .ok a l₁ ∧ f a l₁ = .error e l' := by
  cases answer : q l with
  | ok a l₁ =>
    rw [bind_of_ok answer]
    constructor
    · exact fun failed => .inr ⟨a, l₁, rfl, failed⟩
    · rintro (failed | ⟨_, _, same, failed⟩)
      · cases failed
      · cases same
        exact failed
  | error e' l₁ => simp [bind_of_error answer]

end Query

namespace Queues

open Tables (Delivered)

theorem isPrefixOf_iff_broadcastQueue (exchange name : String) :
    (exchange ++ broadcastSeparator).toList.isPrefixOf name.toList = true ↔
      ∃ suffix, name = broadcastQueue exchange suffix := by
  rw [List.isPrefixOf_iff_prefix]
  constructor
  · rintro ⟨rest, same⟩
    refine ⟨String.ofList rest, String.toList_inj.1 ?_⟩
    rw [broadcastQueue, String.toList_append, String.toList_ofList, same]
  · rintro ⟨suffix, rfl⟩
    exact ⟨suffix.toList, String.toList_append.symm⟩

/-- The queues that a delivery is for: one by its name, or all that are there and bound. -/
def Reaches (d : Delivery) (t : Tables) (name : String) : Prop :=
  match d.exchange with
  | .direct => name = d.queue
  | .broadcast => t.queues.contains name = true ∧ ∃ suffix, name = broadcastQueue d.queue suffix

section
variable (column : Column)

theorem leads_sendOn (queue : String) (payload : Json) (l : Link) :
    (sendOn column queue payload).Leads l fun _ t =>
      Delivered (·.text = column.giveBack payload.compact) [queue] l.tables t := by
  refine Query.Leads.bind (Q := fun _ t => t = l.tables.ensureQueue queue)
    (Query.leads_statement rfl) fun _ l₁ ensured => ?_
  obtain ⟨id, t, sent, delivered⟩ :=
    l.tables.delivered_send queue l₁.clock.seconds (column.giveBack payload.compact)
  refine Query.Leads.bind (Q := fun _ t' => t' = t)
    (Query.leads_statement? (a := id) (by rw [ensured, sent]) rfl) fun id l₂ there => ?_
  refine Query.Leads.bind (Q := fun _ t' => t' = t.notify queue)
    (Query.leads_statement (by rw [there])) fun _ l₃ told => ?_
  refine Query.Leads.bind (Q := fun _ t' => t' = t.notify queue) (Query.leads_report told)
    fun _ l₄ same => Query.leads_pure ?_
  rw [same]
  exact delivered

theorem leads_sendToAll (payload : Json) {queues : List String} (distinct : queues.Nodup)
    (l : Link) : (sendToAll column payload queues).Leads l fun _ t =>
      Delivered (·.text = column.giveBack payload.compact) queues l.tables t := by
  induction queues generalizing l with
  | nil => exact Query.leads_pure (.nil l.tables)
  | cons queue rest ih =>
    obtain ⟨fresh, distinct⟩ := List.nodup_cons.1 distinct
    refine (leads_sendOn column queue payload l).bind fun _ l' first => ?_
    exact (ih distinct l').mono fun _ t later => first.cons later fresh

theorem leads_names (start : String) (l : Link) : (names start).Leads l fun bound t =>
    t = l.tables ∧
      bound = l.tables.queues.keys.filter fun name => start.toList.isPrefixOf name.toList :=
  Query.leads_statement ⟨rfl, rfl⟩

theorem leads_publish (d : Delivery) (l : Link) (unique : l.tables.queues.Sorted) :
    (publish column d).Leads l fun _ t => ∃ receivers : List String, receivers.Nodup ∧
      (∀ name, name ∈ receivers ↔ Reaches d l.tables name) ∧
      Delivered (·.text = column.giveBack d.message.toJson.compact) receivers l.tables t := by
  unfold publish Reaches
  cases d.exchange with
  | direct =>
    have sent : (send column d.queue d.message.toJson).Leads l fun _ t =>
        Delivered (·.text = column.giveBack d.message.toJson.compact) [d.queue] l.tables t := by
      refine Query.leads_transaction fun l' begun => ?_
      rw [← begun]
      exact leads_sendOn column d.queue _ l'
    refine sent.bind fun _ l' delivered => Query.leads_pure ?_
    exact ⟨[d.queue], List.nodup_singleton _, fun name => List.mem_singleton, delivered⟩
  | broadcast =>
    refine (leads_names _ l).bind fun bound l' listed => ?_
    obtain ⟨same, listed⟩ := listed
    have distinct : bound.Nodup := listed ▸ (Table.nodup_of_sorted unique).filter _
    have reached (name : String) : name ∈ bound ↔ l.tables.queues.contains name = true ∧
        ∃ suffix, name = broadcastQueue d.queue suffix := by
      rw [listed, List.mem_filter, Table.contains_iff_mem_keys, isPrefixOf_iff_broadcastQueue]
    refine Query.Leads.mono
      (Q := fun _ t =>
        Delivered (·.text = column.giveBack d.message.toJson.compact) bound l.tables t) ?_
      fun _ t delivered => ⟨bound, distinct, reached, delivered⟩
    split
    · next none =>
      refine Query.leads_report ?_
      rw [none, same]
      exact .nil _
    · refine Query.leads_transaction fun l'' begun => ?_
      rw [← same, ← begun]
      exact leads_sendToAll column _ distinct l''

end

theorem tables_of_failed {column : Column} {d : Delivery} {e : Error} {l l' : Link}
    (failed : publish column d l = .error e l') : l'.tables = l.tables := by
  unfold publish at failed
  cases exchange : d.exchange with
  | direct =>
    rw [exchange] at failed
    obtain failed | ⟨_, _, -, failed⟩ := Query.bind_eq_error.1 failed
    · exact Query.tables_of_rolledBack failed
    · cases failed
  | broadcast =>
    rw [exchange] at failed
    obtain failed | ⟨bound, l₁, listed, failed⟩ := Query.bind_eq_error.1 failed
    · exact Query.tables_of_refused failed
    · have same : l₁.tables = l.tables := (congrArg Prod.snd (Query.of_statement listed)).symm
      split at failed
      · cases failed
      · exact (Query.tables_of_rolledBack failed).trans same

/-- A publication that is answered has put one copy of its message into each queue that it reaches
and told of each once, and a broadcast has made no queue. One that fails has changed no table, and
fails only where a statement is refused. -/
theorem delivered_or_failed (column : Column) (d : Delivery) (l : Link)
    (unique : l.tables.queues.Sorted) (sorted : d.message.extra.Sorted) :
    match publish column d l with
    | .ok () l' => ∃ receivers : List String, receivers.Nodup ∧
        (∀ name, name ∈ receivers ↔ Reaches d l.tables name) ∧
        Delivered (d.message.Copy column) receivers l.tables l'.tables ∧
        (d.exchange = .broadcast → ∀ name,
          l'.tables.queues.contains name = l.tables.queues.contains name)
    | .error e l' => l'.tables = l.tables ∧
        ∃ reason, some reason ∈ l.verdicts ∧ e = .database (.returned reason) := by
  have leads := leads_publish column d l unique
  unfold Query.Leads at leads
  split
  · next l' answer =>
    rw [answer] at leads
    obtain ⟨⟨receivers, distinct, reached, delivered⟩, -⟩ := leads
    refine ⟨receivers, distinct, reached,
      delivered.mono fun _ => Message.copy_of_text sorted, fun broadcast name => ?_⟩
    have known : name ∈ receivers → l.tables.queues.contains name = true := by
      rw [reached, Reaches, broadcast]
      exact And.left
    rw [delivered.contains_eq]
    by_cases mem : name ∈ receivers
    · simp [mem, known mem]
    · simp [mem]
  · next e l' answer =>
    rw [answer] at leads
    exact ⟨tables_of_failed answer, leads⟩

def deadline : Message := ⟨"1", "f", [], [], [("time_limit", .ofNat 30)]⟩

def deadlineText : String :=
  "\x7b\"id\": \"1\", \"args\": [], \"task\": \"f\", \"kwargs\": \x7b\x7d, " ++
    "\"time_limit\": 30\x7d"

theorem gives_deadline : Column.Gives ⟨fun _ => deadlineText⟩ .float deadline.toJson := by
  have read : Json.readAll deadlineText.toList = .ok (deadline.toJson.mapFloats .float) := by
    decide +kernel
  exact Json.readAll_eq_ok.1 read

/-- Of three queues two are bound to the exchange. Both get the message if no statement is refused,
and none does if the commit is. -/
theorem delivered_or_failed_broadcast :
    let waiting : Queue := ⟨[⟨1, 0, 0, "null"⟩], [], 1⟩
    let tables : Tables := ⟨[], [("a", waiting), ("x__b", waiting), ("x__c", .empty)], []⟩
    let d : Delivery := ⟨"x", .broadcast, deadline⟩
    let refused : List (Option String) := List.replicate 8 none ++ [some "disk full"]
    let column : Column := ⟨fun _ => deadlineText⟩
    tables.queues.Sorted ∧ deadline.extra.Sorted ∧
      (∃ l, publish column d ⟨tables, ⟨0, 0⟩, [], []⟩ = .ok () l ∧
        (∃ e r, e.received = .ok r ∧ Message.decode r.payload = .ok deadline ∧
          l.tables.entries "x__b" = waiting.entries ++ [e]) ∧
        (∃ e r, e.received = .ok r ∧ Message.decode r.payload = .ok deadline ∧
          l.tables.entries "x__c" = [e]) ∧
        l.tables.queues.get? "a" = some waiting) ∧
      ∃ e l, publish column d ⟨tables, ⟨0, 0⟩, refused, []⟩ = .error e l ∧ l.tables = tables := by
  intro waiting tables d refused column
  have unique : tables.queues.Sorted := by decide
  have sorted : deadline.extra.Sorted := by decide
  have apart : Message.Unreserved deadline.extra := by unfold Message.Unreserved; decide
  have served := delivered_or_failed column d ⟨tables, ⟨0, 0⟩, [], []⟩ unique sorted
  have kept := delivered_or_failed column d ⟨tables, ⟨0, 0⟩, refused, []⟩ unique sorted
  refine ⟨unique, sorted, ?served, ?kept⟩
  case served =>
    split at served
    · next l answered =>
      obtain ⟨receivers, -, reached, delivered, -⟩ := served
      have unbound : "a" ∉ receivers := by
        rw [reached]
        rintro ⟨-, bound⟩
        exact absurd ((isPrefixOf_iff_broadcastQueue "x" "a").2 bound) (by decide)
      obtain ⟨e, copy, appended⟩ := delivered.received "x__b" ((reached _).2 ⟨rfl, "b", rfl⟩)
      obtain ⟨e', copy', appended'⟩ := delivered.received "x__c" ((reached _).2 ⟨rfl, "c", rfl⟩)
      obtain ⟨r, received, decoded, -⟩ := copy.back .float gives_deadline apart
      obtain ⟨r', received', decoded', -⟩ := copy'.back .float gives_deadline apart
      exact ⟨l, answered, ⟨e, r, received, decoded, appended⟩,
        ⟨e', r', received', decoded', appended'⟩, delivered.others "a" unbound⟩
    · obtain ⟨-, reason, mem, -⟩ := served
      cases mem
  case kept =>
    have failure : (publish column d ⟨tables, ⟨0, 0⟩, refused, []⟩ matches .error ..) = true := by
      decide +kernel
    split at kept
    · next answered =>
      rw [answered] at failure
      cases failure
    · next e l failed => exact ⟨e, l, failed, kept.1⟩

def bare : Link := ⟨.empty, ⟨0, 0⟩, [], []⟩

theorem published_bare (column : Column) (m : Message) :
    ∃ l e, publish column ⟨"q", .direct, m⟩ bare = .ok () l ∧
      l.tables.entries "q" = [e] ∧ e.text = column.giveBack m.toJson.compact := by
  have leads := leads_publish column ⟨"q", .direct, m⟩ bare .nil
  unfold Query.Leads at leads
  split at leads
  · next l answered =>
    obtain ⟨⟨receivers, -, reached, delivered⟩, -⟩ := leads
    obtain ⟨e, text, alone⟩ := delivered.received "q" ((reached "q").2 rfl)
    exact ⟨l, e, answered, alone, text⟩
  · obtain ⟨reason, refused, -⟩ := leads
    cases refused

/-- The argument is 10¹⁶, which is written with an exponent. -/
def large : Message := ⟨"1", "f", [.float ⟨false, 0x4341c37937e08000, by decide⟩], [], []⟩

def largeText : String :=
  "\x7b\"id\": \"1\", \"args\": [10000000000000000], \"task\": \"f\", " ++
    "\"kwargs\": \x7b\x7d\x7d"

theorem gives_large :
    Column.Gives ⟨fun _ => largeText⟩ (fun _ => .ofNat 10000000000000000) large.toJson := by
  have read : Json.readAll largeText.toList =
      .ok (large.toJson.mapFloats fun _ => .ofNat 10000000000000000) := by
    decide +kernel
  exact Json.readAll_eq_ok.1 read

/-- An empty array in so many others that 128 containers of the payload are open at once. -/
def deep : Message := ⟨"1", "f", [Nat.repeat (fun v => .arr [v]) 125 (.arr [])], [], []⟩

def deepChars : List Char :=
  "\x7b\"id\": \"1\", \"args\": [".toList ++ List.replicate 126 '[' ++ List.replicate 126 ']' ++
    "], \"task\": \"f\", \"kwargs\": \x7b\x7d\x7d".toList

theorem unreadable_deep : ∃ reason, Json.parse (String.ofList deepChars) = .error reason := by
  have failure : (Json.readAll deepChars).isOk = false := by decide +kernel
  rw [Json.parse, String.toList_ofList]
  cases read : Json.readAll deepChars with
  | error fault => exact ⟨_, rfl⟩
  | ok payload =>
    rw [read] at failure
    cases failure

/-- A copy is read as another message, with another lock name, where a number comes back as an
integer, and it cannot be read at all where it is nested too deep. -/
theorem not_same_of_received :
    (Message.Unreserved large.extra ∧
      ∃ l e r m, publish ⟨fun _ => largeText⟩ ⟨"q", .direct, large⟩ bare = .ok () l ∧
        l.tables.entries "q" = [e] ∧ e.received = .ok r ∧ Message.decode r.payload = .ok m ∧
        m.same large = false ∧ m.identity.lockName ≠ large.identity.lockName) ∧
      Message.Unreserved deep.extra ∧
        ∃ l e fault, publish ⟨fun _ => .ofList deepChars⟩ ⟨"q", .direct, deep⟩ bare = .ok () l ∧
          l.tables.entries "q" = [e] ∧ e.received = .error (.database fault) := by
  refine ⟨⟨fun _ _ => rfl, ?large⟩, fun _ _ => rfl, ?deep⟩
  case large =>
    obtain ⟨l, e, answered, alone, text⟩ := published_bare ⟨fun _ => largeText⟩ large
    exact ⟨l, e, _, _, answered, alone, gives_large.received text,
      Message.decode_mapFloats _ .nil fun _ _ => rfl, rfl, by decide +kernel⟩
  case deep =>
    obtain ⟨l, e, answered, alone, text⟩ := published_bare ⟨fun _ => .ofList deepChars⟩ deep
    obtain ⟨reason, unreadable⟩ := unreadable_deep
    have given : e.text = .ofList deepChars := text
    refine ⟨l, e, .unreadable payloadColumn reason, answered, alone, ?_⟩
    rw [Entry.received, given, unreadable]

end Queues
end Server
end Coalesce
