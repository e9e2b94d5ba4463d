import Mathlib.Tactic.IntervalCases
import Coalesce.Proofs.Delivery

/-! Counting what is sent. A send is counted once its statements are answered, which is before the
commit of its transaction: a transaction that is broken off later takes its messages back and leaves
the counts. So the count of a queue is that of its messages and of what was sent to it in vain. -/
namespace Coalesce

namespace Tally

def isIn (series : String) : Event → Bool
  | .counted what => what.series == series
  | _ => false

theorem total_count (what : Occurrence) (series : String) (t : Tally) :
    ((t.count what).get? series).getD 0 =
      (t.get? series).getD 0 + if what.series = series then 1 else 0 := by
  unfold count
  by_cases same : what.series = series
  · subst same
    rw [Table.get?_insert_self, if_pos rfl, Option.getD_some]
  · rw [Table.get?_insert_of_ne (Ne.symm same), if_neg same, Nat.add_zero]

theorem total_countAll (events : List Event) (series : String) (t : Tally) :
    ((countAll events t).get? series).getD 0 =
      (t.get? series).getD 0 + events.countP (isIn series) := by
  induction events generalizing t with
  | nil => rfl
  | cons e events ih =>
    rw [countAll, List.foldl_cons, ← countAll, ih, List.countP_cons]
    cases e with
    | counted what =>
      rw [total_count]
      simp only [isIn, beq_iff_eq]
      omega
    | line => rfl
    | span => rfl
    | filled => rfl

end Tally

namespace Server

def refusal? (verdicts : List (Option String)) (n : Nat) : Option Nat :=
  (verdicts.take n).findIdx? Option.isSome

theorem lt_of_refusal? {verdicts : List (Option String)} {n k : Nat}
    (refused : refusal? verdicts n = some k) : k < n := by
  have bound := (List.findIdx?_eq_some_iff_findIdx_eq.1 refused).1
  rw [List.length_take] at bound
  omega

theorem refusal?_add (verdicts : List (Option String)) (n m : Nat) :
    refusal? verdicts (n + m) =
      (refusal? verdicts n).or ((refusal? (verdicts.drop n) m).map (· + n)) := by
  unfold refusal?
  rw [List.take_add, List.findIdx?_append]
  obtain enough | few := Nat.le_total n verdicts.length
  · rw [List.length_take, Nat.min_eq_left enough]
  · simp [List.drop_eq_nil_of_le few]

namespace Query

variable {α β : Type} {l : Link} {n m : Nat} {told told' : Nat → List Event}

def linkAfter (q : Query α) (l : Link) : Link :=
  match q l with
  | .ok _ l => l
  | .error _ l => l

theorem linkAfter_discarded (q : Query α) (l : Link) :
    (q >>= fun _ => pure () : Query Unit).linkAfter l = q.linkAfter l := by
  unfold linkAfter
  cases answer : q l with
  | ok a l' =>
    rw [bind_of_ok answer]
    rfl
  | error e l' => rw [bind_of_error answer]

/-- A query of `n` statements has reported `told k` when `k` of them are answered, and so in all if
the next one is refused. -/
def Reports (q : Query α) (l : Link) (n : Nat) (told : Nat → List Event) : Prop :=
  match q l with
  | .ok _ l' => refusal? l.verdicts n = none ∧ l'.verdicts = l.verdicts.drop n ∧
      l'.events = l.events ++ told n
  | .error _ l' => ∃ k, refusal? l.verdicts n = some k ∧ l'.events = l.events ++ told k

def silent : Nat → List Event := fun _ => []

theorem reports_pure (a : α) : Reports (pure a) l 0 silent :=
  ⟨rfl, rfl, (List.append_nil _).symm⟩

theorem reports_report (event : Event) : Reports (report event) l 0 fun _ => [event] :=
  ⟨rfl, rfl, rfl⟩

theorem reports_statement? {work : Timestamp → Tables → Except String (α × Tables)} {a : α}
    {t : Tables} (worked : work l.clock l.tables = .ok (a, t)) :
    Reports (statement? work) l 1 silent := by
  obtain ⟨tables, clock, verdicts, events⟩ := l
  dsimp only at worked
  unfold Reports statement? refusal?
  match verdicts with
  | [] =>
    dsimp only
    rw [worked]
    exact ⟨rfl, rfl, (List.append_nil _).symm⟩
  | none :: rest =>
    dsimp only
    rw [worked]
    exact ⟨rfl, rfl, (List.append_nil _).symm⟩
  | some reason :: rest => exact ⟨0, rfl, (List.append_nil _).symm⟩

theorem reports_statement {work : Timestamp → Tables → α × Tables} :
    Reports (statement work) l 1 silent :=
  reports_statement? rfl

def andThen (n : Nat) (told told' : Nat → List Event) (k : Nat) : List Event :=
  if k < n then told k else told n ++ told' (k - n)

theorem andThen_of_lt {k : Nat} (before : k < n) : andThen n told told' k = told k :=
  if_pos before

theorem andThen_add (k : Nat) : andThen n told told' (n + k) = told n ++ told' k := by
  rw [andThen, if_neg (by omega), Nat.add_sub_cancel_left]

theorem andThen_silent_silent : andThen n silent silent = silent := by
  funext k
  unfold andThen
  split <;> rfl

theorem Reports.bind {q : Query α} {f : α → Query β} (first : Reports q l n told)
    (rest : ∀ a l', q l = .ok a l' → Reports (f a) l' m told') :
    Reports (q >>= f) l (n + m) (andThen n told told') := by
  have whole := refusal?_add l.verdicts n m
  unfold Reports at first
  cases answer : q l with
  | error e l' =>
    rw [answer] at first
    obtain ⟨k, refused, events⟩ := first
    rw [refused, Option.some_or] at whole
    unfold Reports
    rw [bind_of_error answer]
    exact ⟨k, whole, by rw [andThen_of_lt (lt_of_refusal? refused), events]⟩
  | ok a l' =>
    rw [answer] at first
    obtain ⟨answered, verdicts, events⟩ := first
    rw [answered, Option.none_or, ← verdicts] at whole
    have later := rest a l' answer
    unfold Reports at later ⊢
    rw [bind_of_ok answer]
    cases ended : f a l' with
    | ok b l'' =>
      rw [ended] at later
      obtain ⟨answered', verdicts', events'⟩ := later
      refine ⟨?_, ?_, ?_⟩
      · rw [whole, answered', Option.map_none]
      · rw [verdicts', verdicts, List.drop_drop]
      · rw [andThen_add, events', events, List.append_assoc]
    | error e l'' =>
      rw [ended] at later
      obtain ⟨k, refused, events'⟩ := later
      refine ⟨n + k, ?_, ?_⟩
      · rw [whole, refused, Option.map_some, Nat.add_comm]
      · rw [andThen_add, events', events, List.append_assoc]

theorem Reports.congr {q : Query α} (reports : Reports q l n told)
    (same : ∀ k ≤ n, told k = told' k) : Reports q l n told' := by
  unfold Reports at reports ⊢
  split at reports
  · obtain ⟨answered, verdicts, events⟩ := reports
    exact ⟨answered, verdicts, by rw [events, same n (Nat.le_refl n)]⟩
  · obtain ⟨k, refused, events⟩ := reports
    exact ⟨k, refused, by rw [events, same k (Nat.le_of_lt (lt_of_refusal? refused))]⟩

theorem andThen_framed (nothing : told 0 = []) (k : Nat) :
    andThen 1 silent (andThen n told (andThen 1 silent silent)) k = told (min (k - 1) n) := by
  cases k with
  | zero =>
    rw [andThen_of_lt Nat.one_pos, Nat.zero_sub, Nat.zero_min, nothing]
    rfl
  | succ k =>
    rw [Nat.add_comm k, andThen_add, Nat.add_sub_cancel_left, andThen_silent_silent, silent,
      List.nil_append]
    obtain before | after := Nat.lt_or_ge k n
    · rw [andThen_of_lt before, Nat.min_eq_left (Nat.le_of_lt before)]
    · rw [Nat.min_eq_right after, ← Nat.add_sub_cancel' after, andThen_add, silent,
        List.append_nil]

/-- A transaction makes one statement before its body and one behind it. What its body has reported
stays reported if the commit is refused. -/
theorem reports_transaction {body : Query α} (nothing : told 0 = [])
    (reports : ∀ l', Reports body l' n told) :
    Reports (transaction body) l (n + 2) fun k => told (min (k - 1) n) := by
  have goes : Reports (framed body) l (1 + (n + (1 + 0))) _ :=
    (reports_statement (l := l)).bind fun _ l₁ _ =>
      (reports l₁).bind fun _ l₂ _ =>
        (reports_statement (l := l₂)).bind fun a _ _ => reports_pure _
  have goes := goes.congr fun k _ => andThen_framed nothing k
  rw [show 1 + (n + (1 + 0)) = n + 2 by omega] at goes
  unfold Reports at goes ⊢
  rw [transaction_eq]
  cases answer : framed body l with
  | ok a l' =>
    rw [answer] at goes
    exact goes
  | error e failed =>
    rw [answer] at goes
    exact goes

end Query

namespace Queues

def sends (queue : String) (l : Link) : Nat :=
  ((Tally.countAll l.events []).get? (Occurrence.queueOperation queue "send").series).getD 0

def sent (queue : String) : Event := .counted (.queueOperation queue "send")

theorem series_inj {queue other : String}
    (same : (Occurrence.queueOperation queue "send").series =
      (Occurrence.queueOperation other "send").series) : queue = other := by
  have text (queue : String) : (Occurrence.queueOperation queue "send").series =
      "dispatch.queue.operations" ++ "\x7b" ++
        (("operation" ++ "=" ++ "send") ++ "," ++ ("queue" ++ "=" ++ queue)) ++ "\x7d" :=
    rfl
  rw [text, text] at same
  apply String.toList_inj.1
  have chars := congrArg String.toList same
  simp only [String.toList_append, List.append_assoc, List.append_right_inj, List.append_left_inj]
    at chars
  exact chars

theorem reports_offer {t : Tables} {l : Link} {queue : String} (text : String)
    (ensured : l.tables = t.ensureQueue queue) :
    (onQueue queue fun now q => q.send now.seconds text).Reports l 1 Query.silent := by
  obtain ⟨id, t', done, -⟩ := t.delivered_send queue l.clock.seconds text
  apply Query.reports_statement? (a := id)
  rw [ensured, done]

section
variable (column : Column)

open Query in
theorem reports_sendOn (queue : String) (payload : Json) (l : Link) :
    (sendOn column queue payload).Reports l 3 fun k => ([queue].take (k / 3)).map sent := by
  let told : Nat → List Event := fun _ => [sent queue]
  have reports : (sendOn column queue payload).Reports l (1 + (1 + (1 + (0 + 0))))
      (andThen 1 silent (andThen 1 silent (andThen 1 silent (andThen 0 told silent)))) := by
    apply reports_statement.bind
    intro _ l₁ made
    apply (reports_offer _ (congrArg Prod.snd (of_statement made)).symm).bind
    intro id l₂ _
    apply reports_statement.bind
    intro _ l₃ _
    apply (reports_report (sent queue)).bind
    intro _ l₄ _
    exact reports_pure id
  apply reports.congr
  intro k bound
  interval_cases k <;> rfl

open Query in
theorem reports_sendToAll (payload : Json) (queues : List String) (l : Link) :
    (sendToAll column payload queues).Reports l (3 * queues.length) fun k =>
      (queues.take (k / 3)).map sent := by
  induction queues generalizing l with
  | nil =>
    apply (reports_pure ()).congr
    intro k _
    rw [List.take_nil]
    rfl
  | cons queue rest ih =>
    have reports := (reports_sendOn column queue payload l).bind fun _ l' _ => ih l'
    rw [List.length_cons, Nat.mul_succ, Nat.add_comm]
    apply reports.congr
    intro k bound
    obtain before | after := Nat.lt_or_ge k 3
    · rw [andThen_of_lt before, Nat.div_eq_of_lt before, List.take_zero, List.take_zero]
    · obtain ⟨k, rfl⟩ := Nat.exists_eq_add_of_le after
      rw [andThen_add, Nat.add_div_left k (by decide), List.take_succ_cons]
      rfl

end

theorem sends_of_events {l l' : Link} {new : List Event} (events : l'.events = l.events ++ new)
    (queue : String) : sends queue l' = sends queue l +
      new.countP (Tally.isIn (Occurrence.queueOperation queue "send").series) := by
  rw [sends, sends, Tally.total_countAll, Tally.total_countAll, events, List.countP_append,
    Nat.add_assoc]

theorem sends_of_silent {l l' : Link} {k : Nat} (events : l'.events = l.events ++ Query.silent k)
    (queue : String) : sends queue l' = sends queue l :=
  sends_of_events events queue

theorem sends_of_sent {l l' : Link} {queues : List String}
    (events : l'.events = l.events ++ queues.map sent) (queue : String) :
    sends queue l' = sends queue l + queues.count queue := by
  let series := (Occurrence.queueOperation queue "send").series
  have one (other : String) : Tally.isIn series (sent other) = (other == queue) := by
    apply Bool.eq_iff_iff.2
    simp only [Tally.isIn, sent, beq_iff_eq]
    constructor
    · exact series_inj
    · rintro rfl
      rfl
  rw [sends_of_events events, List.countP_map, List.count]
  congr 2
  funext other
  exact one other

/-- Each queue has as many new messages at its end as it is named in a list. -/
def Adds (queues : List String) (t t' : Tables) : Prop :=
  ∀ queue, ∃ new, t'.entries queue = t.entries queue ++ new ∧ new.length = queues.count queue

variable {queues more : List String} {t u v : Tables} {l : Link}

theorem Adds.append (first : Adds queues t u) (rest : Adds more u v) :
    Adds (queues ++ more) t v := by
  intro queue
  obtain ⟨new, added, length⟩ := first queue
  obtain ⟨new', added', length'⟩ := rest queue
  refine ⟨new ++ new', by rw [added', added, List.append_assoc], ?_⟩
  rw [List.length_append, List.count_append, length, length']

theorem adds_of_delivered {copy : Entry → Prop} {receiver : String}
    (delivered : Tables.Delivered copy [receiver] t u) : Adds [receiver] t u := by
  intro queue
  by_cases same : queue = receiver
  · subst same
    obtain ⟨e, -, added⟩ := delivered.received queue List.mem_cons_self
    exact ⟨[e], added, by simp⟩
  · refine ⟨[], ?_, ?_⟩
    · rw [List.append_nil]
      exact Tables.entries_congr (delivered.others queue (by simpa using same))
    · simp [Ne.symm same]

theorem leads_adds_sendToAll (column : Column) (payload : Json) (queues : List String) (l : Link) :
    (sendToAll column payload queues).Leads l fun _ t => Adds queues l.tables t := by
  induction queues generalizing l with
  | nil => exact Query.leads_pure fun queue => ⟨[], (List.append_nil _).symm, rfl⟩
  | cons queue rest ih =>
    apply (leads_sendOn column queue payload l).bind
    intro _ l' first
    apply (ih l').mono
    intro _ t later
    exact (adds_of_delivered first).append later

/-- The queues that a transaction has sent to when it is broken off. It makes three statements for
each of its queues, one before them and one behind them. -/
def undone (queues : List String) (verdicts : List (Option String)) : List String :=
  match refusal? verdicts (3 * queues.length + 2) with
  | some k => queues.take ((k - 1) / 3)
  | none => []

/-- The messages that came to a queue and those that were sent in vain are what was counted. -/
def Balanced (lost : List String) (l l' : Link) : Prop :=
  ∀ queue, ∃ new, l'.tables.entries queue = l.tables.entries queue ++ new ∧
    sends queue l' = sends queue l + new.length + lost.count queue

theorem Balanced.trans {lost lost' : List String} {l l' l'' : Link} (first : Balanced lost l l')
    (rest : Balanced lost' l' l'') : Balanced (lost ++ lost') l l'' := by
  intro queue
  obtain ⟨new, added, counted⟩ := first queue
  obtain ⟨new', added', counted'⟩ := rest queue
  refine ⟨new ++ new', by rw [added', added, List.append_assoc], ?_⟩
  rw [counted', counted, List.length_append, List.count_append]
  omega

theorem balanced_transaction {α : Type} {body : Query α}
    (leads : ∀ l', body.Leads l' fun _ t => Adds queues l'.tables t)
    (reports : ∀ l', body.Reports l' (3 * queues.length) fun k => (queues.take (k / 3)).map sent) :
    Balanced (undone queues l.verdicts) l ((Query.transaction body).linkAfter l) := by
  have leads : (Query.transaction body).Leads l fun _ t => Adds queues l.tables t := by
    apply Query.leads_transaction
    intro l' begun
    rw [← begun]
    exact leads l'
  have reports : (Query.transaction body).Reports l (3 * queues.length + 2) _ :=
    Query.reports_transaction rfl reports
  unfold Query.Leads at leads
  unfold Query.Reports at reports
  unfold Query.linkAfter undone
  cases answer : Query.transaction body l with
  | ok a l' =>
    rw [answer] at leads reports
    obtain ⟨answered, -, events⟩ := reports
    dsimp only at events
    have all : min (3 * queues.length + 2 - 1) (3 * queues.length) / 3 = queues.length := by omega
    rw [all, List.take_length] at events
    intro queue
    obtain ⟨new, added, length⟩ := leads.1 queue
    refine ⟨new, added, ?_⟩
    rw [answered, sends_of_sent events, length, List.count_nil, Nat.add_zero]
  | error e l' =>
    rw [answer] at reports
    obtain ⟨k, refused, events⟩ := reports
    dsimp only at events
    have early : min (k - 1) (3 * queues.length) = k - 1 := by
      have := lt_of_refusal? refused
      omega
    rw [early] at events
    intro queue
    refine ⟨[], ?_, ?_⟩
    · rw [List.append_nil, Query.tables_of_rolledBack answer]
    · rw [refused, sends_of_sent events, List.length_nil, Nat.add_zero]

theorem balanced_silent {l l' : Link} (tables : l'.tables = l.tables)
    (events : ∀ queue, sends queue l' = sends queue l) : Balanced [] l l' := by
  intro queue
  refine ⟨[], ?_, ?_⟩
  · rw [List.append_nil, tables]
  · rw [events, List.length_nil, List.count_nil, Nat.add_zero]

section
variable (column : Column)

theorem balanced_send (queue : String) (payload : Json) (l : Link) :
    Balanced (undone [queue] l.verdicts) l ((send column queue payload).linkAfter l) := by
  apply balanced_transaction
  · intro l'
    apply (leads_sendOn column queue payload l').mono
    intro _ t delivered
    exact adds_of_delivered delivered
  · exact reports_sendOn column queue payload

/-- The queues that a publication has sent to when its transaction is broken off. A broadcast looks
for the queues that are bound before its transaction begins. -/
def undoneOf (d : Delivery) (l : Link) : List String :=
  match d.exchange with
  | .direct => undone [d.queue] l.verdicts
  | .broadcast =>
    let bound := l.tables.queues.keys.filter fun name =>
      (d.queue ++ broadcastSeparator).toList.isPrefixOf name.toList
    if refusal? l.verdicts 1 = none then undone bound (l.verdicts.drop 1) else []

theorem balanced_broadcast (d : Delivery) (bound : List String) (l : Link) :
    Balanced (undone bound l.verdicts) l
      ((if bound = [] then
          Query.report (.debug "no queues bound to broadcast exchange"
            [("exchange", d.queue), ("id", d.message.id)])
        else Query.transaction (sendToAll column d.message.toJson bound) : Query Unit).linkAfter
          l) := by
  split
  · next none =>
    -- No transaction is begun, so a refusal of the statements to come is none of this broadcast.
    have empty : undone bound l.verdicts = [] := by
      unfold undone
      rw [none]
      split
      · exact List.take_nil
      · rfl
    rw [empty]
    let line : Event := .debug "no queues bound to broadcast exchange"
      [("exchange", d.queue), ("id", d.message.id)]
    have tables : ((Query.report line).linkAfter l).tables = l.tables := rfl
    have events : ((Query.report line).linkAfter l).events = l.events ++ [line] := rfl
    apply balanced_silent tables
    intro queue
    rw [sends_of_events events]
    rfl
  · exact balanced_transaction (leads_adds_sendToAll column _ bound)
      (reports_sendToAll column _ bound)

theorem balanced_publish (d : Delivery) (l : Link) :
    Balanced (undoneOf d l) l ((publish column d).linkAfter l) := by
  unfold undoneOf publish
  cases d.exchange with
  | direct =>
    dsimp only
    rw [Query.linkAfter_discarded]
    exact balanced_send column d.queue _ l
  | broadcast =>
    dsimp only
    have reports : (names (d.queue ++ broadcastSeparator)).Reports l 1 Query.silent :=
      Query.reports_statement
    unfold Query.Reports at reports
    cases answer : names (d.queue ++ broadcastSeparator) l with
    | error e l' =>
      rw [answer] at reports
      obtain ⟨k, refused, events⟩ := reports
      rw [if_neg (by rw [refused]; exact Option.some_ne_none k), Query.linkAfter,
        Query.bind_of_error answer]
      exact balanced_silent (Query.tables_of_refused answer) (sends_of_silent events)
    | ok bound l' =>
      rw [answer] at reports
      obtain ⟨answered, verdicts, events⟩ := reports
      have listed := Query.of_statement answer
      have tables : l'.tables = l.tables := (congrArg Prod.snd listed).symm
      have same : (l.tables.queues.keys.filter fun name =>
          (d.queue ++ broadcastSeparator).toList.isPrefixOf name.toList) = bound :=
        congrArg Prod.fst listed
      rw [if_pos answered, ← verdicts, same, Query.linkAfter, Query.bind_of_ok answer]
      exact (balanced_silent tables (sends_of_silent events)).trans
        (balanced_broadcast column d bound l')

end

inductive Call where
  | send (queue : String) (payload : Json)
  | publish (d : Delivery)

namespace Call

def undone (l : Link) : Call → List String
  | .send queue _ => Queues.undone [queue] l.verdicts
  | .publish d => undoneOf d l

variable (column : Column)

def perform : Call → Query Unit
  | .send queue payload => do let _ ← Queues.send column queue payload
  | .publish d => Queues.publish column d

def serve (l : Link) (c : Call) : Link := (c.perform column).linkAfter l

def serveAll (calls : List Call) (l : Link) : Link := calls.foldl (serve column) l

def undoneAll : List Call → Link → List String
  | [], _ => []
  | c :: calls, l => c.undone l ++ undoneAll calls (serve column l c)

theorem balanced_serve (l : Link) (c : Call) : Balanced (c.undone l) l (serve column l c) := by
  cases c with
  | send queue payload =>
    unfold serve perform
    rw [Query.linkAfter_discarded]
    exact balanced_send column queue payload l
  | publish d => exact balanced_publish column d l

theorem balanced_serveAll (calls : List Call) (l : Link) :
    Balanced (undoneAll column calls l) l (serveAll column calls l) := by
  induction calls generalizing l with
  | nil => exact balanced_silent rfl fun _ => rfl
  | cons c calls ih => exact (balanced_serve column l c).trans (ih (serve column l c))

end Call

/-- What calls that send have counted for a queue is the messages that they brought to it and those
that they sent to it in vain. The count is that of the messages exactly if the queue is in no
transaction that was broken off behind it. -/
theorem counted_of_calls (column : Column) (calls : List Call) (l : Link) (queue : String) :
    ∃ new, (Call.serveAll column calls l).tables.entries queue = l.tables.entries queue ++ new ∧
      sends queue (Call.serveAll column calls l) =
        sends queue l + new.length + (Call.undoneAll column calls l).count queue ∧
      (sends queue (Call.serveAll column calls l) = sends queue l + new.length ↔
        queue ∉ Call.undoneAll column calls l) := by
  obtain ⟨new, added, counted⟩ := Call.balanced_serveAll column calls l queue
  refine ⟨new, added, counted, ?_⟩
  rw [counted, ← List.count_eq_zero]
  omega

/-- Of two sends to a queue the commit of the first is refused: both are counted and one message is
there. A broadcast is refused at the second of two queues: the first has counted a message that it
does not have. -/
theorem counted_of_rolledBack :
    let refused (n : Nat) : List (Option String) :=
      List.replicate n none ++ [some "commit unavailable"]
    let again : List Call := [.send "q" .null, .send "q" .null]
    let two := Call.serveAll ⟨id⟩ again ⟨⟨[], [], []⟩, ⟨0, 0⟩, refused 4, []⟩
    let bound : Tables := ⟨[], [("x__a", .empty), ("x__b", .empty)], []⟩
    let d : Delivery := ⟨"x", .broadcast, ⟨"1", "f", [], [], []⟩⟩
    let all := Call.serveAll ⟨id⟩ [.publish d] ⟨bound, ⟨0, 0⟩, refused 5, []⟩
    (sends "q" two = 2 ∧ (two.tables.entries "q").length = 1) ∧
      (sends "x__a" all = 1 ∧ all.tables.entries "x__a" = []) ∧
      sends "x__b" all = 0 ∧ all.tables.entries "x__b" = [] := by
  decide +kernel

end Queues
end Server
end Coalesce
