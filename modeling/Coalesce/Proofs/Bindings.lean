import Coalesce.Proofs.Delivery

/-! Who hears a broadcast. The exchange that a consumer is bound to is known only as the start of
the name of its queue, and the separator behind it may be found at another place than the one where
it was put. So a broadcast reaches all consumers of its exchange, and those of others whose names
run into the separator. -/
namespace Coalesce.Server.Queues

structure Consumer where
  exchange : String
  suffix : String

namespace Consumer

def queue (c : Consumer) : String := broadcastQueue c.exchange c.suffix

def IsBound (c : Consumer) (t : Tables) : Prop := t.queues.contains c.queue = true

/-- Where a separator behind the name of another exchange is found in the name of the queue: across
the end of the consumer's exchange, within it, across the end of the consumer's separator, or in the
suffix. -/
inductive Overhears (c : Consumer) (exchange : String) : Prop where
  | across (name : c.exchange = exchange ++ "_")
  | within (rest : String) (name : c.exchange = exchange ++ broadcastSeparator ++ rest)
  | beyond (rest : String) (name : exchange = c.exchange ++ "_") (suffix : c.suffix = "_" ++ rest)
  | after (rest more : String) (name : exchange = c.exchange ++ broadcastSeparator ++ rest)
      (suffix : c.suffix = rest ++ broadcastSeparator ++ more)

end Consumer

/-- A name that neither holds the separator nor ends in the half of one. -/
structure Separable (name : String) : Prop where
  free : ¬ broadcastSeparator.toList <:+: name.toList
  ended : ¬ ['_'] <:+ name.toList

theorem pair_append_iff {α : Type} {u : α} {x r s : List α} :
    u :: u :: r = x ++ u :: u :: s ↔
      x = [] ∧ r = s ∨ x = [u] ∧ r = u :: s ∨ ∃ t, x = u :: u :: t ∧ r = t ++ u :: u :: s := by
  match x with
  | [] => simp
  | [a] =>
    constructor
    · intro same
      obtain ⟨rfl, -, rfl⟩ : u = a ∧ True ∧ r = u :: s := by simpa using same
      exact .inr (.inl ⟨rfl, rfl⟩)
    · simp +contextual
  | a :: b :: t =>
    constructor
    · intro same
      obtain ⟨rfl, rfl, rfl⟩ : u = a ∧ u = b ∧ r = t ++ u :: u :: s := by simpa using same
      exact .inr (.inr ⟨t, rfl, rfl⟩)
    · simp +contextual

theorem append_pair_iff {α : Type} {u : α} {a b r s : List α} :
    a ++ u :: u :: r = b ++ u :: u :: s ↔
      a = b ∧ r = s ∨
      (b = a ++ [u] ∧ r = u :: s ∨ ∃ t, b = a ++ u :: u :: t ∧ r = t ++ u :: u :: s) ∨
      (a = b ++ [u] ∧ s = u :: r ∨ ∃ t, a = b ++ u :: u :: t ∧ s = t ++ u :: u :: r) := by
  rw [List.append_eq_append_iff]
  simp only [pair_append_iff]
  constructor
  · rintro (⟨x, rfl, ⟨rfl, rfl⟩ | ⟨rfl, rfl⟩ | ⟨t, rfl, rfl⟩⟩ |
      ⟨x, rfl, ⟨rfl, rfl⟩ | ⟨rfl, rfl⟩ | ⟨t, rfl, rfl⟩⟩)
    · exact .inl ⟨(List.append_nil a).symm, rfl⟩
    · exact .inr (.inl (.inl ⟨rfl, rfl⟩))
    · exact .inr (.inl (.inr ⟨t, rfl, rfl⟩))
    · exact .inl ⟨List.append_nil b, rfl⟩
    · exact .inr (.inr (.inl ⟨rfl, rfl⟩))
    · exact .inr (.inr (.inr ⟨t, rfl, rfl⟩))
  · rintro (⟨rfl, rfl⟩ | (⟨rfl, rfl⟩ | ⟨t, rfl, rfl⟩) | ⟨rfl, rfl⟩ | ⟨t, rfl, rfl⟩)
    · exact .inl ⟨[], (List.append_nil a).symm, .inl ⟨rfl, rfl⟩⟩
    · exact .inl ⟨_, rfl, .inr (.inl ⟨rfl, rfl⟩)⟩
    · exact .inl ⟨_, rfl, .inr (.inr ⟨t, rfl, rfl⟩)⟩
    · exact .inr ⟨_, rfl, .inr (.inl ⟨rfl, rfl⟩)⟩
    · exact .inr ⟨_, rfl, .inr (.inr ⟨t, rfl, rfl⟩)⟩

theorem toList_broadcastQueue (exchange suffix : String) :
    (broadcastQueue exchange suffix).toList = exchange.toList ++ '_' :: '_' :: suffix.toList := by
  simp [broadcastQueue, broadcastSeparator]

/-- A queue of an exchange is one of another consumer only where that one is of the exchange or
overhears it. -/
theorem exists_suffix_iff (c : Consumer) (exchange : String) :
    (∃ suffix, c.queue = broadcastQueue exchange suffix) ↔
      c.exchange = exchange ∨ c.Overhears exchange := by
  constructor
  · rintro ⟨suffix, same⟩
    rw [Consumer.queue, ← String.toList_inj, toList_broadcastQueue, toList_broadcastQueue,
      append_pair_iff] at same
    obtain ⟨same, -⟩ | (⟨name, tail⟩ | ⟨t, name, tail⟩) | ⟨name, -⟩ | ⟨t, name, -⟩ := same
    · exact .inl (String.toList_inj.1 same)
    · refine .inr (.beyond suffix ?_ ?_)
      · exact String.toList_inj.1 (by simpa using name)
      · exact String.toList_inj.1 (by simpa using tail)
    · refine .inr (.after (String.ofList t) suffix ?_ ?_)
      · exact String.toList_inj.1 (by simpa [broadcastSeparator] using name)
      · exact String.toList_inj.1 (by simpa [broadcastSeparator] using tail)
    · exact .inr (.across (String.toList_inj.1 (by simpa using name)))
    · refine .inr (.within (String.ofList t) ?_)
      exact String.toList_inj.1 (by simpa [broadcastSeparator] using name)
  · obtain ⟨own, own'⟩ := c
    rintro (rfl | ⟨rfl⟩ | ⟨rest, rfl⟩ | ⟨rest, rfl, rfl⟩ | ⟨rest, more, rfl, rfl⟩)
    · exact ⟨own', rfl⟩
    · exact ⟨"_" ++ own', String.toList_inj.1 (by simp [Consumer.queue, toList_broadcastQueue])⟩
    · refine ⟨rest ++ broadcastSeparator ++ own', String.toList_inj.1 ?_⟩
      simp [Consumer.queue, toList_broadcastQueue, broadcastSeparator]
    · exact ⟨rest, String.toList_inj.1 (by simp [Consumer.queue, toList_broadcastQueue])⟩
    · refine ⟨more, String.toList_inj.1 ?_⟩
      simp [Consumer.queue, toList_broadcastQueue, broadcastSeparator]

theorem Separable.not_within {name : String} (separable : Separable name) (start rest : String) :
    name ≠ start ++ broadcastSeparator ++ rest := by
  rintro rfl
  refine separable.free ⟨start.toList, rest.toList, ?_⟩
  simp

theorem Separable.not_across {name : String} (separable : Separable name) (start : String) :
    name ≠ start ++ "_" := by
  rintro rfl
  refine separable.ended ⟨start.toList, ?_⟩
  simp

theorem Consumer.not_overhears {c : Consumer} {exchange : String} (own : Separable c.exchange)
    (other : Separable exchange) : ¬ c.Overhears exchange := by
  rintro (name | ⟨rest, name⟩ | ⟨rest, name, -⟩ | ⟨rest, more, name, -⟩)
  · exact own.not_across exchange name
  · exact own.not_within exchange rest name
  · exact other.not_across c.exchange name
  · exact other.not_within c.exchange rest name

/-- A broadcast that is answered has put one copy of its message into the queue of each consumer
that is bound to its exchange or overhears it, and has left the queues of the others as they were;
these are all consumers of other exchanges where the names of both exchanges can be told from what
is behind them. One that fails has reached nobody, and fails only where a statement is refused. -/
theorem broadcast_reaches (column : Column) (d : Delivery) (l : Link)
    (broadcast : d.exchange = .broadcast) (unique : l.tables.queues.Sorted) :
    match publish column d l with
    | .ok () l' => ∀ c : Consumer, c.IsBound l.tables →
        (c.exchange = d.queue ∨ c.Overhears d.queue →
          ∃ e : Entry, e.text = column.giveBack d.message.toJson.compact ∧
            l'.tables.entries c.queue = l.tables.entries c.queue ++ [e]) ∧
        (c.exchange ≠ d.queue →
          ¬ c.Overhears d.queue ∨ Separable c.exchange ∧ Separable d.queue →
          l'.tables.queues.get? c.queue = l.tables.queues.get? c.queue)
    | .error e l' => l'.tables = l.tables ∧
        ∃ reason, some reason ∈ l.verdicts ∧ e = .database (.returned reason) := by
  have leads := leads_publish column d l unique
  unfold Query.Leads at leads
  split
  · next l' answer =>
    rw [answer] at leads
    obtain ⟨⟨receivers, -, reached, delivered⟩, -⟩ := leads
    intro c bound
    have hears : c.queue ∈ receivers ↔ c.exchange = d.queue ∨ c.Overhears d.queue := by
      rw [reached, Reaches, broadcast, ← exists_suffix_iff]
      exact and_iff_right bound
    refine ⟨fun heard => delivered.received c.queue (hears.2 heard), fun other unheard => ?_⟩
    refine delivered.others c.queue fun mem => ?_
    have overhears := (hears.1 mem).resolve_left other
    obtain silent | ⟨own, name⟩ := unheard
    · exact silent overhears
    · exact c.not_overhears own name overhears
  · next e l' answer =>
    rw [answer] at leads
    exact ⟨tables_of_failed answer, leads⟩

def plainText : String :=
  "\x7b\"id\": \"1\", \"args\": [], \"task\": \"f\", \"kwargs\": \x7b\x7d\x7d"

/-- Of three consumers of three exchanges one is bound to the exchange, one overhears it, and one is
not reached. -/
theorem broadcast_reaches_overhearing :
    let tables : Tables := ⟨[], [("a__b__s", .empty), ("a__s", .empty), ("b__s", .empty)], []⟩
    let d : Delivery := ⟨"a", .broadcast, .ofTask "1" "f" []⟩
    let column : Column := ⟨fun _ => plainText⟩
    d.exchange = .broadcast ∧ tables.queues.Sorted ∧
      ∃ l, publish column d ⟨tables, ⟨0, 0⟩, [], []⟩ = .ok () l ∧
        (∃ e : Entry, e.text = column.giveBack d.message.toJson.compact ∧
          l.tables.entries "a__s" = [e]) ∧
        (∃ e : Entry, e.text = column.giveBack d.message.toJson.compact ∧
          l.tables.entries "a__b__s" = [e]) ∧
        l.tables.queues.get? "b__s" = some .empty := by
  intro tables d column
  have unique : tables.queues.Sorted := by decide
  have reaches := broadcast_reaches column d ⟨tables, ⟨0, 0⟩, [], []⟩ rfl unique
  refine ⟨rfl, unique, ?_⟩
  split at reaches
  · next l answered =>
    have own := (reaches ⟨"a", "s"⟩ rfl).1 (.inl rfl)
    have overheard := (reaches ⟨"a__b", "s"⟩ rfl).1 (.inr (.within "b" rfl))
    have separable : Separable "b" ∧ Separable "a" := by
      refine ⟨⟨?_, ?_⟩, ?_, ?_⟩ <;> decide
    have other := (reaches ⟨"b", "s"⟩ rfl).2 (by decide) (.inr separable)
    exact ⟨l, answered, own, overheard, other⟩
  · obtain ⟨-, reason, refused, -⟩ := reaches
    cases refused

/-- A consumer of another exchange, whose name goes on behind the separator, gets the broadcast. -/
theorem overheard_within :
    let c : Consumer := ⟨"a__b", "s"⟩
    let tables : Tables := ⟨[], [("a__b__s", .empty)], []⟩
    let d : Delivery := ⟨"a", .broadcast, .ofTask "1" "f" []⟩
    let column : Column := ⟨fun _ => plainText⟩
    c.IsBound tables ∧ c.exchange ≠ d.queue ∧
      ∃ l, publish column d ⟨tables, ⟨0, 0⟩, [], []⟩ = .ok () l ∧
        ∃ e : Entry, e.text = column.giveBack d.message.toJson.compact ∧
          l.tables.entries c.queue = [e] := by
  intro c tables d column
  have bound : c.IsBound tables := rfl
  refine ⟨bound, by decide, ?_⟩
  have leads := leads_publish column d ⟨tables, ⟨0, 0⟩, [], []⟩ (by decide)
  unfold Query.Leads at leads
  split at leads
  · next l answered =>
    obtain ⟨⟨receivers, -, reached, delivered⟩, -⟩ := leads
    have heard : c.queue ∈ receivers := (reached c.queue).2 ⟨bound, "b__s", rfl⟩
    exact ⟨l, answered, delivered.received c.queue heard⟩
  · obtain ⟨reason, refused, -⟩ := leads
    cases refused

end Coalesce.Server.Queues
