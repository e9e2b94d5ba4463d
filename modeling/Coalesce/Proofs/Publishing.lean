import Coalesce.Dispatch.Dispatcher
import Coalesce.Proofs.WireFormat

/-! What a publication says is what was called, and what a worker will run that reads the message.
Whoever publishes may add members to a message, but none that stands in the place of a core field,
and the bypass keeps the broker out of it and changes nothing else. -/
namespace Coalesce

variable {β σ : Type}

def Addressing.queueFor (a : Addressing) (route : Route) (args : List Json) (default : String) :
    String :=
  match a.queue, route with
  | some queue, _ => queue
  | none, .fixed queue => queue
  | none, .computed queue => queue args
  | none, .default => default

/-- What a publication has to say about the call that it was made for. -/
structure Publication.Tells (pub : Publication) (id : String) (t : Task β) (input : TaskInput)
    (a : Addressing) (default : String) : Prop where
  id : pub.id = a.id.getD id
  task : pub.delivery.message.task = t.name
  args : pub.delivery.message.args = input.args
  kwargs : pub.delivery.message.kwargs = input.kwargs
  extra : ∀ key, pub.delivery.message.extra.get? key =
    if key ∈ ["id", "task", "args", "kwargs"] then none else a.extra.get? key
  sorted : pub.delivery.message.extra.Sorted
  queue : pub.delivery.queue = a.queueFor t.route input.args default
  exchange : pub.delivery.exchange = t.exchange

def recordedSend (send : Delivery → σ → Except Error Unit × σ) (d : Delivery)
    (s : σ × List Delivery) : Except Error Unit × σ × List Delivery :=
  let (sent, next) := send d s.1
  (sent, next, s.2 ++ [d])

namespace Publisher

variable (p : Publisher) (t : Task β) (input : TaskInput) (a : Addressing)

theorem tells_prepare (fresh : String) (sorted : a.extra.Sorted) :
    (p.prepare fresh t input a).Tells fresh t input a p.defaultQueue where
  id := rfl
  task := rfl
  args := rfl
  kwargs := rfl
  extra key := by
    change (Message.withoutCore a.extra).get? key = _
    rw [Message.get?_withoutCore]
    simp [Message.coreFields]
  sorted := Table.Sorted.filter sorted _
  queue := by
    unfold Addressing.queueFor prepare Route.resolve
    cases a.queue with
    | some queue => rfl
    | none => cases t.route <;> rfl
  exchange := rfl

theorem prepare_bypass (fresh fresh' : String) (same : a.id.getD fresh = a.id.getD fresh')
    (bypass : Bool) :
    ({ p with bypass } : Publisher).prepare fresh' t input a =
      { p.prepare fresh t input a with delivered := !bypass } := by
  simp only [prepare, same]

variable (send : Delivery → σ → Except Error Unit × σ) (fresh : String) (s : σ)

theorem publish_of_bypass (bypassed : p.bypass = true) :
    (p.publish send fresh t input a s).2 = (.ok (p.prepare fresh t input a), s) := by
  have skipped : (p.prepare fresh t input a).delivered = false := by simp [prepare, bypassed]
  simp [publish, skipped]

theorem publish_of_sent (heard : p.bypass = false) :
    (p.publish send fresh t input a s).2 =
      let (sent, next) := send (p.prepare fresh t input a).delivery s
      (sent.map fun _ => p.prepare fresh t input a, next) := by
  have delivered : (p.prepare fresh t input a).delivered = true := by simp [prepare, heard]
  simp only [publish, delivered, if_true]
  generalize send (p.prepare fresh t input a).delivery s = answer
  obtain ⟨sent | sent, next⟩ := answer <;> rfl

theorem publish_handed (past : List Delivery) :
    (p.publish (recordedSend send) fresh t input a (s, past)).2.2.2 =
      past ++ if p.bypass then [] else [(p.prepare fresh t input a).delivery] := by
  cases heard : p.bypass with
  | true => simp [p.publish_of_bypass t input a _ fresh _ heard]
  | false => simp [p.publish_of_sent t input a _ fresh _ heard, recordedSend]

/-- What is published says what was called, and its message, which reads back from its JSON text, is
handled as that call. The broker is handed it once, or not at all if it is bypassed; the call
returns it if the broker accepts it or is bypassed, and otherwise ends with the error of the broker.
A publisher that differs in the bypass alone returns the same but for the delivery. -/
theorem published_as_called (sorted : a.extra.Sorted) :
    ∃ pub : Publication, pub.Tells fresh t input a p.defaultQueue ∧
      pub.delivered = !p.bypass ∧
      (∀ past, (p.publish (recordedSend send) fresh t input a (s, past)).2.2.2 =
        past ++ if p.bypass then [] else [pub.delivery]) ∧
      (p.bypass = true ∨ (send pub.delivery s).1 = .ok () →
        (p.publish send fresh t input a s).2.1 = .ok pub) ∧
      (∀ e, p.bypass = false → (send pub.delivery s).1 = .error e →
        (p.publish send fresh t input a s).2.1 = .error e) ∧
      (∀ (bypass : Bool) (fresh' : String), a.id.getD fresh = a.id.getD fresh' →
        bypass = true ∨ (send pub.delivery s).1 = .ok () →
          (({ p with bypass } : Publisher).publish send fresh' t input a s).2.1 =
            .ok { pub with delivered := !bypass }) ∧
      Message.decode pub.delivery.message.toJson = .ok pub.delivery.message ∧
      ∀ (d : Dispatcher β) (id : String), d.handle id pub.delivery.message =
        d.trigger id .autocommit .execute t.name input := by
  let pub := p.prepare fresh t input a
  have returned (q : Publisher) (id : String)
      (ok : q.bypass = true ∨ (send (q.prepare id t input a).delivery s).1 = .ok ()) :
      (q.publish send id t input a s).2.1 = .ok (q.prepare id t input a) := by
    cases heard : q.bypass with
    | true => rw [q.publish_of_bypass t input a send id s heard]
    | false =>
      have accepted := ok.resolve_left (by simp [heard])
      rw [q.publish_of_sent t input a send id s heard]
      simp [accepted, Except.map]
  have tells := p.tells_prepare t input a fresh sorted
  refine ⟨pub, tells, rfl, p.publish_handed t input a send fresh s, returned p fresh, ?refused,
    ?bypass, Message.decode_toJson tells.sorted (Message.unreserved_withoutCore a.extra),
    fun _ _ => rfl⟩
  case refused =>
    intro e heard refused
    rw [p.publish_of_sent t input a send fresh s heard]
    simp [pub, refused, Except.map]
  case bypass =>
    intro bypass fresh' same ok
    have twin := p.prepare_bypass t input a fresh fresh' same bypass
    have accepted : bypass = true ∨
        (send (Publisher.prepare { p with bypass } fresh' t input a).delivery s).1 = .ok () := by
      rw [twin]
      exact ok
    rw [returned { p with bypass } fresh' accepted, twin]

/-- A caller who would have another task run for the message: the member is left out, and the
message goes where the route of the task says. -/
theorem published_as_called_hijack :
    let p : Publisher := ⟨"dispatch", false⟩
    let t : Task Unit :=
      ⟨"mail.send", (), .computed fun args => "shard_" ++ toString args.length, .broadcast⟩
    let a : Addressing := ⟨none, some "a", [("task", .str "wipe"), ("time_limit", .ofNat 30)]⟩
    let send (_ : Delivery) (n : Nat) : Except Error Unit × Nat := (.ok (), n + 1)
    a.extra.Sorted ∧
      ∃ pub : Publication, (p.publish send "b" t ⟨[.str "x"], []⟩ a 0).2.1 = .ok pub ∧
        pub.id = "a" ∧ pub.delivery.queue = "shard_1" ∧
        pub.delivery.message.extra.get? "task" = none ∧
        pub.delivery.message.extra.get? "time_limit" = some (.ofNat 30) ∧
        (∃ m, Message.decode pub.delivery.message.toJson = .ok m ∧ m.task = "mail.send") ∧
        (({ p with bypass := true } : Publisher).publish send "c" t ⟨[.str "x"], []⟩ a 0).2.1 =
          .ok { pub with delivered := false } := by
  intro p t a send
  have sorted : a.extra.Sorted := by decide
  obtain ⟨pub, tells, -, -, returned, -, twin, back, -⟩ :=
    p.published_as_called t ⟨[.str "x"], []⟩ a send "b" 0 sorted
  have accepted : (send pub.delivery 0).1 = .ok () := rfl
  refine ⟨sorted, pub, returned (.inr accepted), tells.id, tells.queue, ?_, ?_,
    ⟨_, back, tells.task⟩, twin true "c" rfl (.inl rfl)⟩
  · rw [tells.extra]
    decide
  · rw [tells.extra]
    rfl

end Publisher
end Coalesce
