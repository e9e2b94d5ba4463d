import Coalesce.Proofs.History
import Coalesce.Proofs.Moves

/-! What the history tells of calls: a call that stands where it can only stand after its flag was
noted, or after its task was run, did note its flag or run its task. And what calls have to do with
messages: the one that a call handles and the one that it may publish are for its own name. -/
namespace Coalesce

namespace Trigger.State

def isNoted : State → Bool
  | .at .probing => true
  | .at .leaving => true
  | .at (.publishing .lostWakeup) => true
  | .done (.ok .coalesced) => true
  | .done (.ok .deferred) => true
  | .done (.ok (.resubmitted _)) => true
  | _ => false

def hasRun : State → Bool
  | .at (.checking ..) => true
  | .at (.releasing _) => true
  | .at (.rechecking _) => true
  | .at (.publishing (.exhausted ..)) => true
  | .at (.publishing (.failed _)) => true
  | .done (.ok (.completed ..)) => true
  | .done (.ok (.requeued ..)) => true
  | _ => false

theorem isNoted_or_hasRun (o : Outcome) :
    isNoted (.done (.ok o)) = true ∨ hasRun (.done (.ok o)) = true := by
  cases o with
  | completed | requeued => exact .inr rfl
  | coalesced | deferred | resubmitted => exact .inl rfl

end Trigger.State

namespace Interleaving

structure Account {β : Type} (h : List Happening) (i : Nat) (c : Call β) : Prop where
  began : Occurs [Began i] h
  inside : c.inside = true → ∀ t st, c.work = .trigger t st → Ran h i t.lock
  noted : ∀ t st, c.work = .trigger t st → st.isNoted = true → Occurs [Noted i t.lock] h
  ran : ∀ t st, c.work = .trigger t st → st.hasRun = true → Ran h i t.lock

variable {κ β : Type}

theorem Account.cons {h : List Happening} {i : Nat} {c : Call β} (account : Account h i c)
    (e : Happening) : Account (e :: h) i c where
  began := account.began.cons e
  inside := fun inside t st work => (account.inside inside t st work).cons e
  noted := fun t st work noted => (account.noted t st work noted).cons e
  ran := fun t st work ran => (account.ran t st work ran).cons e

structure Recorded (w : World κ β) : Prop where
  known : ∀ e ∈ w.history, e.call < w.calls.length
  account : ∀ i c, w.call? i = some c → Account w.history i c

theorem Recorded.began_of_mem {w : World κ β} (recorded : Recorded w) {e : Happening}
    (h : e ∈ w.history) : Occurs [Began e.call] w.history := by
  have known := recorded.known e h
  exact (recorded.account e.call _ (List.getElem?_eq_getElem known)).began

theorem Recorded.not_occurs {w : World κ β} (recorded : Recorded w) {kind : Happening → Prop}
    (own : ∀ e, kind e → e.call = w.calls.length) : ¬Occurs [kind] w.history := by
  intro occurs
  obtain ⟨e, mem, is_kind⟩ := occurs_singleton.1 occurs
  have known := recorded.known e mem
  rw [own e is_kind] at known
  exact Nat.lt_irrefl _ known

theorem recorded_idle (flags : Memory.Flags) : Recorded (.idle flags : World κ β) where
  known := by
    intro e h
    cases h
  account := by
    intro i c call
    cases call

theorem Recorded.begin {w : World κ β} (recorded : Recorded w) {c : Call β}
    (unstarted : Unstarted c) : Recorded (w.begin c) where
  known := by
    intro e h
    change e ∈ .began w.calls.length :: w.history at h
    change e.call < (w.calls ++ [c]).length
    rw [List.length_append, List.length_singleton]
    obtain rfl | h := List.mem_cons.1 h
    · exact Nat.lt_succ_self _
    · exact Nat.lt_succ_of_lt (recorded.known e h)
  account := by
    refine w.all_begin ⟨occurs_nil.push rfl, ?_, ?_, ?_⟩ ?_
    · cases unstarted <;> nofun
    · cases unstarted <;> rintro t st ⟨⟩ <;> nofun
    · cases unstarted <;> rintro t st ⟨⟩ <;> nofun
    · intro i c' call
      exact (recorded.account i c' call).cons _

theorem Recorded.move {w : World κ β} (recorded : Recorded w) {i : Nat} {c₀ c : Call β}
    (call : w.call? i = some c₀) (s : Stores κ) {e : Happening} (own : e.call = i)
    (account : Account (e :: w.history) i c) : Recorded (w.move i c s e) where
  known := by
    intro e' h
    change e' ∈ e :: w.history at h
    change e'.call < (w.calls.set i c).length
    rw [List.length_set]
    obtain rfl | h := List.mem_cons.1 h
    · rw [own]
      exact w.lt_of_call? call
    · exact recorded.known e' h
  account := by
    refine w.all_move call account ?_
    intro j c' _ call'
    exact (recorded.account j c' call').cons e

theorem Recorded.vanish {w : World κ β} (recorded : Recorded w) (victim : Nat → Bool) :
    Recorded (w.vanish victim) where
  known := by
    intro e h
    change e.call < (w.calls.mapIdx _).length
    rw [List.length_mapIdx]
    exact recorded.known e h
  account := by
    refine w.all_vanish ?_ recorded.account
    intro i c _ call
    have account := recorded.account i c call
    exact ⟨account.began, account.inside, account.noted, account.ran⟩

section
variable [DecidableEq κ] {key : String → κ} {i : Nat} {t : Trigger} {s s' : Stores κ}
  {ok : Bool} {p : Trigger.Point} {e : Happening} {st : Trigger.State}

theorem isNoted_handOff (t : Trigger) (handoff : Trigger.Handoff)
    (noted : (t.handOff handoff).2.isNoted = true) : handoff = .lostWakeup := by
  rw [t.handOff_snd] at noted
  split at noted <;> cases handoff <;> first | rfl | cases noted

theorem hasRun_handOff (t : Trigger) :
    (t.handOff .lostWakeup).2.hasRun = false := by
  rw [t.handOff_snd]
  split <;> rfl

theorem Move.isNoted (m : Move key i t s ok p e st s') (noted : st.isNoted = true) :
    Trigger.State.isNoted (.at p) = true ∨ Noted i t.lock e := by
  cases m with
  | alreadyUp now up => exact .inr ⟨_, _, rfl⟩
  | created now down => exact .inr ⟨_, _, rfl⟩
  | refused | probed | left => exact .inl rfl
  | released ending | releaseFailed ending =>
    cases ending with
    | exhausted result cycles => cases isNoted_handOff t _ noted
    | _ => cases noted
  | recheckedUp cause up => cases isNoted_handOff t _ noted
  | published handoff | publishFailed handoff =>
    cases handoff with
    | lostWakeup => exact .inl rfl
    | _ => cases noted
  | _ => cases noted

theorem Move.hasRun (m : Move key i t s ok p e st s') (ran : st.hasRun = true) :
    Trigger.State.hasRun (.at p) = true := by
  cases m with
  | lookFailed | caughtUp | exhausted | again | released | releaseFailed | recheckFailed
  | recheckedDown | recheckedUp => rfl
  | left =>
    rw [hasRun_handOff] at ran
    cases ran
  | published handoff | publishFailed handoff =>
    cases handoff with
    | lostWakeup => cases ran
    | _ => rfl
  | _ => cases ran

theorem Recorded.step {w w' : World κ β} {a : Act β} (recorded : Recorded w)
    (step : Step key w a w') : Recorded w' := by
  cases step with
  | begin opens => exact recorded.begin opens.unstarted
  | @askTrigger i c t p v now call live work asks =>
    obtain ⟨e, st, s, m, asked⟩ := asked_of_trigger key w i c t v now asks
    have account := recorded.account i c call
    rw [asked]
    refine recorded.move call s ?_ ⟨account.began.cons e, ?_, ?_, ?_⟩
    · obtain ⟨reply, rfl⟩ := m.answered
      rfl
    · rintro inside t' st' ⟨⟩
      exact (account.inside inside t _ work).cons e
    · rintro t' st' ⟨⟩ noted
      obtain noted | new := m.isNoted noted
      · exact (account.noted t _ work noted).cons e
      · exact occurs_nil.push new
    · rintro t' st' ⟨⟩ ran
      exact (account.ran t _ work (m.hasRun ran)).cons e
  | @askSweep i c sw p v now call live work =>
    obtain ⟨e, st, s, m, asked⟩ := asked_of_sweep key w i c sw p v now
    have account := recorded.account i c call
    rw [asked]
    refine recorded.move call s ?_ ⟨account.began.cons e, ?_, ?_, ?_⟩
    · obtain ⟨reply, rfl⟩ := m.answered
      rfl
    · rintro inside t' st' ⟨⟩
    · rintro t' st' ⟨⟩
    · rintro t' st' ⟨⟩
  | @invoke i c t cycle call live work outside =>
    have account := recorded.account i c call
    refine recorded.move call _ rfl ⟨account.began.cons _, ?_, ?_, ?_⟩
    · intro _ t' st' work'
      cases work.symm.trans work'
      exact ⟨i, account.began.push rfl⟩
    · intro t' st' work' noted
      exact (account.noted t' st' work' noted).cons _
    · intro t' st' work' ran
      exact (account.ran t' st' work' ran).cons _
  | @finish i c t cycle result call live work inside =>
    have account := recorded.account i c call
    refine recorded.move call _ rfl ⟨account.began.cons _, nofun, ?_, ?_⟩
    · rintro t' st' ⟨⟩ noted
      cases result <;> cases noted
    · rintro t' st' ⟨⟩ -
      exact (account.inside inside t _ work).cons _
  | vanish dooms => exact recorded.vanish _
  | post => exact ⟨recorded.known, recorded.account⟩
  | archive call work message archives => exact ⟨recorded.known, recorded.account⟩

theorem recorded_of_reachable {allowed : Act β → World κ β → Prop} {flags : Memory.Flags}
    {w : World κ β} (reached : Reachable key allowed flags w) : Recorded w := by
  induction reached with
  | idle => exact recorded_idle flags
  | next reached a step ok ih => exact ih.step step

theorem Move.up_of_noted (m : Move key i t s ok p e st s') {j : Nat} {name : String}
    (noted : Noted j name e) : s'.flags.isRaised name = true := by
  obtain ⟨found, r, same⟩ := noted
  cases m with
  | alreadyUp now up =>
    cases same
    simp [Stores.raise]
  | created now down =>
    cases same
    simp [Stores.raise]
  | _ => cases same

theorem noted_step {w w' : World κ β} {a : Act β} (step : Step key w a w') {j : Nat}
    {name : String} {kind : Happening → Prop} (noting : ∀ e, kind e → Noted j name e)
    (occurs : Occurs [kind] w'.history) :
    Occurs [kind] w.history ∨ w'.stores.flags.isRaised name = true := by
  have answer : ∀ e, kind e → e.isAnswer = true := by
    intro e new
    obtain ⟨found, r, rfl⟩ := noting e new
    rfl
  cases step with
  | begin opens => exact .inl (occurs.of_cons fun new => nomatch answer _ new)
  | @askTrigger i c t p v now call live work asks =>
    obtain ⟨e, st, s, m, asked⟩ := asked_of_trigger key w i c t v now asks
    rw [asked] at occurs ⊢
    obtain ⟨new, -⟩ | old := occurs
    · exact .inr (m.up_of_noted (noting e new))
    · exact .inl old
  | @askSweep i c sw p v now call live work =>
    obtain ⟨e, st, s, m, asked⟩ := asked_of_sweep key w i c sw p v now
    rw [asked] at occurs
    refine .inl (occurs.of_cons fun new => ?_)
    obtain ⟨found, r, rfl⟩ := noting e new
    obtain ⟨reply, same⟩ := m.answered
    cases p <;> cases same
  | invoke | finish => exact .inl (occurs.of_cons fun new => nomatch answer _ new)
  | vanish dooms => exact .inl occurs
  | post => exact .inl occurs
  | archive => exact .inl occurs

end

structure Addressed (b : Memory.Broker) (c : Call β) : Prop where
  resubmission : ∀ t st, c.work = .trigger t st →
    t.resubmission.delivery.message.identity = t.identity
  message : ∀ t st number, c.work = .trigger t st → c.message = some number →
    ∃ d, b.deliveries[number]? = some d ∧ d.message.identity.lockName = t.lock

theorem Opens.addressed {w : World κ β} {a : Act β} {c : Call β} (opens : Opens w a c) :
    Addressed w.stores.broker c := by
  cases opens with
  | trigger built started =>
    obtain ⟨spec, -, rfl, -⟩ := Dispatcher.eq_of_trigger started
    refine ⟨?_, nofun⟩
    rintro t st ⟨⟩
    rfl
  | @handle process d fresh number delivery t events state built read started =>
    have identity := built.identity_of_trigger started
    obtain ⟨spec, -, rfl, -⟩ := Dispatcher.eq_of_trigger started
    refine ⟨?_, ?_⟩
    · rintro t st ⟨⟩
      rfl
    · rintro t st number' ⟨⟩ ⟨⟩
      unfold Stores.message? at read
      split at read
      · cases read
      · refine ⟨delivery, read, ?_⟩
        unfold Trigger.lock
        rw [identity]
        rfl
  | sweep built =>
    refine ⟨?_, ?_⟩
    · rintro t st ⟨⟩
    · rintro t st number ⟨⟩

theorem Addressed.of_kept {b b' : Memory.Broker} {c c' : Call β} (addressed : Addressed b c)
    (kept : b.deliveries <+: b'.deliveries) (message : c'.message = c.message)
    (work : ∀ t st', c'.work = .trigger t st' → ∃ st, c.work = .trigger t st) :
    Addressed b' c' where
  resubmission := by
    intro t st' work'
    obtain ⟨st, work⟩ := work t st' work'
    exact addressed.resubmission t st work
  message := by
    intro t st' number work' handles
    obtain ⟨st, work⟩ := work t st' work'
    obtain ⟨d, present, name⟩ := addressed.message t st number work (message.symm.trans handles)
    obtain ⟨more, added⟩ := kept
    refine ⟨d, ?_, name⟩
    rw [← added, List.getElem?_append_left (List.getElem?_eq_some_iff.1 present).1]
    exact present

def AllAddressed (w : World κ β) : Prop :=
  ∀ i c, w.call? i = some c → Addressed w.stores.broker c

theorem AllAddressed.move {w : World κ β} (all : AllAddressed w) {i : Nat} {c₀ c : Call β}
    (call : w.call? i = some c₀) {s : Stores κ} (e : Happening) (kept : w.stores.MessagesKept s)
    (message : c.message = c₀.message)
    (work : ∀ t st', c.work = .trigger t st' → ∃ st, c₀.work = .trigger t st) :
    AllAddressed (w.move i c s e) := by
  refine w.all_move call ?_ ?_
  · exact (all i c₀ call).of_kept kept.1 message work
  · intro j c' _ call'
    exact (all j c' call').of_kept kept.1 rfl fun t st work => ⟨st, work⟩

section
variable [DecidableEq κ] {key : String → κ}

theorem AllAddressed.step {w w' : World κ β} {a : Act β} (all : AllAddressed w)
    (step : Step key w a w') : AllAddressed w' := by
  cases step with
  | begin opens => exact w.all_begin opens.addressed all
  | @askTrigger i c t p v now call live work asks =>
    obtain ⟨e, st, s, m, asked⟩ := asked_of_trigger key w i c t v now asks
    rw [asked]
    refine all.move call e m.messages rfl ?_
    rintro t' st' ⟨⟩
    exact ⟨_, work⟩
  | @askSweep i c sw p v now call live work =>
    obtain ⟨e, st, s, m, asked⟩ := asked_of_sweep key w i c sw p v now
    rw [asked]
    refine all.move call e m.messages rfl ?_
    rintro t' st' ⟨⟩
  | @invoke i c t cycle call live work outside =>
    refine all.move call _ w.stores.messagesKept_refl rfl ?_
    intro t' st' work'
    exact ⟨st', work'⟩
  | @finish i c t cycle result call live work inside =>
    refine all.move call _ w.stores.messagesKept_refl rfl ?_
    rintro t' st' ⟨⟩
    exact ⟨_, work⟩
  | vanish dooms =>
    refine w.all_vanish ?_ all
    intro i c _ call
    exact (all i c call).of_kept (List.prefix_refl _) rfl fun t st work => ⟨st, work⟩
  | post =>
    intro i c call
    exact (all i c call).of_kept (List.prefix_append _ _) rfl fun t st work => ⟨st, work⟩
  | archive =>
    intro i c call
    exact (all i c call).of_kept (List.prefix_refl _) rfl fun t st work => ⟨st, work⟩

theorem addressed_of_reachable {allowed : Act β → World κ β → Prop} {flags : Memory.Flags}
    {w : World κ β} (reached : Reachable key allowed flags w) : AllAddressed w := by
  induction reached with
  | idle =>
    intro i c call
    cases call
  | next reached a step ok ih => exact ih.step step

end
end Interleaving
end Coalesce
