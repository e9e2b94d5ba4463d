import Coalesce.Dispatch.Call
import Coalesce.Proofs.Courses
import Coalesce.Proofs.Outstanding

/-! What failing steps come to. A call that is refused at its start touches nothing. The failure of
a step before the run of a task ends the call, and a flag that it has put up by then stays up. After
a run no failure takes the place of what the task came to. -/
namespace Coalesce

namespace EntryPoint

def context : EntryPoint → Context
  | .execute context _ _ => context
  | .delay context _ _ => context
  | .lazyDelay context _ _ => context
  | .handle _ => .autocommit
  | .runSweep context => context

def mode : EntryPoint → Mode
  | .lazyDelay .. => .request
  | _ => .execute

def task : EntryPoint → String
  | .execute _ task _ => task
  | .delay _ task _ => task
  | .lazyDelay _ task _ => task
  | .handle message => message.task
  | .runSweep _ => sweepTask

def input : EntryPoint → TaskInput
  | .execute _ _ input => input
  | .delay _ _ args => ⟨args, []⟩
  | .lazyDelay _ _ args => ⟨args, []⟩
  | .handle message => ⟨message.args, message.kwargs⟩
  | .runSweep _ => ⟨[], []⟩

end EntryPoint

namespace Trigger

variable {t : Trigger} {mode : Mode} {before after steps : List Answered}
  {result : Except Error Outcome} {e : Error}

def State.isLate : State → Bool
  | .at .probing | .at .leaving => true
  | st => st.isSettling

theorem isLate_of_isSettling {st : State} (settling : st.isSettling = true) :
    st.isLate = true := by
  cases st with
  | done => rfl
  | «at» p => cases p <;> first | rfl | exact settling

end Trigger

namespace Dispatcher

variable {β σ : Type} {d : Dispatcher β} {fresh : String} {entry : EntryPoint} (b : Backend σ)
  (s : σ)

end Dispatcher

namespace Interleaving

variable {κ β : Type}

def Late (w : World κ β) (i : Nat) (name : String) : Prop :=
  ∀ c, w.call? i = some c → Occurs [Created i name] w.history →
    ∃ t st, c.work = .trigger t st ∧ st.isLate = true

theorem Late.ne_of_early {w : World κ β} {i j : Nat} {name : String} (late : Late w i name)
    (created : Occurs [Created i name] w.history) {c : Call β} {t : Trigger} {p : Trigger.Point}
    (call : w.call? j = some c) (work : c.work = .trigger t (.at p))
    (early : Trigger.State.isLate (.at p) = false) : j ≠ i := by
  rintro rfl
  obtain ⟨t', st, work', late⟩ := late c call created
  cases work.symm.trans work'
  rw [early] at late
  cases late

variable [DecidableEq κ] {key : String → κ}

section
variable {i : Nat} {t : Trigger} {s s' : Stores κ} {ok : Bool} {p : Trigger.Point} {e : Happening}
  {st : Trigger.State}

theorem Move.isLate (m : Move key i t s ok p e st s')
    (late : Trigger.State.isLate (.at p) = true) : st.isLate = true := by
  cases m with
  | probeFailed | refused | probed | leaveFailed | recheckFailed | recheckedDown => rfl
  | left | recheckedUp => exact Trigger.isLate_of_isSettling (t.isSettling_handOff _)
  | published handoff | publishFailed handoff =>
    exact Trigger.isLate_of_isSettling (t.isSettling_handedOff handoff _)
  | _ => cases late

theorem Move.isLate_of_created (m : Move key i t s ok p e st s') {j : Nat} {name : String}
    (created : Created j name e) : st.isLate = true := by
  obtain ⟨found, same⟩ := created
  cases m with
  | created => rfl
  | _ => cases same

end

theorem Created.call {i : Nat} {name : String} {e : Happening} (created : Created i name e) :
    e.call = i := by
  obtain ⟨found, rfl⟩ := created
  rfl

theorem Late.step {w w' : World κ β} {a : Act β} {i : Nat} {name : String}
    (late : Late w i name) (recorded : Recorded w) (step : Step key w a w') : Late w' i name := by
  intro c' call' created
  cases step with
  | begin opens =>
    have old := created.of_cons (by rintro ⟨found, same⟩; cases same)
    rw [w.call?_begin] at call'
    split at call'
    · next new =>
      exact (recorded.not_occurs (fun e created => new ▸ Created.call created) old).elim
    · exact late c' call' old
  | @askTrigger j c t p v now call live work asks =>
    obtain ⟨e, st, s, m, asked⟩ := asked_of_trigger key w j c t v now asks
    rw [asked] at call' created
    rw [w.call?_move call] at call'
    obtain ⟨reply, same⟩ := m.answered
    split at call'
    · next self =>
      cases call'
      refine ⟨t, st, rfl, ?_⟩
      obtain ⟨new, -⟩ | old := created
      · exact m.isLate_of_created new
      · obtain ⟨t', st', work', late⟩ := late c (self ▸ call) old
        cases work.symm.trans work'
        exact m.isLate late
    · next other =>
      refine late c' call' (created.of_cons fun new => other ?_)
      rw [← Created.call new, same]
      rfl
  | @askSweep j c sw p v now call live work =>
    obtain ⟨e, st, s, m, asked⟩ := asked_of_sweep key w j c sw p v now
    rw [asked] at call' created
    rw [w.call?_move call] at call'
    obtain ⟨reply, same⟩ := m.answered
    have old : Occurs [Created i name] w.history := by
      refine created.of_cons ?_
      rintro ⟨found, new⟩
      rw [new] at same
      cases p <;> cases same
    split at call'
    · next self =>
      obtain ⟨t', st', work', -⟩ := late c (self ▸ call) old
      cases work.symm.trans work'
    · exact late c' call' old
  | @invoke j c t cycle call live work outside =>
    have old := created.of_cons (by rintro ⟨found, same⟩; cases same)
    have other : j ≠ i := late.ne_of_early old call work rfl
    have kept : (w.invoke j c t).call? i = w.call? i := by
      rw [World.invoke, w.call?_move call, if_neg other.symm]
    exact late c' (kept.symm.trans call') old
  | @finish j c t cycle result call live work inside =>
    have old := created.of_cons (by rintro ⟨found, same⟩; cases same)
    have other : j ≠ i := late.ne_of_early old call work rfl
    have kept : (w.finish j c t cycle result).call? i = w.call? i := by
      rw [World.finish, w.call?_move call, if_neg other.symm]
    exact late c' (kept.symm.trans call') old
  | @vanish a victim dooms =>
    rw [w.call?_vanish] at call'
    obtain ⟨c, call, rfl⟩ := Option.map_eq_some_iff.1 call'
    obtain ⟨t, st, work, late⟩ := late c call created
    split <;> exact ⟨t, st, work, late⟩
  | post => exact late c' call' created
  | archive => exact late c' call' created

theorem Step.history {w w' : World κ β} {a : Act β} (step : Step key w a w') :
    w.history <:+ w'.history := by
  cases step with
  | begin | askTrigger | askSweep | invoke | finish => exact List.suffix_cons _ _
  | vanish | post | archive => exact List.suffix_refl _

end Interleaving

section

end

end Coalesce
