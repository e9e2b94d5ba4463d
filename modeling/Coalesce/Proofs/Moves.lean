import Coalesce.Proofs.Drive
import Coalesce.Proofs.Interleaving

/-! What one answered step of a trigger can come to, and what it means for the lock and the flag of
the trigger. -/
namespace Coalesce

namespace Interleaving

variable {κ β : Type}

inductive Unstarted : Call β → Prop where
  | refused {process message t e} :
      Unstarted (.ofWork process message (.trigger t (.done (.error e))))
  | acquiring {process message t} :
      Unstarted (.ofWork process message (.trigger t (.at .acquiring)))
  | raising {process message t} :
      Unstarted (.ofWork process message (.trigger t (.at .raising)))
  | listing {process sw} : Unstarted (.ofWork process none (.sweep sw (.at .listing)))

theorem unstarted_of_start (process : Nat) (message : Option Nat) (t : Trigger)
    (settings : Settings) (context : Context) (mode : Mode) :
    Unstarted (.ofWork process message
      (.trigger t (t.start settings context mode).2 : Work β)) := by
  obtain ⟨e, refused⟩ | acquiring | raising := t.start_snd settings context mode
  · rw [refused]
    exact .refused
  · rw [acquiring]
    exact .acquiring
  · rw [raising]
    exact .raising

theorem Opens.unstarted {w : World κ β} {a : Act β} {c : Call β} (opens : Opens w a c) :
    Unstarted c := by
  cases opens with
  | trigger built started =>
    obtain ⟨spec, -, -, rfl⟩ := Dispatcher.eq_of_trigger started
    exact unstarted_of_start ..
  | handle built read started =>
    obtain ⟨spec, -, -, rfl⟩ := Dispatcher.eq_of_trigger started
    exact unstarted_of_start ..
  | sweep built => exact .listing

variable [DecidableEq κ]

/-- The step leads from a point, over what has happened, to a state and to stores. Whether the
store answered comes first. -/
inductive Move (key : String → κ) (i : Nat) (t : Trigger) (s : Stores κ) :
    Bool → Trigger.Point → Happening → Trigger.State → Stores κ → Prop where
  | lockFailed (cause : Error) :
      Move key i t s false .acquiring (.answered i s.flags (.acquire t.lock) (.error cause))
        (.done (.error cause)) s
  | busy (held : s.isHeld (key t.lock) = true) :
      Move key i t s true .acquiring (.answered i s.flags (.acquire t.lock) (.ok false))
        (.at .raising) s
  | taken (free : s.isHeld (key t.lock) = false) :
      Move key i t s true .acquiring (.answered i s.flags (.acquire t.lock) (.ok true))
        (.at (.clearing 1)) (s.take (key t.lock) i)
  | raiseFailed (cause : Error) {s' : Stores κ} (after : s' = s ∨ ∃ now, s' = s.raise t.lock now) :
      Move key i t s false .raising (.answered i s.flags (.raise t.lock) (.error cause))
        (.done (.error cause)) s'
  | alreadyUp (now : Timestamp) (up : s.flags.isRaised t.lock = true) :
      Move key i t s true .raising (.answered i s.flags (.raise t.lock) (.ok .alreadyUp))
        (.done (.ok .coalesced)) (s.raise t.lock now)
  | created (now : Timestamp) (down : s.flags.isRaised t.lock = false) :
      Move key i t s true .raising (.answered i s.flags (.raise t.lock) (.ok .created))
        (.at .probing) (s.raise t.lock now)
  | probeFailed (cause : Error) :
      Move key i t s false .probing (.answered i s.flags (.acquire t.lock) (.error cause))
        (.done (.error cause)) s
  | refused (held : s.isHeld (key t.lock) = true) :
      Move key i t s true .probing (.answered i s.flags (.acquire t.lock) (.ok false))
        (.done (.ok .deferred)) s
  | probed (free : s.isHeld (key t.lock) = false) :
      Move key i t s true .probing (.answered i s.flags (.acquire t.lock) (.ok true))
        (.at .leaving) (s.take (key t.lock) i)
  | leaveFailed (cause : Error) :
      Move key i t s false .leaving (.answered i s.flags (.release t.lock) (.error cause))
        (.done (.error cause)) (s.free (key t.lock) i)
  | left :
      Move key i t s true .leaving (.answered i s.flags (.release t.lock) (.ok ()))
        (t.handOff .lostWakeup).2 (s.free (key t.lock) i)
  | clearFailed (cycle : Nat) (cause : Error) {s' : Stores κ}
      (after : s' = s ∨ s' = s.lower t.lock) :
      Move key i t s false (.clearing cycle) (.answered i s.flags (.lower t.lock) (.error cause))
        (.at (.running cycle)) s'
  | cleared (cycle : Nat) :
      Move key i t s true (.clearing cycle) (.answered i s.flags (.lower t.lock) (.ok ()))
        (.at (.running cycle)) (s.lower t.lock)
  | lookFailed (cycle : Nat) (result : Json) (cause : Error) :
      Move key i t s false (.checking cycle result)
        (.answered i s.flags (.isRaised t.lock) (.error cause))
        (.at (.releasing (.caughtUp result cycle))) s
  | caughtUp (cycle : Nat) (result : Json) (down : s.flags.isRaised t.lock = false) :
      Move key i t s true (.checking cycle result)
        (.answered i s.flags (.isRaised t.lock) (.ok false))
        (.at (.releasing (.caughtUp result cycle))) s
  | exhausted (cycle : Nat) (result : Json) (up : s.flags.isRaised t.lock = true)
      (last : t.bound ≤ cycle) :
      Move key i t s true (.checking cycle result)
        (.answered i s.flags (.isRaised t.lock) (.ok true))
        (.at (.releasing (.exhausted result cycle))) s
  | again (cycle : Nat) (result : Json) (up : s.flags.isRaised t.lock = true)
      (more : ¬t.bound ≤ cycle) :
      Move key i t s true (.checking cycle result)
        (.answered i s.flags (.isRaised t.lock) (.ok true)) (.at (.clearing (cycle + 1))) s
  | releaseFailed (ending : Trigger.Ending) (cause : Error) :
      Move key i t s false (.releasing ending)
        (.answered i s.flags (.release t.lock) (.error cause))
        (t.released ending).2 (s.free (key t.lock) i)
  | released (ending : Trigger.Ending) :
      Move key i t s true (.releasing ending) (.answered i s.flags (.release t.lock) (.ok ()))
        (t.released ending).2 (s.free (key t.lock) i)
  | recheckFailed (cause failure : Error) :
      Move key i t s false (.rechecking cause)
        (.answered i s.flags (.isRaised t.lock) (.error failure)) (.done (.error cause)) s
  | recheckedDown (cause : Error) (down : s.flags.isRaised t.lock = false) :
      Move key i t s true (.rechecking cause)
        (.answered i s.flags (.isRaised t.lock) (.ok false)) (.done (.error cause)) s
  | recheckedUp (cause : Error) (up : s.flags.isRaised t.lock = true) :
      Move key i t s true (.rechecking cause)
        (.answered i s.flags (.isRaised t.lock) (.ok true)) (t.handOff (.failed cause)).2 s
  | publishFailed (handoff : Trigger.Handoff) (cause : Error) {s' : Stores κ}
      (after : s' = s ∨ s' = s.post t.resubmission.delivery) :
      Move key i t s false (.publishing handoff)
        (.answered i s.flags (.publish t.resubmission.delivery) (.error cause))
        (t.handedOff handoff (.error cause)).2 s'
  | published (handoff : Trigger.Handoff) :
      Move key i t s true (.publishing handoff)
        (.answered i s.flags (.publish t.resubmission.delivery) (.ok ()))
        (t.handedOff handoff (.ok ())).2 (s.post t.resubmission.delivery)

theorem move_of_answer (key : String → κ) (i : Nat) (t : Trigger) (s : Stores κ) (v : Verdict)
    (now : Timestamp) {p : Trigger.Point} (asks : isRunning p = false) :
    Move key i t s v.isAnswered p
      (.answered i s.flags (p.request t) (s.answer key i now v (p.request t)).1)
      (t.resume p (s.answer key i now v (p.request t)).1).2
      (s.answer key i now v (p.request t)).2 := by
  cases p with
  | acquiring =>
    cases v with
    | failed cause effective => exact .lockFailed cause
    | answered =>
      cases held : s.isHeld (key t.lock) with
      | true => simpa [Trigger.Point.request, Stores.answer, held] using .busy held
      | false => simpa [Trigger.Point.request, Stores.answer, held] using .taken held
  | raising =>
    cases v with
    | failed cause effective =>
      cases effective with
      | true => exact .raiseFailed cause (.inr ⟨now, rfl⟩)
      | false => exact .raiseFailed cause (.inl rfl)
    | answered =>
      have found := Memory.Flags.raise_fst s.flags t.lock now
      cases up : s.flags.isRaised t.lock with
      | true =>
        rw [up, if_pos rfl] at found
        simpa [Trigger.Point.request, Stores.answer, Verdict.on, Verdict.reply,
          Verdict.isEffective, found] using .alreadyUp now up
      | false =>
        rw [up, if_neg Bool.false_ne_true] at found
        simpa [Trigger.Point.request, Stores.answer, Verdict.on, Verdict.reply,
          Verdict.isEffective, found] using .created now up
  | probing =>
    cases v with
    | failed cause effective => exact .probeFailed cause
    | answered =>
      cases held : s.isHeld (key t.lock) with
      | true => simpa [Trigger.Point.request, Stores.answer, held] using .refused held
      | false => simpa [Trigger.Point.request, Stores.answer, held] using .probed held
  | leaving =>
    cases v with
    | failed cause effective => exact .leaveFailed cause
    | answered => exact .left
  | clearing cycle =>
    cases v with
    | failed cause effective =>
      cases effective with
      | true => exact .clearFailed cycle cause (.inr rfl)
      | false => exact .clearFailed cycle cause (.inl rfl)
    | answered => exact .cleared cycle
  | running cycle => cases asks
  | checking cycle result =>
    cases v with
    | failed cause effective => cases effective <;> exact .lookFailed cycle result cause
    | answered =>
      cases up : s.flags.isRaised t.lock with
      | false =>
        simpa [Trigger.Point.request, Stores.answer, Verdict.on, Verdict.reply, up] using
          .caughtUp cycle result up
      | true =>
        by_cases last : t.bound ≤ cycle
        · simpa [Trigger.Point.request, Stores.answer, Verdict.on, Verdict.reply, up,
            Trigger.resume, last] using .exhausted cycle result up last
        · simpa [Trigger.Point.request, Stores.answer, Verdict.on, Verdict.reply, up,
            Trigger.resume, last] using .again cycle result up last
  | releasing ending =>
    cases v with
    | failed cause effective => exact .releaseFailed ending cause
    | answered => exact .released ending
  | rechecking cause =>
    cases v with
    | failed failure effective => cases effective <;> exact .recheckFailed cause failure
    | answered =>
      cases up : s.flags.isRaised t.lock with
      | false =>
        simpa [Trigger.Point.request, Stores.answer, Verdict.on, Verdict.reply, up] using
          .recheckedDown cause up
      | true =>
        simpa [Trigger.Point.request, Stores.answer, Verdict.on, Verdict.reply, up] using
          .recheckedUp cause up
  | publishing handoff =>
    cases v with
    | failed cause effective =>
      cases effective with
      | true => exact .publishFailed handoff cause (.inr rfl)
      | false => exact .publishFailed handoff cause (.inl rfl)
    | answered => exact .published handoff

/-- What a step does to the lock table: nothing, or the call gets a lock that is free, or it gives
its own back. -/
inductive Handover (key : String → κ) (i : Nat) (s s' : Stores κ) :
    Option String → Option String → Prop where
  | same {name} (locks : s'.locks = s.locks) : Handover key i s s' name name
  | gain {name} (free : s.isHeld (key name) = false)
      (locks : s'.locks = (key name, i) :: s.locks) : Handover key i s s' none (some name)
  | loss {name} (locks : s'.locks = s.locks.filter (· ≠ (key name, i))) :
      Handover key i s s' (some name) none

theorem lock?_of_isSettling (t : Trigger) {st : Trigger.State} (settling : st.isSettling = true) :
    (Work.trigger t st : Work β).lock? = none := by
  cases st with
  | done result => rfl
  | «at» p =>
    cases p with
    | rechecking | publishing => rfl
    | _ => cases settling

section
variable {key : String → κ} {i : Nat} {t : Trigger} {s s' : Stores κ} {ok : Bool}
  {p : Trigger.Point} {e : Happening} {st : Trigger.State}

theorem Move.handover (m : Move key i t s ok p e st s') :
    Handover key i s s' (Work.trigger t (.at p) : Work β).lock?
      (Work.trigger t st : Work β).lock? := by
  cases m with
  | taken free | probed free => exact .gain free rfl
  | raiseFailed cause after =>
    obtain rfl | ⟨now, rfl⟩ := after
    · exact .same rfl
    · exact .same rfl
  | leaveFailed => exact .loss rfl
  | left =>
    rw [lock?_of_isSettling t (t.isSettling_handOff _)]
    exact .loss rfl
  | clearFailed cycle cause after =>
    obtain rfl | rfl := after
    · exact .same rfl
    · exact .same rfl
  | released ending | releaseFailed ending =>
    rw [lock?_of_isSettling t (t.isSettling_released ending)]
    exact .loss rfl
  | recheckedUp =>
    rw [lock?_of_isSettling t (t.isSettling_handOff _)]
    exact .same rfl
  | publishFailed handoff cause after =>
    rw [lock?_of_isSettling t (t.isSettling_handedOff handoff _)]
    obtain rfl | rfl := after
    · exact .same rfl
    · exact .same rfl
  | published handoff =>
    rw [lock?_of_isSettling t (t.isSettling_handedOff handoff _)]
    exact .same rfl
  | _ => exact .same rfl

theorem Move.messages (m : Move key i t s ok p e st s') : s.MessagesKept s' := by
  cases m with
  | raiseFailed cause after =>
    obtain rfl | ⟨now, rfl⟩ := after
    · exact Stores.messagesKept_refl _
    · exact Stores.messagesKept_refl _
  | clearFailed cycle cause after =>
    obtain rfl | rfl := after
    · exact Stores.messagesKept_refl _
    · exact Stores.messagesKept_refl _
  | publishFailed handoff cause after =>
    obtain rfl | rfl := after
    · exact Stores.messagesKept_refl _
    · exact s.messagesKept_post _
  | published handoff => exact s.messagesKept_post _
  | _ => exact Stores.messagesKept_refl _

theorem Move.answered (m : Move key i t s ok p e st s') :
    ∃ reply, e = .answered i s.flags (p.request t) reply := by
  cases m <;> exact ⟨_, rfl⟩

theorem Move.flag_of_up (m : Move key i t s ok p e st s') {name : String}
    (up : s.flags.isRaised name = true) :
    s'.flags.isRaised name = true ∨
      name = t.lock ∧ ∃ cycle, p = .clearing cycle ∧ st = .at (.running cycle) := by
  cases m with
  | raiseFailed cause after =>
    obtain rfl | ⟨now, rfl⟩ := after
    · exact .inl up
    · left
      simp [Stores.raise, up]
  | alreadyUp | created =>
    left
    simp [Stores.raise, up]
  | clearFailed cycle cause after =>
    obtain rfl | rfl := after
    · exact .inl up
    · by_cases h : name = t.lock
      · exact .inr ⟨h, cycle, rfl, rfl⟩
      · left
        simp [Stores.lower, h, up]
  | cleared cycle =>
    by_cases h : name = t.lock
    · exact .inr ⟨h, cycle, rfl, rfl⟩
    · left
      simp [Stores.lower, h, up]
  | publishFailed handoff cause after =>
    obtain rfl | rfl := after
    · exact .inl up
    · exact .inl up
  | _ => exact .inl up

end

theorem asked_of_trigger (key : String → κ) (w : World κ β) (i : Nat) (c : Call β) (t : Trigger)
    (v : Verdict) (now : Timestamp) {p : Trigger.Point} (asks : isRunning p = false) :
    ∃ e st s, Move key i t w.stores v.isAnswered p e st s ∧
      w.askTrigger key i c t p v now = w.move i { c with work := .trigger t st } s e :=
  ⟨_, _, _, move_of_answer key i t w.stores v now asks, rfl⟩

theorem lock?_next (sw : Sweep β) (report : SweepReport) (rest : List Flag) :
    (Work.sweep sw (Sweep.next report rest).2).lock? = none := by
  obtain ⟨result, done⟩ | ⟨report', flag, rest', probing⟩ := Sweep.next_snd report rest
  · rw [done]
    rfl
  · rw [probing]
    rfl

theorem lock?_published (sw : Sweep β) (report : SweepReport) (flag : String) (rest : List Flag)
    (p : Publication) (reply : Except Error Unit) :
    (Work.sweep sw (Sweep.published report flag rest p reply).2).lock? = none := by
  cases reply <;> exact lock?_next sw _ _

theorem lock?_orphaned (sw : Sweep β) (report : SweepReport) (flag : String) (rest : List Flag) :
    (Work.sweep sw (sw.orphaned report flag rest).2).lock? = none := by
  unfold Sweep.orphaned
  split
  · exact lock?_next sw _ _
  · split
    · exact lock?_next sw _ _
    · simp only [Sweep.andThen]
      split
      · rfl
      · exact lock?_published sw _ _ _ _ _

structure SweepMove (key : String → κ) (i : Nat) (sw : Sweep β) (s : Stores κ) (p : Sweep.Point)
    (e : Happening) (st : Sweep.State) (s' : Stores κ) : Prop where
  handover : Handover key i s s' (Work.sweep sw (.at p)).lock? (Work.sweep sw st).lock?
  flags : s'.flags = s.flags
  messages : s.MessagesKept s'
  answered : ∃ reply, e = .answered i s.flags p.request reply

theorem sweep_handover (key : String → κ) (i : Nat) (sw : Sweep β) (s : Stores κ) (v : Verdict)
    (now : Timestamp) (p : Sweep.Point) :
    Handover key i s (s.answer key i now v p.request).2 (Work.sweep sw (.at p)).lock?
      (Work.sweep sw (sw.resume p (s.answer key i now v p.request).1).2).lock? := by
  cases p with
  | listing =>
    cases v with
    | failed cause effective => cases effective <;> exact .same rfl
    | answered =>
      change Handover key i s s none (Work.sweep sw (Sweep.next .empty s.flags.list).2).lock?
      rw [lock?_next]
      exact .same rfl
  | probing report flag rest =>
    cases v with
    | failed cause effective => exact .same rfl
    | answered =>
      cases held : s.isHeld (key flag) with
      | true =>
        simp only [Sweep.Point.request, Stores.answer, held, if_true]
        change Handover key i s s none (Work.sweep sw (Sweep.next _ rest).2).lock?
        rw [lock?_next]
        exact .same rfl
      | false => simpa [Sweep.Point.request, Stores.answer, held] using .gain held rfl
  | leaving report flag rest =>
    cases v with
    | failed cause effective => exact .loss rfl
    | answered =>
      change Handover key i s (s.free (key flag) i) (some flag)
        (Work.sweep sw (sw.orphaned report flag rest).2).lock?
      rw [lock?_orphaned]
      exact .loss rfl
  | publishing report flag rest p =>
    cases v with
    | failed cause effective =>
      change Handover key i s _ none
        (Work.sweep sw (Sweep.published report flag rest p (.error cause)).2).lock?
      rw [lock?_published]
      cases effective <;> exact .same rfl
    | answered =>
      change Handover key i s _ none
        (Work.sweep sw (Sweep.published report flag rest p (.ok ())).2).lock?
      rw [lock?_published]
      exact .same rfl

theorem sweep_flags (key : String → κ) (i : Nat) (s : Stores κ) (v : Verdict) (now : Timestamp)
    (p : Sweep.Point) : (s.answer key i now v p.request).2.flags = s.flags := by
  cases p with
  | listing | publishing =>
    cases v with
    | failed cause effective => cases effective <;> rfl
    | answered => rfl
  | probing report flag rest =>
    cases v with
    | failed cause effective => rfl
    | answered =>
      simp only [Sweep.Point.request, Stores.answer]
      split <;> rfl
  | leaving report flag rest => rfl

theorem sweep_messages (key : String → κ) (i : Nat) (s : Stores κ) (v : Verdict) (now : Timestamp)
    (p : Sweep.Point) : s.MessagesKept (s.answer key i now v p.request).2 := by
  cases p with
  | listing =>
    cases v with
    | failed cause effective => cases effective <;> exact s.messagesKept_refl
    | answered => exact s.messagesKept_refl
  | probing report flag rest =>
    cases v with
    | failed cause effective => exact s.messagesKept_refl
    | answered =>
      simp only [Sweep.Point.request, Stores.answer]
      split <;> exact s.messagesKept_refl
  | leaving report flag rest => exact s.messagesKept_refl
  | publishing report flag rest p =>
    cases v with
    | failed cause effective =>
      cases effective with
      | true => exact s.messagesKept_post p.delivery
      | false => exact s.messagesKept_refl
    | answered => exact s.messagesKept_post p.delivery

theorem asked_of_sweep (key : String → κ) (w : World κ β) (i : Nat) (c : Call β) (sw : Sweep β)
    (p : Sweep.Point) (v : Verdict) (now : Timestamp) :
    ∃ e st s, SweepMove key i sw w.stores p e st s ∧
      w.askSweep key i c sw p v now = w.move i { c with work := .sweep sw st } s e :=
  ⟨_, _, _,
    ⟨sweep_handover key i sw w.stores v now p, sweep_flags key i w.stores v now p,
      sweep_messages key i w.stores v now p, _, rfl⟩, rfl⟩

end Interleaving
end Coalesce
