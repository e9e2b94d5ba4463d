import Coalesce.Proofs.Exclusion
import Coalesce.Proofs.Records

/-! What becomes of a flag that a call has noted: it stays up until a call that has the lock claims
it for a run, and then that call runs the task, unless it is given up before. Steps on the stores
may fail, and tasks may fail or panic. While no process dies, no trigger is lost. -/
namespace Coalesce.Interleaving

variable {κ β : Type}

/-- Call `j` has cleared the flag since call `i` noted it. It is about to run the task, or inside of
it, or was so when it was given up. -/
structure Claims (w : World κ β) (i : Nat) (name : String) (j : Nat) (c : Call β) : Prop where
  call : w.call? j = some c
  running : ∃ t cycle, c.work = .trigger t (.at (.running cycle)) ∧ t.lock = name
  cleared : Occurs [Cleared j name, Noted i name] w.history
  invoked : c.inside = true → Occurs [Invoked j name, Began i] w.history

/-- How a flag that call `i` has noted is accounted for. -/
inductive Pending (w : World κ β) (i : Nat) (name : String) : Prop where
  | finished {j} (finished : Occurs [Finished j name, Invoked j name, Began i] w.history)
  | flagged (up : w.stores.flags.isRaised name = true)
  | claimed {j c} (claims : Claims w i name j c)

namespace Pending

variable {w : World κ β} {i : Nat} {name : String}

theorem begin (pending : Pending w i name) (c : Call β) : Pending (w.begin c) i name := by
  cases pending with
  | finished finished => exact .finished (finished.cons _)
  | flagged up => exact .flagged up
  | claimed claims =>
    refine .claimed ⟨?_, claims.running, claims.cleared.cons _,
      fun inside => (claims.invoked inside).cons _⟩
    rw [w.call?_begin, if_neg (Nat.ne_of_lt (w.lt_of_call? claims.call))]
    exact claims.call

theorem move (pending : Pending w i name) {j : Nat} {c₀ : Call β} (call : w.call? j = some c₀)
    {c : Call β} {s : Stores κ} {e : Happening}
    (flag : w.stores.flags.isRaised name = true → Pending (w.move j c s e) i name)
    (claim : Claims w i name j c₀ → Pending (w.move j c s e) i name) :
    Pending (w.move j c s e) i name := by
  cases pending with
  | finished finished => exact .finished (finished.cons e)
  | flagged up => exact flag up
  | @claimed k c' claims =>
    by_cases same : k = j
    · subst same
      cases call.symm.trans claims.call
      exact claim claims
    · refine .claimed ⟨?_, claims.running, claims.cleared.cons e,
        fun inside => (claims.invoked inside).cons e⟩
      rw [w.call?_move call, if_neg same]
      exact claims.call

theorem vanish (pending : Pending w i name) (victim : Nat → Bool) :
    Pending (w.vanish victim) i name := by
  cases pending with
  | finished finished => exact .finished finished
  | flagged up => exact .flagged up
  | @claimed k c claims =>
    have call := w.call?_vanish victim k
    rw [claims.call, Option.map_some] at call
    split at call
    · exact .claimed ⟨call, claims.running, claims.cleared, claims.invoked⟩
    · exact .claimed ⟨call, claims.running, claims.cleared, claims.invoked⟩

end Pending

section
variable [DecidableEq κ] {key : String → κ}

theorem Pending.step {w w' : World κ β} {a : Act β} {i : Nat} {name : String}
    (pending : Pending w i name) (sound : Sound key w) (began : Occurs [Began i] w.history)
    (noted : Occurs [Noted i name] w.history) (step : Step key w a w') : Pending w' i name := by
  cases step with
  | begin opens => exact pending.begin _
  | @askTrigger j c t p v now call live work asks =>
    obtain ⟨e, st, s, m, asked⟩ := asked_of_trigger key w j c t v now asks
    rw [asked]
    refine pending.move call ?_ ?_
    · intro up
      obtain up | ⟨rfl, cycle, rfl, rfl⟩ := m.flag_of_up up
      · exact .flagged up
      · -- the holder clears the flag, and so claims it
        have outside := sound.outside call work asks
        obtain ⟨reply, rfl⟩ := m.answered
        have moved := w.call?_move call { c with work := .trigger t (.at (.running cycle)) } s
          (.answered j w.stores.flags (.lower t.lock) reply) j
        rw [if_pos rfl] at moved
        refine .claimed ⟨moved, ⟨t, cycle, rfl, rfl⟩, noted.push ⟨_, reply, rfl⟩, ?_⟩
        intro inside
        rw [outside] at inside
        cases inside
    · intro claims
      obtain ⟨t', cycle, running, -⟩ := claims.running
      cases work.symm.trans running
      cases asks
  | @askSweep j c sw p v now call live work =>
    obtain ⟨e, st, s, m, asked⟩ := asked_of_sweep key w j c sw p v now
    rw [asked]
    refine pending.move call ?_ ?_
    · intro up
      rw [← m.flags] at up
      exact .flagged up
    · intro claims
      obtain ⟨t', cycle, running, -⟩ := claims.running
      cases work.symm.trans running
  | @invoke j c t cycle call live work outside =>
    refine pending.move call (fun up => .flagged up) ?_
    intro claims
    obtain ⟨t', cycle', running, rfl⟩ := claims.running
    cases work.symm.trans running
    have moved := w.call?_move call { c with inside := true } w.stores (.invoked j t.lock) j
    rw [if_pos rfl] at moved
    exact .claimed ⟨moved, ⟨t, cycle, work, rfl⟩, claims.cleared.cons _, fun _ => began.push rfl⟩
  | @finish j c t cycle result call live work inside =>
    refine pending.move call (fun up => .flagged up) ?_
    intro claims
    obtain ⟨t', cycle', running, rfl⟩ := claims.running
    cases work.symm.trans running
    exact .finished ((claims.invoked inside).push ⟨result, rfl⟩)
  | vanish dooms => exact pending.vanish _
  | post | archive =>
    cases pending with
    | finished finished => exact .finished finished
    | flagged up => exact .flagged up
    | claimed claims =>
      exact .claimed ⟨claims.call, claims.running, claims.cleared, claims.invoked⟩

theorem pending_of_noted {allowed : Act β → World κ β → Prop} {flags : Memory.Flags}
    {w : World κ β} (reached : Reachable key allowed flags w) {i : Nat} {name : String}
    (noted : Occurs [Noted i name] w.history) : Pending w i name := by
  induction reached with
  | idle => cases noted
  | next reached a step ok ih =>
    obtain noted | up := noted_step step (fun _ new => new) noted
    · obtain ⟨e, mem, found, r, rfl⟩ := occurs_singleton.1 noted
      have began := (recorded_of_reachable reached).began_of_mem mem
      exact (ih noted).step (sound_of_reachable reached) began noted step
    · exact .flagged up

end

/-- No call is given up, other than by a task that panics. -/
def CrashFree : Act β → World κ β → Prop
  | .drop _, _ => False
  | .crash _, _ => False
  | _, _ => True

/-- Call `j` has cleared the flag for a run that it has not yet begun. -/
def World.Ready (w : World κ β) (j : Nat) (name : String) : Prop :=
  ∃ c t cycle, w.call? j = some c ∧ c.gone = false ∧ c.inside = false ∧
    c.work = .trigger t (.at (.running cycle)) ∧ t.lock = name

theorem World.Ready.owned {key : String → κ} {w : World κ β} {j : Nat} {name : String}
    (ready : w.Ready j name) (sound : Sound key w) : (key name, j) ∈ w.stores.locks := by
  obtain ⟨c, t, cycle, call, live, -, work, rfl⟩ := ready
  exact sound.owned_of_running call live work

variable [DecidableEq κ] {key : String → κ}

theorem inside_of_gone {flags : Memory.Flags} {w : World κ β}
    (reached : Reachable key CrashFree flags w) :
    ∀ i c, w.call? i = some c → c.gone = true → c.inside = true := by
  induction reached with
  | idle =>
    intro i c call
    cases call
  | @next w w' reached a step ok ih =>
    cases step with
    | begin opens =>
      refine w.all_begin ?_ ih
      cases opens <;> nofun
    | askTrigger call live | askSweep call live | invoke call live | finish call live =>
      refine w.all_move call ?_ fun j c' _ => ih j c'
      intro gone
      exact absurd (live.symm.trans gone) Bool.false_ne_true
    | vanish dooms =>
      cases dooms with
      | @panic j c call live inside =>
        refine w.all_vanish ?_ ih
        intro i c' doomed call' _
        obtain rfl := beq_iff_eq.1 doomed
        cases call.symm.trans call'
        exact inside
      | drop | crash => cases ok
    | post => exact ih
    | archive => exact ih

/-- No trigger is lost. A call that has returned without an error, or with one but after its flag
was noted, is followed by a run, or its flag is up, or the one holder of the lock has cleared the
flag for a run that is about to begin. -/
theorem served_of_returned {flags : Memory.Flags} {w : World κ β}
    (reached : Reachable key CrashFree flags w) {i : Nat} {c : Call β} {t : Trigger}
    {result : Except Error Outcome} (call : w.call? i = some c)
    (work : c.work = .trigger t (.done result))
    (owed : (∃ o, result = .ok o) ∨ Occurs [Noted i t.lock] w.history) :
    Ran w.history i t.lock ∨ w.stores.flags.isRaised t.lock = true ∨
      ∃ j, w.Ready j t.lock ∧ ∀ k, (key t.lock, k) ∈ w.stores.locks ↔ k = j := by
  have noted_or_ran : Occurs [Noted i t.lock] w.history ∨ Ran w.history i t.lock := by
    obtain ⟨o, rfl⟩ | noted := owed
    · have account := (recorded_of_reachable reached).account i c call
      exact (Trigger.State.isNoted_or_hasRun o).imp (account.noted t _ work)
        (account.ran t _ work)
    · exact .inl noted
  obtain noted | ran := noted_or_ran
  · cases pending_of_noted reached noted with
    | finished finished => exact .inl ⟨_, finished.tail⟩
    | flagged up => exact .inr (.inl up)
    | @claimed j c' claims =>
      obtain ⟨t', cycle, running, same⟩ := claims.running
      cases inside : c'.inside with
      | true => exact .inl ⟨j, claims.invoked inside⟩
      | false =>
        have live : c'.gone = false := by
          cases gone : c'.gone with
          | false => rfl
          | true =>
            have was_inside := inside_of_gone reached j c' claims.call gone
            exact absurd (inside.symm.trans was_inside) Bool.false_ne_true
        have ready : w.Ready j t.lock := ⟨c', t', cycle, claims.call, live, inside, running, same⟩
        have sound := sound_of_reachable reached
        exact .inr (.inr ⟨j, ready, sound.mem_locks_iff (ready.owned sound)⟩)
  · exact .inl ran

theorem reachable_claimed : ∃ w : World String Unit,
    Reachable id CrashFree .empty w ∧ w.stores.flags.isRaised "t" = false ∧
      ∃ c t, w.call? 1 = some c ∧ c.work = .trigger t (.done (.ok .deferred)) ∧ t.lock = "t" := by
  refine ⟨_, Reachable.idle
    |>.next (.trigger 0 single "" .autocommit .execute "t" ⟨[], []⟩)
      (.begin (.trigger single_built rfl)) trivial
    |>.next (.answer 0 .answered ⟨0, 0⟩) (.askTrigger rfl rfl rfl rfl) trivial
    |>.next (.trigger 1 single "" .autocommit .request "t" ⟨[], []⟩)
      (.begin (.trigger single_built rfl)) trivial
    |>.next (.answer 1 .answered ⟨0, 0⟩) (.askTrigger rfl rfl rfl rfl) trivial
    |>.next (.answer 1 .answered ⟨0, 0⟩) (.askTrigger rfl rfl rfl rfl) trivial
    |>.next (.answer 0 .answered ⟨0, 0⟩) (.askTrigger rfl rfl rfl rfl) trivial,
    rfl, _, _, rfl, rfl, rfl⟩

theorem served_claimed : ∃ w : World String Unit,
    Reachable id CrashFree .empty w ∧ w.stores.flags.isRaised "t" = false ∧
      (Ran w.history 1 "t" ∨ w.stores.flags.isRaised "t" = true ∨
        ∃ j, w.Ready j "t" ∧ ∀ k, ("t", k) ∈ w.stores.locks ↔ k = j) := by
  obtain ⟨w, reached, down, c, t, call, work, lock⟩ := reachable_claimed
  refine ⟨w, reached, down, ?_⟩
  rw [← lock]
  exact served_of_returned reached call work (.inl ⟨_, rfl⟩)

end Coalesce.Interleaving
