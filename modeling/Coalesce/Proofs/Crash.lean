import Coalesce.Proofs.Outstanding

/-! What is left of a call when processes crash. The flag that it has noted and the messages in the
queues outlive any process. A holder clears the flag before it runs the task, so from then to the
end of the run only the message that it handles is there to bring the work back. -/
namespace Coalesce.Interleaving

variable {κ β : Type}

def World.RunsFor (w : World κ β) (i j : Nat) (name : String) : Prop :=
  ∃ c t cycle, w.call? j = some c ∧ c.gone = false ∧
    c.work = .trigger t (.at (.running cycle)) ∧ t.lock = name ∧
    (c.inside = true → Occurs [Invoked j name, Began i] w.history)

/-- Call `j` was given up before the end of a run for which it had cleared the flag that call `i`
had noted, and no message that it handles is in a queue. -/
def World.LostWith (w : World κ β) (i j : Nat) (name : String) : Prop :=
  ∃ c t cycle, w.call? j = some c ∧ c.gone = true ∧
    c.work = .trigger t (.at (.running cycle)) ∧ t.lock = name ∧
    Occurs [Cleared j name, Noted i name] w.history ∧
    ∀ number, c.message = some number → w.stores.message? number = none

theorem isNoted_of_not_ranLocally {o : Outcome} (left : o.ranLocally = false) :
    Trigger.State.isNoted (.done (.ok o)) = true := by
  cases o with
  | coalesced | deferred | resubmitted => rfl
  | completed | requeued => cases left

theorem queued_or_unhandled {w : World κ β} (all : AllAddressed w) {j : Nat} {c : Call β}
    {t : Trigger} {st : Trigger.State} (call : w.call? j = some c)
    (work : c.work = .trigger t st) :
    (∃ number d, w.stores.message? number = some d ∧ d.message.identity.lockName = t.lock) ∨
      ∀ number, c.message = some number → w.stores.message? number = none := by
  cases message : c.message with
  | none => exact .inr nofun
  | some number =>
    obtain ⟨d, present, name⟩ := (all j c call).message t st number work message
    by_cases archived : number ∈ w.stores.archived
    · right
      rintro number' ⟨⟩
      exact if_pos archived
    · exact .inl ⟨number, d, (if_neg archived).trans present, name⟩

variable [DecidableEq κ] {key : String → κ}

/-- Whatever crashes, work that a call has left to others is done by a run that began after the
call, or its flag is up, or a message for it is in a queue, or the holder of the lock is about to do
it or at it, or it went with a call that was given up in its run and handles no message in a
queue. -/
theorem accounted_of_returned {flags : Memory.Flags} {w : World κ β}
    (reached : Reachable key (fun _ _ => True) flags w) {i : Nat} {c : Call β} {t : Trigger}
    {o : Outcome} (call : w.call? i = some c) (work : c.work = .trigger t (.done (.ok o)))
    (left : o.ranLocally = false) :
    (∃ j, Occurs [Finished j t.lock, Invoked j t.lock, Began i] w.history) ∨
      w.stores.flags.isRaised t.lock = true ∨
      (∃ number d, w.stores.message? number = some d ∧
        d.message.identity.lockName = t.lock) ∨
      (∃ j, w.RunsFor i j t.lock ∧ ∀ k, (key t.lock, k) ∈ w.stores.locks ↔ k = j) ∨
      ∃ j, w.LostWith i j t.lock := by
  have account := (recorded_of_reachable reached).account i c call
  have noted := account.noted t _ work (isNoted_of_not_ranLocally left)
  cases pending_of_noted reached noted with
  | finished finished => exact .inl ⟨_, finished⟩
  | flagged up => exact .inr (.inl up)
  | @claimed j c' claims =>
    obtain ⟨t', cycle, running, same⟩ := claims.running
    cases gone : c'.gone with
    | false =>
      have sound := sound_of_reachable reached
      have own := sound.owned_of_running claims.call gone running
      rw [same] at own
      exact .inr (.inr (.inr (.inl ⟨j,
        ⟨c', t', cycle, claims.call, gone, running, same, claims.invoked⟩,
        sound.mem_locks_iff own⟩)))
    | true =>
      have all := addressed_of_reachable reached
      obtain queued | unhandled := queued_or_unhandled all claims.call running
      · rw [same] at queued
        exact .inr (.inr (.inl queued))
      · exact .inr (.inr (.inr (.inr ⟨j, c', t', cycle, claims.call, gone, running, same,
          claims.cleared, unhandled⟩)))

theorem reachable_crashed : ∃ w : World String Unit,
    Reachable id (fun _ _ => True) .empty w ∧
      (∃ c t, w.call? 1 = some c ∧ c.process = 1 ∧ c.gone = false ∧
        c.work = .trigger t (.done (.ok .deferred)) ∧ t.lock = "t") ∧
      w.calls.all (·.isOver) = true ∧ w.stores.flags.isRaised "t" = false ∧
      w.stores.broker.deliveries = [] ∧
      ∀ j, ¬Occurs [Invoked j "t", Began 1] w.history := by
  refine ⟨_, Reachable.idle
    |>.next (.trigger 0 single "" .autocommit .execute "t" ⟨[], []⟩)
      (.begin (.trigger single_built rfl)) trivial
    |>.next (.answer 0 .answered ⟨0, 0⟩) (.askTrigger rfl rfl rfl rfl) trivial
    |>.next (.answer 0 .answered ⟨0, 0⟩) (.askTrigger rfl rfl rfl rfl) trivial
    |>.next (.invoke 0) (.invoke rfl rfl rfl rfl) trivial
    |>.next (.trigger 1 single "" .autocommit .request "t" ⟨[], []⟩)
      (.begin (.trigger single_built rfl)) trivial
    |>.next (.answer 1 .answered ⟨0, 0⟩) (.askTrigger rfl rfl rfl rfl) trivial
    |>.next (.answer 1 .answered ⟨0, 0⟩) (.askTrigger rfl rfl rfl rfl) trivial
    |>.next (.finish 0 (.ok .null)) (.finish rfl rfl rfl rfl) trivial
    |>.next (.answer 0 .answered ⟨0, 0⟩) (.askTrigger rfl rfl rfl rfl) trivial
    |>.next (.answer 0 .answered ⟨0, 0⟩) (.askTrigger rfl rfl rfl rfl) trivial
    |>.next (.crash 0) (.vanish .crash) trivial,
    ⟨_, _, rfl, rfl, rfl, rfl, rfl⟩, rfl, rfl, rfl, ?_⟩
  intro j occurs
  -- the one run began before the second call
  have before := (((((occurs.of_cons nofun).of_cons nofun).of_cons nofun).of_cons nofun).of_cons
    nofun).of_cons nofun
  obtain ⟨-, began⟩ | older := before
  · have none := ((began.of_cons nofun).of_cons nofun).of_cons nofun
    cases none
  · have none := ((older.of_cons nofun).of_cons nofun).of_cons nofun
    cases none

theorem accounted_crashed : ∃ w : World String Unit,
    Reachable id (fun _ _ => True) .empty w ∧ w.stores.flags.isRaised "t" = false ∧
      ((∃ j, Occurs [Finished j "t", Invoked j "t", Began 1] w.history) ∨
        w.stores.flags.isRaised "t" = true ∨
        (∃ number d, w.stores.message? number = some d ∧
          d.message.identity.lockName = "t") ∨
        (∃ j, w.RunsFor 1 j "t" ∧ ∀ k, ("t", k) ∈ w.stores.locks ↔ k = j) ∨
        ∃ j, w.LostWith 1 j "t") := by
  obtain ⟨w, reached, ⟨c, t, call, -, -, work, lock⟩, -, down, -⟩ := reachable_crashed
  refine ⟨w, reached, down, ?_⟩
  rw [← lock]
  exact accounted_of_returned reached call work rfl

/-- So the flag can be lost with a crash of its holder, and neither a run nor a message is left. -/
theorem unaccounted_crashed : ∃ w : World String Unit,
    Reachable id (fun _ _ => True) .empty w ∧
      (∃ c t, w.call? 1 = some c ∧ c.process = 1 ∧ c.gone = false ∧
        c.work = .trigger t (.done (.ok .deferred)) ∧ t.lock = "t") ∧
      ¬((∃ j, Occurs [Finished j "t", Invoked j "t", Began 1] w.history) ∨
        w.stores.flags.isRaised "t" = true ∨
        (∃ number d, w.stores.message? number = some d ∧
          d.message.identity.lockName = "t") ∨
        ∃ j, w.RunsFor 1 j "t") := by
  obtain ⟨w, reached, returned, ended, down, unsent, unrun⟩ := reachable_crashed
  refine ⟨w, reached, returned, ?_⟩
  rintro (⟨j, finished⟩ | up | ⟨number, d, queued, -⟩ | ⟨j, c, t, cycle, call, live, running, -⟩)
  · exact unrun j finished.tail
  · exact absurd (down.symm.trans up) Bool.false_ne_true
  · unfold Stores.message? at queued
    rw [unsent] at queued
    split at queued <;> cases queued
  · have is_over := List.all_eq_true.1 ended c (List.mem_of_getElem? call)
    unfold Call.isOver at is_over
    rw [live, running] at is_over
    cases is_over

end Coalesce.Interleaving
