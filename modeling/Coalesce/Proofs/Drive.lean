import Coalesce.Dispatch.Run

/-! Runs of triggers and sweeps, taken apart into steps. Events play no part here. -/
namespace Coalesce

variable {σ : Type} (b : Backend σ)

namespace Trigger

variable (t : Trigger)

theorem snd_drive_done (result : Except Error Outcome) (s : σ) :
    (t.drive b (.done result) s).2 = (result, s) := by
  rw [drive]

theorem snd_drive_at {p : Point} {s s' : σ} {reply : (p.request t).Reply}
    (answered : b.answer (p.request t) s = (reply, s')) :
    (t.drive b (.at p) s).2 = (t.drive b (t.resume p reply).2 s').2 := by
  rw [drive, answered]

theorem drive_keeps {P : State → σ → Prop}
    (step : ∀ p s, P (.at p) s →
      P (t.resume p (b.answer (p.request t) s).1).2 (b.answer (p.request t) s).2)
    {state : State} {s : σ} (holds : P state s) :
    P (.done (t.drive b state s).2.1) (t.drive b state s).2.2 := by
  induction state, s using drive.induct t b with
  | case1 s result =>
    rw [snd_drive_done]
    exact holds
  | case2 s p reply s' answered next _ _ _ _ ih =>
    have kept := step p s holds
    rw [answered] at kept
    rw [t.snd_drive_at b answered]
    exact ih kept

theorem start_snd (settings : Settings) (context : Context) (mode : Mode) :
    (∃ e, (t.start settings context mode).2 = .done (.error e)) ∨
      (t.start settings context mode).2 = .at .acquiring ∨
      (t.start settings context mode).2 = .at .raising := by
  unfold start
  split
  · exact .inl ⟨_, rfl⟩
  · cases mode
    · exact .inr (.inl rfl)
    · exact .inr (.inr rfl)

theorem resume_checking (cycle : Nat) (result : Json) :
    (t.resume (.checking cycle result) (.ok true)).2 =
      if t.bound ≤ cycle then .at (.releasing (.exhausted result cycle))
      else .at (.clearing (cycle + 1)) := by
  simp only [resume]
  split <;> rfl

/-- What is left once the lock is given back: nothing, another look at the flag, or a message. -/
def State.isSettling : State → Bool
  | .at (.rechecking _) | .at (.publishing _) | .done _ => true
  | _ => false

theorem isSettling_handedOff (handoff : Handoff) (reply : Except Error Unit) :
    (t.handedOff handoff reply).2.isSettling = true := by
  rw [handedOff_snd]
  rfl

theorem isSettling_handOff (handoff : Handoff) : (t.handOff handoff).2.isSettling = true := by
  rw [handOff_snd]
  split <;> rfl

theorem isSettling_released (ending : Ending) : (t.released ending).2.isSettling = true := by
  cases ending with
  | caughtUp | failed => rfl
  | exhausted result cycles => exact t.isSettling_handOff (.exhausted result cycles)

theorem handOff_of_delivered (delivered : t.resubmission.delivered = true) (handoff : Handoff) :
    (t.handOff handoff).2 = .at (.publishing handoff) := by
  rw [handOff_snd, if_pos delivered]

theorem released_of_exhausted (delivered : t.resubmission.delivered = true) (result : Json)
    (cycles : Nat) :
    (t.released (.exhausted result cycles)).2 = .at (.publishing (.exhausted result cycles)) :=
  t.handOff_of_delivered delivered (.exhausted result cycles)

end Trigger

namespace Sweep

variable {β : Type} (sw : Sweep β)

theorem snd_drive_done (result : Except Error SweepReport) (s : σ) :
    (sw.drive b (.done result) s).2 = (result, s) := by
  rw [drive]

theorem snd_drive_at {p : Point} {s s' : σ} {reply : p.request.Reply}
    (answered : b.answer p.request s = (reply, s')) :
    (sw.drive b (.at p) s).2 = (sw.drive b (sw.resume p reply).2 s').2 := by
  rw [drive, answered]

/-- A flag whose lock is free is told apart once the lock is given back. -/
theorem snd_drive_free {report : SweepReport} {flag : String} {rest : List Flag} {s s' s'' : σ}
    (taken : b.answer (.acquire flag) s = (.ok true, s'))
    (left : b.answer (.release flag) s' = (.ok (), s'')) :
    (sw.drive b (.at (.probing report flag rest)) s).2 =
      (sw.drive b (sw.orphaned report flag rest).2 s'').2 :=
  (sw.snd_drive_at b (p := .probing report flag rest) taken).trans
    (sw.snd_drive_at b (p := .leaving report flag rest) left)

theorem drive_keeps {P : State → σ → Prop}
    (step : ∀ p s, P (.at p) s →
      P (sw.resume p (b.answer p.request s).1).2 (b.answer p.request s).2)
    {state : State} {s : σ} (holds : P state s) :
    P (.done (sw.drive b state s).2.1) (sw.drive b state s).2.2 := by
  induction state, s using drive.induct sw b with
  | case1 s result =>
    rw [snd_drive_done]
    exact holds
  | case2 s p reply s' answered next _ _ _ _ ih =>
    have kept := step p s holds
    rw [answered] at kept
    rw [sw.snd_drive_at b answered]
    exact ih kept

theorem next_snd (report : SweepReport) (rest : List Flag) :
    (∃ result, (next report rest).2 = .done result) ∨
      ∃ report' flag rest', (next report rest).2 = .at (.probing report' flag rest') := by
  cases rest with
  | nil => exact .inl ⟨_, rfl⟩
  | cons flag rest => exact .inr ⟨_, _, _, rfl⟩

end Sweep

/-! What a sweep does about a flag whose lock is free. -/

namespace Dispatcher

variable {β : Type} {d : Dispatcher β}

variable (d) in
/-- What the name of a flag stands for, if it can be read and its task is registered. -/
def resolve? (name : String) : Option (Identity × Task β) :=
  match Identity.ofLockName name with
  | .error _ => none
  | .ok id => (d.registry.find? id.task).map fun task => (id, task)

theorem of_resolve? {name : String} {id : Identity} {task : Task β}
    (found : d.resolve? name = some (id, task)) :
    Identity.ofLockName name = .ok id ∧ d.registry.find? id.task = some task := by
  unfold resolve? at found
  cases read : Identity.ofLockName name with
  | error e =>
    rw [read] at found
    cases found
  | ok id' =>
    rw [read] at found
    obtain ⟨task', registered, same⟩ := Option.map_eq_some_iff.1 found
    cases same
    exact ⟨rfl, registered⟩

variable {fresh : Nat → String} {flag : String} (report : SweepReport) (rest : List Flag)

theorem orphaned_of_unresolved (unknown : d.resolve? flag = none) :
    ((d.sweep fresh).orphaned report flag rest).2 = (Sweep.unresolved report flag rest).2 := by
  unfold resolve? at unknown
  unfold Sweep.orphaned
  split
  · rfl
  · next id read =>
    have missing : (d.sweep fresh).registry.find? id.task = none := by
      rw [read] at unknown
      exact Option.map_eq_none_iff.1 unknown
    rw [missing]
    rfl

theorem orphaned_of_resolved {id : Identity} {task : Task β}
    (found : d.resolve? flag = some (id, task)) :
    let p := d.publisher.prepare (fresh report.scanned) task ⟨id.args, []⟩ .default
    ((d.sweep fresh).orphaned report flag rest).2 =
      if p.delivered then .at (.publishing report flag rest p)
      else (Sweep.published report flag rest p (.ok ())).2 := by
  obtain ⟨read, registered⟩ := of_resolve? found
  have known : (d.sweep fresh).registry.find? id.task = some task := registered
  intro p
  unfold Sweep.orphaned
  rw [read]
  dsimp only
  rw [known]
  change (if p.delivered then _ else _ : List Event × Sweep.State).2 = _
  split <;> rfl

end Dispatcher
end Coalesce
