import Coalesce.Proofs.Drive

/-! The steps that a call takes, in order and each with its answer. They are what a backend records
that answers as before, so a trace belongs to the run itself. -/
namespace Coalesce

structure Answered where
  request : Request
  reply : request.Reply

variable {σ : Type} (b : Backend σ)

/-- The answers stay the same, and each is written down. -/
def Backend.recorded : Backend (σ × List Answered) where
  answer r s :=
    let (reply, next) := b.answer r s.1
    (reply, (next, s.2 ++ [⟨r, reply⟩]))

variable {b} in
theorem Backend.answer_recorded {r : Request} {reply : r.Reply} {s s' : σ}
    (answered : b.answer r s = (reply, s')) (past : List Answered) :
    b.recorded.answer r (s, past) = (reply, (s', past ++ [⟨r, reply⟩])) := by
  simp only [recorded, answered]

/-- Each step was answered by the backend, in the state that the one before left it in. -/
inductive Backend.Answers : σ → List Answered → σ → Prop where
  | none (s : σ) : Answers s [] s
  | next {r : Request} {reply : r.Reply} {s s' last : σ} {steps : List Answered}
      (answered : b.answer r s = (reply, s')) (rest : Answers s' steps last) :
      Answers s (⟨r, reply⟩ :: steps) last

namespace Trigger

variable (t : Trigger)

def trace (state : State) (s : σ) : List Answered :=
  (t.drive b.recorded state (s, [])).2.2.2

theorem drive_recorded (state : State) (s : σ) (past : List Answered) :
    t.drive b.recorded state (s, past) =
      ((t.drive b state s).1, (t.drive b state s).2.1, (t.drive b state s).2.2,
        past ++ t.trace b state s) := by
  unfold trace
  induction state, s using drive.induct t b generalizing past with
  | case1 s result => simp [drive]
  | case2 s p reply s' answered next _ _ _ _ ih =>
    rw [drive, drive, Backend.answer_recorded answered past, answered]
    dsimp only
    rw [ih, t.snd_drive_at _ (Backend.answer_recorded answered []), ih ([] ++ _)]
    simp [next]

theorem snd_drive_recorded (state : State) (s : σ) (past : List Answered) :
    (t.drive b.recorded state (s, past)).2 =
      ((t.drive b state s).2.1, (t.drive b state s).2.2, past ++ t.trace b state s) := by
  rw [drive_recorded]

@[simp] theorem trace_done (result : Except Error Outcome) (s : σ) :
    t.trace b (.done result) s = [] := by
  rw [trace, snd_drive_done]

theorem trace_at {p : Point} {s s' : σ} {reply : (p.request t).Reply}
    (answered : b.answer (p.request t) s = (reply, s')) :
    t.trace b (.at p) s = ⟨p.request t, reply⟩ :: t.trace b (t.resume p reply).2 s' := by
  rw [trace, t.snd_drive_at _ (Backend.answer_recorded answered []), snd_drive_recorded]
  rfl

/-- The steps by which a run comes from one place to another. -/
inductive Passes : State → σ → List Answered → State → σ → Prop where
  | here (state : State) (s : σ) : Passes state s [] state s
  | step {p : Point} {s s' s'' : σ} {reply : (p.request t).Reply} {steps : List Answered}
      {last : State} (answered : b.answer (p.request t) s = (reply, s'))
      (rest : Passes (t.resume p reply).2 s' steps last s'') :
      Passes (.at p) s (⟨p.request t, reply⟩ :: steps) last s''

variable {t b} {state next last : State} {s s' s'' : σ} {steps more : List Answered}

theorem Passes.trans (first : Passes b t state s steps next s')
    (second : Passes b t next s' more last s'') : Passes b t state s (steps ++ more) last s'' := by
  induction first with
  | here => exact second
  | step answered _ ih => exact .step answered (ih second)

theorem Passes.drive (passes : Passes b t state s steps last s') :
    (t.drive b state s).2 = (t.drive b last s').2 ∧
      t.trace b state s = steps ++ t.trace b last s' := by
  induction passes with
  | here => exact ⟨rfl, rfl⟩
  | step answered _ ih =>
    rw [t.snd_drive_at b answered, t.trace_at b answered, List.cons_append, ih.2]
    exact ⟨ih.1, rfl⟩

theorem Passes.keeps {P : State → Prop}
    (step : ∀ {p reply sent st}, t.Next p reply sent st → P (.at p) → P st)
    (passes : Passes b t state s steps last s') (holds : P state) : P last := by
  induction passes with
  | here => exact holds
  | @step p s s' s'' reply _ _ _ _ ih =>
    obtain ⟨sent, next, -⟩ := t.follows_resume p reply
    exact ih (step next holds)

variable (t) in
/-- The steps by which a call can come from a place to its end, and what it returns. Any answer may
come, so nothing is left here of the backend. -/
inductive Runs : State → List Answered → Except Error Outcome → Prop where
  | done (result : Except Error Outcome) : Runs (.done result) [] result
  | step {p : Point} {reply : (p.request t).Reply} {sent : Option Handoff} {st : State}
      {steps : List Answered} {result : Except Error Outcome} (next : t.Next p reply sent st)
      (rest : Runs st steps result) : Runs (.at p) (⟨p.request t, reply⟩ :: steps) result

variable (t b) in
theorem runs_drive (state : State) (s : σ) :
    t.Runs state (t.trace b state s) (t.drive b state s).2.1 := by
  induction state, s using drive.induct t b with
  | case1 s result =>
    rw [trace_done, snd_drive_done]
    exact .done result
  | case2 s p reply s' answered _ _ _ _ _ ih =>
    obtain ⟨sent, next, -⟩ := t.follows_resume p reply
    rw [t.trace_at b answered, t.snd_drive_at b answered]
    exact .step next ih

section
variable {result returned : Except Error Outcome} {p : Point}

theorem Runs.of_done (runs : t.Runs (.done returned) steps result) :
    steps = [] ∧ result = returned := by
  cases runs
  exact ⟨rfl, rfl⟩

theorem Runs.of_at (runs : t.Runs (.at p) steps result) :
    ∃ reply sent st rest, steps = ⟨p.request t, reply⟩ :: rest ∧ t.Next p reply sent st ∧
      t.Runs st rest result := by
  cases runs with
  | step next rest => exact ⟨_, _, _, _, rfl, next, rest⟩

end

end Trigger

namespace Sweep

variable {β : Type} (sw : Sweep β)

def trace (state : State) (s : σ) : List Answered :=
  (sw.drive b.recorded state (s, [])).2.2.2

theorem snd_drive_recorded (state : State) (s : σ) (past : List Answered) :
    (sw.drive b.recorded state (s, past)).2 =
      ((sw.drive b state s).2.1, (sw.drive b state s).2.2, past ++ sw.trace b state s) := by
  unfold trace
  induction state, s using drive.induct sw b generalizing past with
  | case1 s result => simp [snd_drive_done]
  | case2 s p reply s' answered next _ _ _ _ ih =>
    rw [sw.snd_drive_at _ (Backend.answer_recorded answered past),
      sw.snd_drive_at _ (Backend.answer_recorded answered []), sw.snd_drive_at b answered, ih,
      ih ([] ++ _)]
    simp [next]

@[simp] theorem trace_done (result : Except Error SweepReport) (s : σ) :
    sw.trace b (.done result) s = [] := by
  rw [trace, snd_drive_done]

theorem trace_at {p : Point} {s s' : σ} {reply : p.request.Reply}
    (answered : b.answer p.request s = (reply, s')) :
    sw.trace b (.at p) s = ⟨p.request, reply⟩ :: sw.trace b (sw.resume p reply).2 s' := by
  rw [trace, sw.snd_drive_at _ (Backend.answer_recorded answered []), snd_drive_recorded]
  rfl

inductive Runs : State → List Answered → Except Error SweepReport → Prop where
  | done (result : Except Error SweepReport) : Runs (.done result) [] result
  | step {p : Point} {reply : p.request.Reply} {steps : List Answered}
      {result : Except Error SweepReport} (rest : Runs (sw.resume p reply).2 steps result) :
      Runs (.at p) (⟨p.request, reply⟩ :: steps) result

theorem runs_drive (state : State) (s : σ) :
    sw.Runs state (sw.trace b state s) (sw.drive b state s).2.1 := by
  induction state, s using drive.induct sw b with
  | case1 s result =>
    rw [trace_done, snd_drive_done]
    exact .done result
  | case2 s p reply s' answered next _ _ _ _ ih =>
    rw [sw.trace_at b answered, sw.snd_drive_at b answered]
    exact .step ih

variable {sw} {steps : List Answered} {result : Except Error SweepReport}

theorem Runs.of_done {returned : Except Error SweepReport}
    (runs : sw.Runs (.done returned) steps result) : steps = [] ∧ result = returned := by
  cases runs
  exact ⟨rfl, rfl⟩

theorem Runs.of_at {p : Point} (runs : sw.Runs (.at p) steps result) :
    ∃ reply rest, steps = ⟨p.request, reply⟩ :: rest ∧
      sw.Runs (sw.resume p reply).2 rest result := by
  cases runs with
  | step rest => exact ⟨_, _, rfl, rest⟩

end Sweep
end Coalesce
