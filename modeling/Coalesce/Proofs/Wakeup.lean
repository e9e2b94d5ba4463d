import Coalesce.Proofs.Exclusion
import Coalesce.Proofs.Records

/-! What becomes of a flag when nothing fails and nobody sweeps. The holder looks at the flag after
each run, and a call that has raised it looks whether there still is a holder. A flag that lands
between the last look of the holder and the release of the lock, and whose call finds the lock still
held, is left to the sweep; any other is followed by a message for it. -/
namespace Coalesce

namespace Trigger

def State.beforeRun : State → Bool
  | .at .acquiring => true
  | .at .raising => true
  | .at .probing => true
  | .at .leaving => true
  | _ => false

def State.beforeRelease : State → Bool
  | .at (.rechecking _) => false
  | .at (.publishing _) => false
  | .at _ => true
  | .done _ => false

variable (t : Trigger)

theorem beforeRelease_of_beforeRun {st : State} (before : st.beforeRun = true) :
    st.beforeRelease = true := by
  cases st with
  | done result => cases before
  | «at» p =>
    cases p with
    | rechecking | publishing => cases before
    | _ => rfl

theorem beforeRelease_of_isSettling {st : State} (settling : st.isSettling = true) :
    st.beforeRelease = false := by
  cases st with
  | done result => rfl
  | «at» p =>
    cases p with
    | rechecking | publishing => rfl
    | _ => cases settling

/-- Whether the trigger will see a flag that is up, or has seen it and will publish. -/
def Point.heeds : Point → Bool
  | .acquiring => false
  | .raising => false
  | .probing => false
  | .releasing (.caughtUp ..) => false
  | _ => true

end Trigger

namespace Interleaving

variable {κ β : Type}

def Act.isCalm : Act β → Bool
  | .answer _ v _ => v.isAnswered
  | .panic _ => false
  | .drop _ => false
  | .crash _ => false
  | _ => true

/-- Why a call may have given its lock back when the flag was up: it published for it, or the flag
landed after it had looked, or it looked again and the flag was gone. -/
def Excused (h : List Happening) (i : Nat) (name : String) : Prop :=
  Occurs [Published i name, Released i name true] h ∨
    Occurs [Released i name true, Landed name, Looked i name false] h ∨
    Occurs [Looked i name false, Released i name true] h

theorem Excused.cons {h : List Happening} {i : Nat} {name : String} (excused : Excused h i name)
    (e : Happening) : Excused (e :: h) i name := by
  obtain published | landed | gone := excused
  · exact .inl (published.cons e)
  · exact .inr (.inl (landed.cons e))
  · exact .inr (.inr (gone.cons e))

structure Watched (h : List Happening) (up : Bool) (i : Nat) (name : String)
    (st : Trigger.State) : Prop where
  unrun : st.beforeRun = true → ¬Occurs [Invoked i name] h
  unreleased : st.beforeRelease = true → ∀ up, ¬Occurs [Released i name up, Invoked i name] h
  looked : ∀ result cycles, st = .at (.releasing (.caughtUp result cycles)) →
    Occurs [Looked i name false] h ∧ (up = true → Occurs [Landed name, Looked i name false] h)
  returned : ∀ result, st = .done result →
    Occurs [Released i name true, Invoked i name] h → Excused h i name

theorem Watched.cons {h : List Happening} {up up' : Bool} {i : Nat} {name : String}
    {st : Trigger.State} (watched : Watched h up i name st) {e : Happening} (other : e.call ≠ i)
    (landed : up' = true → up = true ∨ Landed name e) : Watched (e :: h) up' i name st where
  unrun := by
    intro before occurs
    apply watched.unrun before
    apply occurs.of_cons
    rintro rfl
    exact other rfl
  unreleased := by
    intro before up occurs
    apply watched.unreleased before up
    apply occurs.of_cons
    rintro ⟨found, reply, rfl, -⟩
    exact other rfl
  looked := by
    intro result cycles at_end
    obtain ⟨looked, since⟩ := watched.looked result cycles at_end
    refine ⟨looked.cons e, ?_⟩
    intro is_up
    obtain was_up | landed := landed is_up
    · exact (since was_up).cons e
    · exact looked.push landed
  returned := by
    intro result done occurs
    refine (watched.returned result done (occurs.of_cons ?_)).cons e
    rintro ⟨found, reply, rfl, -⟩
    exact other rfl

theorem Watched.of_running {h : List Happening} {up : Bool} {i : Nat} {name : String}
    {cycle : Nat} (watched : Watched h up i name (.at (.running cycle))) {e : Happening}
    (other : ∀ up, ¬Released i name up e) {st : Trigger.State} (later : st.beforeRun = false)
    (more : ∀ result cycles, st ≠ .at (.releasing (.caughtUp result cycles)))
    (unfinished : ∀ result, st ≠ .done result) : Watched (e :: h) up i name st where
  unrun := by
    rw [later]
    nofun
  unreleased := by
    intro _ up occurs
    exact watched.unreleased rfl up (occurs.of_cons (other up))
  looked := by
    intro result cycles at_end
    exact absurd at_end (more result cycles)
  returned := by
    intro result done
    exact absurd done (unfinished result)

def AllWatched (w : World κ β) (name : String) : Prop :=
  ∀ i c, w.call? i = some c → ∀ t st, c.work = .trigger t st → t.lock = name →
    Watched w.history (w.stores.flags.isRaised name) i name st

theorem AllWatched.begin {w : World κ β} {name : String} (watched : AllWatched w name)
    (recorded : Recorded w) {c : Call β} (unstarted : Unstarted c) :
    AllWatched (w.begin c) name := by
  refine w.all_begin ?_ ?_
  · intro t st work _
    have unrun : ¬Occurs [Invoked w.calls.length name] (.began w.calls.length :: w.history) := by
      intro occurs
      refine recorded.not_occurs ?_ (occurs.of_cons nofun)
      rintro e rfl
      rfl
    refine ⟨fun _ => unrun, fun _ up occurs => unrun occurs.tail, ?_,
      fun result _ occurs => absurd occurs.tail unrun⟩
    intro result cycles at_end
    subst at_end
    cases unstarted <;> cases work
  · intro j c' call t st work same
    refine (watched j c' call t st work same).cons ?_ .inl
    exact Nat.ne_of_gt (w.lt_of_call? call)

def World.Stands (w : World κ β) (i : Nat) (name : String) (p : Trigger.Point) : Prop :=
  ∃ c t, w.call? i = some c ∧ c.work = .trigger t (.at p) ∧ t.lock = name

theorem World.Stands.begin {w : World κ β} {i : Nat} {name : String} {p : Trigger.Point}
    (stands : w.Stands i name p) (c : Call β) : (w.begin c).Stands i name p := by
  obtain ⟨c', t, call, work⟩ := stands
  refine ⟨c', t, ?_, work⟩
  rw [w.call?_begin, if_neg (Nat.ne_of_lt (w.lt_of_call? call))]
  exact call

theorem World.Stands.move {w : World κ β} {j : Nat} {name : String} {q : Trigger.Point}
    (stands : w.Stands j name q) {i : Nat} {c₀ : Call β} {t : Trigger} {p : Trigger.Point}
    (call : w.call? i = some c₀) (work : c₀.work = .trigger t (.at p)) (c : Call β)
    (s : Stores κ) (e : Happening) :
    (w.move i c s e).Stands j name q ∨ j = i ∧ q = p ∧ t.lock = name := by
  obtain ⟨c', t', call', work', lock⟩ := stands
  by_cases same : j = i
  · subst same
    rw [call] at call'
    cases call'
    cases work.symm.trans work'
    exact .inr ⟨rfl, rfl, lock⟩
  · refine .inl ⟨c', t', ?_, work', lock⟩
    rw [w.call?_move call, if_neg same]
    exact call'

theorem World.stands_move {w : World κ β} {i : Nat} {c₀ c : Call β} (call : w.call? i = some c₀)
    {t : Trigger} {p : Trigger.Point} (work : c.work = .trigger t (.at p)) (s : Stores κ)
    (e : Happening) : (w.move i c s e).Stands i t.lock p := by
  refine ⟨c, t, ?_, work, rfl⟩
  rw [w.call?_move call, if_pos rfl]

theorem World.Stands.not_done {w : World κ β} {i : Nat} {name : String} {p : Trigger.Point}
    (stands : w.Stands i name p) (done : ∀ c ∈ w.calls, c.work.isDone = true) : False := by
  obtain ⟨c, t, call, work, -⟩ := stands
  have := done c (List.mem_of_getElem? call)
  rw [work] at this
  cases this

/-- Who sees to a flag that call `i` put in, between `earlier` happenings and `later` ones. -/
inductive Owed (w : World κ β) (name : String) (i : Nat) (later earlier : List Happening) :
    Prop where
  | probing (stands : w.Stands i name .probing)
  | heeded {j p} (stands : w.Stands j name p) (heeds : p.heeds = true)
  | sent (sent : Occurs [Sent name] later)
  | leaving {j result cycles} (stands : w.Stands j name (.releasing (.caughtUp result cycles)))
      (refused : Occurs [Refused i name] later) (looked : Occurs [Looked j name false] earlier)
  | left {j} (released : Occurs [Released j name true, Refused i name] later)
      (looked : Occurs [Looked j name false] earlier)

theorem Owed.cons {w : World κ β} {name : String} {i : Nat} {later earlier : List Happening}
    (owed : Owed w name i later earlier) (e : Happening) : Owed w name i (e :: later) earlier := by
  cases owed with
  | probing stands => exact .probing stands
  | heeded stands heeds => exact .heeded stands heeds
  | sent sent => exact .sent (sent.cons e)
  | leaving stands refused looked => exact .leaving stands (refused.cons e) looked
  | left released looked => exact .left (released.cons e) looked

theorem Owed.of_stands {w w' : World κ β} {name : String} {i : Nat}
    {later earlier : List Happening} (owed : Owed w name i later earlier)
    (kept : ∀ j p, w.Stands j name p → w'.Stands j name p) : Owed w' name i later earlier := by
  cases owed with
  | probing stands => exact .probing (kept _ _ stands)
  | heeded stands heeds => exact .heeded (kept _ _ stands) heeds
  | sent sent => exact .sent sent
  | leaving stands refused looked => exact .leaving (kept _ _ stands) refused looked
  | left released looked => exact .left released looked

theorem Owed.move_running {w : World κ β} {name : String} {j : Nat}
    {later earlier : List Happening} (owed : Owed w name j later earlier) {i : Nat} {c : Call β}
    {t : Trigger} {cycle : Nat} {q : Trigger.Point} (call : w.call? i = some c)
    (work : c.work = .trigger t (.at (.running cycle))) {c' : Call β}
    (work' : c'.work = .trigger t (.at q)) (heeds : q.heeds = true) (e : Happening) :
    Owed (w.move i c' w.stores e) name j (e :: later) earlier := by
  cases owed with
  | probing stands =>
    obtain stands | ⟨-, probing, -⟩ := stands.move call work c' w.stores e
    · exact .probing stands
    · cases probing
  | heeded stands heeds' =>
    obtain stands | ⟨rfl, -, lock⟩ := stands.move call work c' w.stores e
    · exact .heeded stands heeds'
    · subst lock
      exact .heeded (World.stands_move call work' _ _) heeds
  | sent sent => exact .sent (sent.cons e)
  | leaving stands refused looked =>
    obtain stands | ⟨-, leaving, -⟩ := stands.move call work c' w.stores e
    · exact .leaving stands (refused.cons e) looked
    · cases leaving
  | left released looked => exact .left (released.cons e) looked

/-- The flag was last put in by call `i`, and every look since then found it. -/
structure Awaits (w : World κ β) (name : String) (i : Nat) (later earlier : List Happening) :
    Prop where
  history : ∃ e, Created i name e ∧ w.history = later ++ e :: earlier
  last : ∀ e ∈ later, ¬Landed name e
  seen : ∀ e ∈ later, ∀ j, ¬Looked j name false e
  owed : Owed w name i later earlier

theorem Awaits.looked {w : World κ β} {name : String} {i : Nat} {later earlier : List Happening}
    (awaits : Awaits w name i later earlier) {j : Nat}
    (looked : Occurs [Looked j name false] w.history) : Occurs [Looked j name false] earlier := by
  obtain ⟨e, ⟨found, rfl⟩, history⟩ := awaits.history
  obtain ⟨e', mem, found', rfl⟩ := occurs_singleton.1 looked
  rw [history] at mem
  obtain mem | mem := List.mem_append.1 mem
  · exact absurd ⟨found', rfl⟩ (awaits.seen _ mem j)
  · obtain same | mem := List.mem_cons.1 mem
    · cases same
    · exact occurs_singleton.2 ⟨_, mem, found', rfl⟩

theorem Awaits.cons {w w' : World κ β} {name : String} {j : Nat} {later earlier : List Happening}
    (awaits : Awaits w name j later earlier) {e : Happening} (history : w'.history = e :: w.history)
    (landed : ¬Landed name e) (seen : ∀ i, ¬Looked i name false e)
    (owed : Owed w' name j (e :: later) earlier) : Awaits w' name j (e :: later) earlier where
  history := by
    obtain ⟨e', created, split⟩ := awaits.history
    refine ⟨e', created, ?_⟩
    rw [history, split]
    rfl
  last := by
    intro e' mem
    obtain rfl | mem := List.mem_cons.1 mem
    · exact landed
    · exact awaits.last e' mem
  seen := by
    intro e' mem
    obtain rfl | mem := List.mem_cons.1 mem
    · exact seen
    · exact awaits.seen e' mem
  owed := owed

theorem Awaits.quiet {w w' : World κ β} {name : String} {j : Nat} {later earlier : List Happening}
    (awaits : Awaits w name j later earlier) {e : Happening} (history : w'.history = e :: w.history)
    (quiet : e.isAnswer = false) (owed : Owed w' name j (e :: later) earlier) :
    Awaits w' name j (e :: later) earlier := by
  apply awaits.cons history ?_ ?_ owed
  · rintro ⟨i, found, rfl⟩
    cases quiet
  · rintro i ⟨found, rfl⟩
    cases quiet

section
variable [DecidableEq κ] {key : String → κ} {i : Nat} {t : Trigger} {s s' : Stores κ}
  {p : Trigger.Point} {e : Happening} {st : Trigger.State}

theorem Move.beforeRelease (m : Move key i t s true p e st s')
    (before : st.beforeRelease = true) :
    Trigger.State.beforeRelease (.at p) = true ∧ ∀ name up, ¬Released i name up e := by
  cases m with
  | busy | taken | created | probed | cleared | caughtUp | exhausted | again =>
    refine ⟨rfl, ?_⟩
    rintro name up ⟨found, reply, same, -⟩
    cases same
  | left | recheckedUp =>
    rw [Trigger.beforeRelease_of_isSettling (t.isSettling_handOff _)] at before
    cases before
  | released ending =>
    rw [Trigger.beforeRelease_of_isSettling (t.isSettling_released ending)] at before
    cases before
  | published handoff =>
    rw [Trigger.beforeRelease_of_isSettling (t.isSettling_handedOff handoff _)] at before
    cases before
  | _ => cases before

theorem Move.beforeRun (m : Move key i t s true p e st s') (before : st.beforeRun = true) :
    Trigger.State.beforeRun (.at p) = true := by
  have unreleased := (m.beforeRelease (Trigger.beforeRelease_of_beforeRun before)).2 t.lock
  cases m with
  | busy | created | probed | left => rfl
  | released ending => exact absurd ⟨_, _, rfl, rfl⟩ (unreleased _)
  | recheckedUp =>
    have before := Trigger.beforeRelease_of_beforeRun before
    rw [Trigger.beforeRelease_of_isSettling (t.isSettling_handOff _)] at before
    cases before
  | published handoff =>
    have before := Trigger.beforeRelease_of_beforeRun before
    rw [Trigger.beforeRelease_of_isSettling (t.isSettling_handedOff handoff _)] at before
    cases before
  | _ => cases before

theorem Move.looked (m : Move key i t s true p e st s') {result : Json} {cycles : Nat}
    (at_end : st = .at (.releasing (.caughtUp result cycles))) :
    Looked i t.lock false e ∧ s'.flags.isRaised t.lock = false := by
  have before : st.beforeRelease = true := by
    rw [at_end]
    rfl
  cases m with
  | caughtUp cycle result down => exact ⟨⟨_, rfl⟩, down⟩
  | left | recheckedUp =>
    rw [Trigger.beforeRelease_of_isSettling (t.isSettling_handOff _)] at before
    cases before
  | released ending =>
    rw [Trigger.beforeRelease_of_isSettling (t.isSettling_released ending)] at before
    cases before
  | published handoff =>
    rw [Trigger.beforeRelease_of_isSettling (t.isSettling_handedOff handoff _)] at before
    cases before
  | _ => cases at_end

theorem Watched.move {h : List Happening}
    (watched : Watched h (s.flags.isRaised t.lock) i t.lock (.at p))
    (m : Move key i t s true p e st s') (delivered : t.resubmission.delivered = true)
    (addressed : t.resubmission.delivery.message.identity = t.identity) :
    Watched (e :: h) (s'.flags.isRaised t.lock) i t.lock st where
  unrun := by
    intro before occurs
    apply watched.unrun (m.beforeRun before)
    apply occurs.of_cons
    obtain ⟨reply, rfl⟩ := m.answered
    nofun
  unreleased := by
    intro before up occurs
    obtain ⟨before, other⟩ := m.beforeRelease before
    exact watched.unreleased before up (occurs.of_cons (other _ _))
  looked := by
    intro result cycles at_end
    obtain ⟨looked, down⟩ := m.looked at_end
    refine ⟨occurs_nil.push looked, ?_⟩
    rw [down]
    nofun
  returned := by
    intro result done occurs
    cases m with
    | alreadyUp | refused =>
      refine absurd (occurs.of_cons ?_) (watched.unreleased rfl true)
      rintro ⟨found, reply, same, -⟩
      cases same
    | left =>
      rw [t.handOff_of_delivered delivered] at done
      cases done
    | released ending =>
      cases ending with
      | caughtUp result cycles =>
        obtain ⟨⟨found, reply, same, up⟩, -⟩ | old := occurs
        · cases same
          have since := (watched.looked result cycles rfl).2 up
          exact .inr (.inl (since.push ⟨_, _, rfl, up⟩))
        · exact absurd old (watched.unreleased rfl true)
      | exhausted result cycles =>
        rw [t.released_of_exhausted delivered] at done
        cases done
      | failed cause => cases done
    | recheckedDown cause down =>
      have released : Occurs [Released i t.lock true] h := by
        refine (occurs.of_cons ?_).head
        rintro ⟨found, reply, same, -⟩
        cases same
      exact .inr (.inr (released.push ⟨_, rfl⟩))
    | recheckedUp cause up =>
      rw [t.handOff_of_delivered delivered] at done
      cases done
    | published handoff =>
      have released : Occurs [Released i t.lock true] h := by
        refine (occurs.of_cons ?_).head
        rintro ⟨found, reply, same, -⟩
        cases same
      refine .inl (released.push ⟨_, _, rfl, ?_⟩)
      rw [addressed]
      rfl
    | _ => cases done

theorem Move.landed (m : Move key i t s true p e st s') {name : String}
    (up : s'.flags.isRaised name = true) :
    s.flags.isRaised name = true ∨ Created i name e ∧ t.lock = name ∧ st = .at .probing := by
  cases m with
  | alreadyUp now up' =>
    simp only [Stores.raise, Memory.Flags.isRaised_raise, Bool.or_eq_true, beq_iff_eq] at up
    obtain rfl | up := up
    · exact .inl up'
    · exact .inl up
  | created now down =>
    simp only [Stores.raise, Memory.Flags.isRaised_raise, Bool.or_eq_true, beq_iff_eq] at up
    obtain rfl | up := up
    · exact .inr ⟨⟨_, rfl⟩, rfl, rfl⟩
    · exact .inl up
  | cleared cycle =>
    simp only [Stores.lower, Memory.Flags.isRaised_lower, Bool.and_eq_true] at up
    exact .inl up.2
  | _ => exact .inl up

def Call.fits (key : String → κ) (name : String) (c : Call β) : Bool :=
  match c.work with
  | .trigger t _ =>
    t.resubmission.delivered && (decide (t.lock = name) || decide (key t.lock ≠ key name))
  | .sweep .. => false

/-- Nothing fails and no call is given up, there are no sweeps, and every trigger publishes. -/
def Calm (key : String → κ) (name : String) (a : Act β) (w : World κ β) : Prop :=
  a.isCalm = true ∧ w.calls.all (·.fits key name) = true

theorem Call.fits_iff {name : String} {c : Call β} :
    c.fits key name = true ↔ ∃ t st, c.work = .trigger t st ∧
      t.resubmission.delivered = true ∧ (key t.lock = key name → t.lock = name) := by
  unfold Call.fits
  cases c.work with
  | trigger t st =>
    simp only [Bool.and_eq_true, Bool.or_eq_true, decide_eq_true_eq, Work.trigger.injEq]
    constructor
    · rintro ⟨delivered, same | other⟩
      · exact ⟨t, st, ⟨rfl, rfl⟩, delivered, fun _ => same⟩
      · exact ⟨t, st, ⟨rfl, rfl⟩, delivered, fun same => absurd same other⟩
    · rintro ⟨t', st', ⟨rfl, rfl⟩, delivered, only⟩
      exact ⟨delivered, (Classical.em (key t.lock = key name)).imp only id⟩
  | sweep sw st => simp

theorem fits_of_reachable {name : String} {flags : Memory.Flags} {w : World κ β}
    (reached : Reachable key (Calm key name) flags w) {i : Nat} {c : Call β}
    (call : w.call? i = some c) : c.fits key name = true := by
  cases reached with
  | idle => cases call
  | next reached a step ok => exact List.all_eq_true.1 ok.2 c (List.mem_of_getElem? call)

theorem AllWatched.step {w w' : World κ β} {a : Act β} {name : String}
    (watched : AllWatched w name) (recorded : Recorded w) (addressed : AllAddressed w)
    (step : Step key w a w') (fits : ∀ i c, w.call? i = some c → c.fits key name = true)
    (calm : a.isCalm = true) : AllWatched w' name := by
  cases step with
  | begin opens => exact watched.begin recorded opens.unstarted
  | @askTrigger i c t p v now call live work asks =>
    obtain ⟨e, st, s, m, asked⟩ := asked_of_trigger key w i c t v now asks
    have answered : v.isAnswered = true := calm
    rw [answered] at m
    rw [asked]
    refine w.all_move call ?_ ?_
    · rintro t' st' ⟨⟩ rfl
      obtain ⟨t', st', work', delivered, -⟩ := Call.fits_iff.1 (fits i c call)
      cases work.symm.trans work'
      exact (watched i c call t _ work rfl).move m delivered
        ((addressed i c call).resubmission t _ work)
    · intro j c' other call' t' st' work' same
      refine (watched j c' call' t' st' work' same).cons ?_ ?_
      · obtain ⟨reply, rfl⟩ := m.answered
        exact Ne.symm other
      · intro up
        obtain up | ⟨created, -⟩ := m.landed up
        · exact .inl up
        · exact .inr ⟨i, created⟩
  | @askSweep i c sw p v now call live work =>
    obtain ⟨t, st, work', -⟩ := Call.fits_iff.1 (fits i c call)
    cases work.symm.trans work'
  | @invoke i c t cycle call live work outside =>
    refine w.all_move call ?_ ?_
    · intro t' st' work' same
      cases work.symm.trans work'
      refine (watched i c call t _ work same).of_running ?_ rfl nofun nofun
      rintro up ⟨found, reply, not_given, -⟩
      cases not_given
    · intro j c' other call' t' st' work' same
      exact (watched j c' call' t' st' work' same).cons (Ne.symm other) .inl
  | @finish i c t cycle result call live work inside =>
    refine w.all_move call ?_ ?_
    · rintro t' st' ⟨⟩ same
      refine (watched i c call t _ work same).of_running ?_ ?_ ?_ ?_
      · rintro up ⟨found, reply, not_given, -⟩
        cases not_given
      · cases result <;> rfl
      · cases result <;> nofun
      · cases result <;> nofun
    · intro j c' other call' t' st' work' same
      exact (watched j c' call' t' st' work' same).cons (Ne.symm other) .inl
  | vanish dooms => cases dooms <;> cases calm
  | post => exact watched
  | archive call work message archives => exact watched

theorem holder_stands {w : World κ β} {name : String} (sound : Sound key w)
    (fits : ∀ i c, w.call? i = some c → c.fits key name = true)
    (held : w.stores.isHeld (key name) = true) :
    ∃ j q, w.Stands j name q ∧ q.holds = true := by
  obtain ⟨j, own⟩ := (w.stores.isHeld_iff _).1 held
  obtain ⟨name', lock, same⟩ := (sound.owned _ j).1 own
  obtain ⟨c, call, lock⟩ := Option.bind_eq_some_iff.1 lock
  obtain ⟨t, st, work, -, only⟩ := Call.fits_iff.1 (fits j c call)
  obtain ⟨q, rfl, holds, rfl⟩ := c.eq_of_lock? work lock
  exact ⟨j, q, ⟨c, t, call, work, only same⟩, holds⟩

theorem heeds_of_holds {q : Trigger.Point} (holds : q.holds = true) :
    q.heeds = true ∨ ∃ result cycles, q = .releasing (.caughtUp result cycles) := by
  cases q with
  | releasing ending =>
    cases ending with
    | caughtUp result cycles => exact .inr ⟨result, cycles, rfl⟩
    | _ => exact .inl rfl
  | acquiring | raising | probing | rechecking | publishing => cases holds
  | _ => exact .inl rfl

section
variable {w : World κ β} {c : Call β} (call : w.call? i = some c)
  (work : c.work = .trigger t (.at p)) (m : Move key i t w.stores true p e st s)
include call work m

theorem Move.heeds (delivered : t.resubmission.delivered = true)
    (addressed : t.resubmission.delivery.message.identity = t.identity)
    (up : w.stores.flags.isRaised t.lock = true) (up' : s.flags.isRaised t.lock = true)
    (heeds : p.heeds = true) :
    (∃ q, (w.move i { c with work := .trigger t st } s e).Stands i t.lock q ∧ q.heeds = true) ∨
      Published i t.lock e := by
  cases m with
  | left =>
    rw [t.handOff_of_delivered delivered]
    exact .inl ⟨_, World.stands_move call rfl _ _, rfl⟩
  | cleared cycle => simp [Stores.lower] at up'
  | caughtUp cycle result down | recheckedDown cause down =>
    rw [up] at down
    cases down
  | exhausted | again => exact .inl ⟨_, World.stands_move call rfl _ _, rfl⟩
  | released ending =>
    cases ending with
    | caughtUp result cycles => cases heeds
    | exhausted result cycles =>
      rw [t.released_of_exhausted delivered]
      exact .inl ⟨_, World.stands_move call rfl _ _, rfl⟩
    | failed cause => exact .inl ⟨_, World.stands_move call rfl _ _, rfl⟩
  | recheckedUp cause up =>
    rw [t.handOff_of_delivered delivered]
    exact .inl ⟨_, World.stands_move call rfl _ _, rfl⟩
  | published handoff =>
    refine .inr ⟨_, _, rfl, ?_⟩
    rw [addressed]
    rfl
  | _ => cases heeds

theorem Move.probed_owed {name : String} {later earlier : List Happening} (sound : Sound key w)
    (fits : ∀ i c, w.call? i = some c → c.fits key name = true) (lock : t.lock = name)
    (probing : p = .probing)
    (looked : ∀ j result cycles, w.Stands j name (.releasing (.caughtUp result cycles)) →
      Occurs [Looked j name false] earlier) :
    Owed (w.move i { c with work := .trigger t st } s e) name i (e :: later) earlier := by
  subst lock probing
  cases m with
  | refused held =>
    obtain ⟨j, q, stands, holds⟩ := holder_stands sound fits held
    obtain stands' | ⟨-, rfl, -⟩ := stands.move call work
      { c with work := .trigger t (.done (.ok .deferred)) } w.stores
      (.answered i w.stores.flags (.acquire t.lock) (.ok false))
    · obtain heeds | ⟨result, cycles, rfl⟩ := heeds_of_holds holds
      · exact .heeded stands' heeds
      · exact .leaving stands' (occurs_nil.push ⟨_, rfl⟩) (looked j result cycles stands)
    · cases holds
  | probed free => exact .heeded (World.stands_move call rfl _ _) rfl

theorem Owed.move {name : String} {j : Nat} {later earlier : List Happening}
    (owed : Owed w name j later earlier) (sound : Sound key w)
    (fits : ∀ i c, w.call? i = some c → c.fits key name = true)
    (addressed : t.resubmission.delivery.message.identity = t.identity)
    (up : w.stores.flags.isRaised name = true) (up' : s.flags.isRaised name = true)
    (looked : ∀ j result cycles, w.Stands j name (.releasing (.caughtUp result cycles)) →
      Occurs [Looked j name false] earlier) :
    Owed (w.move i { c with work := .trigger t st } s e) name j (e :: later) earlier := by
  have delivered : t.resubmission.delivered = true := by
    obtain ⟨t', st', work', delivered, -⟩ := Call.fits_iff.1 (fits i c call)
    cases work.symm.trans work'
    exact delivered
  cases owed with
  | probing stands =>
    obtain stands | ⟨rfl, probing, lock⟩ := stands.move call work _ s e
    · exact .probing stands
    · exact m.probed_owed call work sound fits lock probing.symm looked
  | heeded stands heeds =>
    obtain stands | ⟨rfl, rfl, rfl⟩ := stands.move call work _ s e
    · exact .heeded stands heeds
    · obtain ⟨q, stands, heeds⟩ | published := m.heeds call work delivered addressed up up' heeds
      · exact .heeded stands heeds
      · have sent : Sent t.lock e := ⟨_, published⟩
        exact .sent (occurs_nil.push sent)
  | sent sent => exact .sent (sent.cons e)
  | leaving stands refused looked =>
    obtain stands | ⟨rfl, rfl, rfl⟩ := stands.move call work _ s e
    · exact .leaving stands (refused.cons e) looked
    · cases m with
      | released ending => exact .left (refused.push ⟨_, _, rfl, up⟩) looked
  | left released looked => exact .left (released.cons e) looked

end

theorem Move.of_up (m : Move key i t s true p e st s') {name : String}
    (up : s.flags.isRaised name = true) : ¬Landed name e ∧ ∀ j, ¬Looked j name false e := by
  constructor
  · rintro ⟨j, found, same⟩
    cases m with
    | created now down =>
      cases same
      rw [up] at down
      cases down
    | _ => cases same
  · rintro j ⟨found, same⟩
    cases m with
    | caughtUp cycle result down | recheckedDown cause down =>
      cases same
      rw [up] at down
      cases down
    | _ => cases same

def Kept (w : World κ β) (name : String) : Prop :=
  w.stores.flags.isRaised name = true → ∃ j later earlier, Awaits w name j later earlier

theorem Kept.step {w w' : World κ β} {a : Act β} {name : String} (kept : Kept w name)
    (watched : AllWatched w name) (addressed : AllAddressed w) (sound : Sound key w)
    (step : Step key w a w') (fits : ∀ i c, w.call? i = some c → c.fits key name = true)
    (calm : a.isCalm = true) : Kept w' name := by
  intro up'
  cases step with
  | begin opens =>
    obtain ⟨j, later, earlier, awaits⟩ := kept up'
    refine ⟨j, _, earlier, awaits.quiet rfl rfl ?_⟩
    exact (awaits.owed.of_stands fun j p stands => stands.begin _).cons _
  | @askTrigger i c t p v now call live work asks =>
    obtain ⟨e, st, s, m, asked⟩ := asked_of_trigger key w i c t v now asks
    have answered : v.isAnswered = true := calm
    rw [answered] at m
    rw [asked] at up' ⊢
    obtain up | ⟨created, rfl, rfl⟩ := m.landed up'
    · obtain ⟨j, later, earlier, awaits⟩ := kept up
      obtain ⟨landed, seen⟩ := m.of_up up
      refine ⟨j, e :: later, earlier, awaits.cons rfl landed seen ?_⟩
      refine awaits.owed.move call work m sound fits
        ((addressed i c call).resubmission t _ work) up up' ?_
      rintro j' result cycles ⟨c', t', call', work', lock⟩
      exact awaits.looked ((watched j' c' call' t' _ work' lock).looked result cycles rfl).1
    · -- the flag is new, and the call that put it in has yet to probe the lock
      refine ⟨i, [], w.history, ⟨e, created, rfl⟩, nofun, nofun, ?_⟩
      exact .probing (World.stands_move call rfl _ _)
  | @askSweep i c sw p v now call live work =>
    obtain ⟨t, st, work', -⟩ := Call.fits_iff.1 (fits i c call)
    cases work.symm.trans work'
  | @invoke i c t cycle call live work outside =>
    obtain ⟨j, later, earlier, awaits⟩ := kept up'
    refine ⟨j, _, earlier, awaits.quiet rfl rfl ?_⟩
    have work' : ({ c with inside := true } : Call β).work = _ := work
    exact awaits.owed.move_running call work work' rfl _
  | @finish i c t cycle result call live work inside =>
    obtain ⟨j, later, earlier, awaits⟩ := kept up'
    refine ⟨j, _, earlier, awaits.quiet rfl rfl ?_⟩
    cases result with
    | error cause => exact awaits.owed.move_running call work rfl rfl _
    | ok value => exact awaits.owed.move_running call work rfl rfl _
  | vanish dooms => cases dooms <;> cases calm
  | post | archive =>
    obtain ⟨j, later, earlier, awaits⟩ := kept up'
    exact ⟨j, later, earlier, awaits.history, awaits.last, awaits.seen,
      awaits.owed.of_stands fun j p stands => stands⟩

theorem watched_of_reachable {name : String} {flags : Memory.Flags} {w : World κ β}
    (reached : Reachable key (Calm key name) flags w) : AllWatched w name := by
  induction reached with
  | idle =>
    intro i c call
    cases call
  | next reached a step ok ih =>
    exact ih.step (recorded_of_reachable reached) (addressed_of_reachable reached) step
      (fun i c => fits_of_reachable reached) ok.1

theorem kept_of_reachable {name : String} {flags : Memory.Flags} {w : World κ β}
    (down : flags.isRaised name = false) (reached : Reachable key (Calm key name) flags w) :
    Kept w name := by
  induction reached with
  | idle =>
    intro up
    exact absurd (down.symm.trans up) Bool.false_ne_true
  | next reached a step ok ih =>
    exact ih.step (watched_of_reachable reached) (addressed_of_reachable reached)
      (sound_of_reachable reached) step (fun i c => fits_of_reachable reached) ok.1

/-- A call that has returned and had given its lock back when the flag was up is excused. And if all
calls have returned and the flag is up, a message for it was sent since it was put in, unless the
call that put it in was refused the lock by one that gave it back later without another look. -/
theorem excused_and_sent {name : String} {flags : Memory.Flags} {w : World κ β}
    (down : flags.isRaised name = false) (reached : Reachable key (Calm key name) flags w) :
    (∀ i c t result, w.call? i = some c → c.work = .trigger t (.done result) → t.lock = name →
      Occurs [Released i name true, Invoked i name] w.history → Excused w.history i name) ∧
    ((∀ c ∈ w.calls, c.work.isDone = true) → w.stores.flags.isRaised name = true →
      ∃ i e later earlier, Created i name e ∧ w.history = later ++ e :: earlier ∧
        (∀ e' ∈ later, ¬Landed name e') ∧
        (Occurs [Sent name] later ∨
          ∃ j, Occurs [Released j name true, Refused i name] later ∧
            Occurs [Looked j name false] earlier)) := by
  constructor
  · intro i c t result call work lock
    exact (watched_of_reachable reached i c call t _ work lock).returned result rfl
  · intro done up
    obtain ⟨i, later, earlier, awaits⟩ := kept_of_reachable down reached up
    obtain ⟨e, created, history⟩ := awaits.history
    refine ⟨i, e, later, earlier, created, history, awaits.last, ?_⟩
    cases awaits.owed with
    | probing stands => exact (stands.not_done done).elim
    | heeded stands heeds => exact (stands.not_done done).elim
    | sent sent => exact .inl sent
    | leaving stands refused looked => exact (stands.not_done done).elim
    | left released looked => exact .inr ⟨_, released, looked⟩

theorem reachable_left_behind : ∃ w : World String Unit,
    Reachable id (Calm id "t") .empty w ∧ w.calls.all (·.work.isDone) = true ∧
      w.stores.flags.isRaised "t" = true ∧ w.stores.broker.deliveries = [] ∧
      (∃ c t result, w.call? 0 = some c ∧ c.work = .trigger t (.done result) ∧ t.lock = "t") ∧
      Occurs [Released 0 "t" true, Invoked 0 "t"] w.history := by
  refine ⟨_, Reachable.idle
    |>.next (.trigger 0 single "" .autocommit .execute "t" ⟨[], []⟩)
      (.begin (.trigger single_built rfl)) ⟨rfl, rfl⟩
    |>.next (.answer 0 .answered ⟨0, 0⟩) (.askTrigger rfl rfl rfl rfl) ⟨rfl, rfl⟩
    |>.next (.answer 0 .answered ⟨0, 0⟩) (.askTrigger rfl rfl rfl rfl) ⟨rfl, rfl⟩
    |>.next (.invoke 0) (.invoke rfl rfl rfl rfl) ⟨rfl, rfl⟩
    |>.next (.finish 0 (.ok .null)) (.finish rfl rfl rfl rfl) ⟨rfl, rfl⟩
    |>.next (.answer 0 .answered ⟨0, 0⟩) (.askTrigger rfl rfl rfl rfl) ⟨rfl, rfl⟩
    |>.next (.trigger 1 single "" .autocommit .request "t" ⟨[], []⟩)
      (.begin (.trigger single_built rfl)) ⟨rfl, rfl⟩
    |>.next (.answer 1 .answered ⟨0, 0⟩) (.askTrigger rfl rfl rfl rfl) ⟨rfl, rfl⟩
    |>.next (.answer 1 .answered ⟨0, 0⟩) (.askTrigger rfl rfl rfl rfl) ⟨rfl, rfl⟩
    |>.next (.answer 0 .answered ⟨0, 0⟩) (.askTrigger rfl rfl rfl rfl) ⟨rfl, rfl⟩,
    rfl, rfl, rfl, ⟨_, _, _, rfl, rfl, rfl⟩, ?_⟩
  exact Or.inl ⟨⟨_, _, rfl, rfl⟩,
    Or.inr (Or.inr (Or.inr (Or.inr (Or.inr (Or.inl ⟨rfl, occurs_nil⟩)))))⟩

theorem excused_and_sent_left_behind : ∃ w : World String Unit,
    Memory.Flags.empty.isRaised "t" = false ∧ Reachable id (Calm id "t") .empty w ∧
      Excused w.history 0 "t" ∧
      ∃ i e later earlier, Created i "t" e ∧ w.history = later ++ e :: earlier ∧
        (∀ e' ∈ later, ¬Landed "t" e') ∧
        (Occurs [Sent "t"] later ∨
          ∃ j, Occurs [Released j "t" true, Refused i "t"] later ∧
            Occurs [Looked j "t" false] earlier) := by
  obtain ⟨w, reached, done, up, -, ⟨c, t, result, call, work, lock⟩, released⟩ :=
    reachable_left_behind
  obtain ⟨excused, sent⟩ := excused_and_sent rfl reached
  exact ⟨w, rfl, reached, excused 0 c t result call work lock released,
    sent (List.all_eq_true.1 done) up⟩

/-- So a flag can be up when all calls have returned and no message was ever sent, though the holder
gave its lock back when the flag was up. -/
theorem unsent_left_behind : ∃ w : World String Unit,
    Reachable id (Calm id "t") .empty w ∧ (∀ c ∈ w.calls, c.work.isDone = true) ∧
      w.stores.flags.isRaised "t" = true ∧ Occurs [Released 0 "t" true, Invoked 0 "t"] w.history ∧
      w.stores.broker.deliveries = [] := by
  obtain ⟨w, reached, done, up, unsent, -, released⟩ := reachable_left_behind
  exact ⟨w, reached, List.all_eq_true.1 done, up, released, unsent⟩

end
end Interleaving
end Coalesce
