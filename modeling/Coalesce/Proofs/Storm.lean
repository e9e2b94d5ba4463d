import Mathlib.Data.Bool.Basic
import Coalesce.Proofs.Exclusion

/-! Storms of triggers. However many calls trigger a task at once, few rows are put in for its flag,
a lost wakeup is paid for by the row of the call that resubmits, and every run has a trigger of its
own: the first run of a call is its own, and each further one takes the row that another trigger put
in instead of running. -/
namespace Coalesce

namespace Interleaving.Happening

def lands (name : String) : Happening → Bool
  | .answered _ _ (.raise flag) reply =>
    match (reply : Except Error Raise) with
    | .ok .created => flag == name
    | _ => false
  | _ => false

def clears (name : String) : Happening → Bool
  | .answered _ _ (.lower flag) reply =>
    match (reply : Except Error Unit) with
    | .ok () => flag == name
    | .error _ => false
  | _ => false

def invokes (name : String) : Happening → Bool
  | .invoked _ lock => lock == name
  | _ => false

def isFlagFault : Happening → Bool
  | .answered _ _ (.raise _) reply =>
    match (reply : Except Error Raise) with
    | .ok _ => false
    | .error _ => true
  | .answered _ _ (.lower _) reply =>
    match (reply : Except Error Unit) with
    | .ok () => false
    | .error _ => true
  | _ => false

end Interleaving.Happening

def lostWakeup : Event := .counted (.resubmission "lost_wakeup")

namespace Trigger

namespace State

/-- Whether the trigger has put in a row for which it may still resubmit. -/
def isPending : State → Bool
  | .at .probing | .at .leaving | .at (.publishing .lostWakeup) => true
  | _ => false

/-- Whether the next run, or the next row, will be the trigger's own. -/
def isDue (inside : Bool) : State → Bool
  | .at .acquiring | .at .raising => true
  | .at (.clearing cycle) => cycle == 1
  | .at (.running _) => !inside
  | _ => false

def isLooping : State → Bool
  | .at (.clearing cycle) => cycle != 1
  | _ => false

def hasClaimed : State → Bool
  | .at (.running _) | .at (.checking ..) => true
  | _ => false

def Counted : State → Prop
  | .at (.clearing cycle) | .at (.running cycle) | .at (.checking cycle _) => 0 < cycle
  | _ => True

variable {st : State}

theorem counted_of_isSettling (settling : st.isSettling = true) : st.Counted := by
  cases st with
  | done result => trivial
  | «at» p => cases p <;> trivial

theorem isDue_of_isSettling (inside : Bool) (settling : st.isSettling = true) :
    st.isDue inside = false := by
  cases st with
  | done result => rfl
  | «at» p => cases p <;> first | rfl | cases settling

theorem clearing_of_isLooping (looping : st.isLooping = true) :
    ∃ cycle, st = .at (.clearing cycle) := by
  cases st with
  | done result => cases looping
  | «at» p => cases p <;> first | exact ⟨_, rfl⟩ | cases looping

theorem isLooping_of_isSettling (settling : st.isSettling = true) : st.isLooping = false := by
  cases st with
  | done result => rfl
  | «at» p => cases p <;> first | rfl | cases settling

theorem hasClaimed_of_isSettling (settling : st.isSettling = true) : st.hasClaimed = false := by
  cases st with
  | done result => rfl
  | «at» p => cases p <;> first | rfl | cases settling

end State

def Point.isLast : Point → Bool
  | .leaving | .releasing _ | .rechecking _ | .publishing _ => true
  | _ => false

variable (t : Trigger)

/-! Resubmissions for lost wakeups. -/

theorem count_start (settings : Settings) (context : Context) (mode : Mode) :
    (t.start settings context mode).1.count lostWakeup = 0 := by
  unfold start
  split
  · rfl
  · cases context.inTransaction <;> rfl

theorem count_lostWakeup (events : List Event) :
    events.count lostWakeup = (reasons events).count Handoff.lostWakeup.reason := by
  unfold reasons List.count
  rw [List.countP_filterMap]
  congr 1
  funext e
  cases e with
  | counted measure =>
    cases measure with
    | resubmission reason => simp [lostWakeup, Handoff.reason]
    | _ => simp [lostWakeup]
  | _ => simp [lostWakeup]

variable {t} in
theorem Next.count {p : Point} {reply : (p.request t).Reply} {sent : Option Handoff} {st : State}
    (next : t.Next p reply sent st) (i : Nat) (found : Memory.Flags) :
    (sent.map Handoff.reason).toList.count Handoff.lostWakeup.reason + st.isPending.toNat ≤
      (State.at p).isPending.toNat +
        ((Interleaving.Happening.answered i found (p.request t) reply).lands t.lock).toNat := by
  cases next with
  | created =>
    change 1 ≤ 0 + (t.lock == t.lock).toNat
    simp
  | probed => exact Nat.le_refl 1
  | announced hands | bypassed hands => cases hands <;> exact Nat.le_add_right _ _
  | published handoff => cases handoff <;> exact Nat.le_add_right _ _
  | _ => exact Nat.zero_le _

theorem count_resume (i : Nat) (found : Memory.Flags) (p : Point) (reply : (p.request t).Reply) :
    (t.resume p reply).1.count lostWakeup + (t.resume p reply).2.isPending.toNat ≤
      (State.at p).isPending.toNat +
        ((Interleaving.Happening.answered i found (p.request t) reply).lands t.lock).toNat := by
  obtain ⟨sent, next, told⟩ := t.follows_resume p reply
  rw [count_lostWakeup, told]
  exact next.count i found

end Trigger
namespace Interleaving

variable {κ β : Type}

namespace Call

def stage? (name : String) (c : Call β) : Option Trigger.State :=
  match c.work with
  | .trigger t st => if t.lock = name then some st else none
  | .sweep _ _ => none

theorem stage?_of_work {name : String} {c : Call β} {t : Trigger} {st : Trigger.State}
    (work : c.work = .trigger t st) : c.stage? name = if t.lock = name then some st else none := by
  unfold stage?
  rw [work]

def triggers (name : String) (c : Call β) : Bool := (c.stage? name).isSome

def isPending (name : String) (c : Call β) : Bool := (c.stage? name).any (·.isPending)

def isDue (name : String) (c : Call β) : Bool := (c.stage? name).any (·.isDue c.inside)

def isLooping (name : String) (c : Call β) : Bool := (c.stage? name).any (·.isLooping)

def hasClaimed (name : String) (c : Call β) : Bool := (c.stage? name).any (·.hasClaimed)

def Counted (c : Call β) : Prop := ∀ t st, c.work = .trigger t st → st.Counted

theorem stage?_eq_some {name : String} {c : Call β} {st : Trigger.State} :
    c.stage? name = some st ↔ ∃ t, c.work = .trigger t st ∧ t.lock = name := by
  unfold stage?
  cases c.work with
  | trigger t st' => simp [and_comm, and_assoc]
  | sweep sw st' => simp

theorem lock?_of_isLooping {name : String} {c : Call β} (live : c.gone = false)
    (looping : c.isLooping name = true) : c.lock? = some name := by
  obtain ⟨st, stage, clearing⟩ := (Option.any_eq_true _ _).1 looping
  obtain ⟨t, work, rfl⟩ := stage?_eq_some.1 stage
  obtain ⟨cycle, rfl⟩ := Trigger.State.clearing_of_isLooping clearing
  simp [lock?, live, work, Work.lock?, Trigger.Point.holds]

end Call

theorem countP_mapIdx {α : Type} {p : α → Bool} {f : Nat → α → α} (same : ∀ i a, p (f i a) = p a)
    (l : List α) : (l.mapIdx f).countP p = l.countP p := by
  induction l generalizing f with
  | nil => rfl
  | cons a l ih =>
    rw [List.mapIdx_cons, List.countP_cons, List.countP_cons, ih fun i => same (i + 1), same]

namespace World

variable (w : World κ β) (name : String)

def rows : Nat := w.history.countP (·.lands name)

def claims : Nat := w.history.countP (·.clears name)

def invocations : Nat := w.history.countP (·.invokes name)

def triggers : Nat := w.calls.countP (·.triggers name)

def isFresh : Bool := w.stores.flags.isRaised name && decide (0 < w.rows name)

theorem countP_begin (p : Call β → Bool) (c : Call β) :
    (w.begin c).calls.countP p = w.calls.countP p + (p c).toNat := by
  unfold begin
  rw [List.countP_append, List.countP_singleton]
  cases p c <;> rfl

theorem countP_move (p : Call β → Bool) {i : Nat} {c₀ : Call β} (call : w.call? i = some c₀)
    (c : Call β) (s : Stores κ) (e : Happening) :
    (w.move i c s e).calls.countP p + (p c₀).toNat = w.calls.countP p + (p c).toNat := by
  obtain ⟨lt, rfl⟩ := List.getElem_of_getElem? call
  unfold move
  rw [List.countP_set lt]
  have counted : p w.calls[i] = true → 0 < w.calls.countP p := fun holds =>
    List.countP_pos_iff.2 ⟨_, List.getElem_mem lt, holds⟩
  cases there : p w.calls[i] <;> cases p c <;> simp_all

theorem countP_vanish {p : Call β → Bool} (given : ∀ c, p { c with gone := true } = p c)
    (victim : Nat → Bool) : (w.vanish victim).calls.countP p = w.calls.countP p := by
  have same (i : Nat) (c : Call β) : p (if victim i then { c with gone := true } else c) = p c := by
    split
    · exact given c
    · rfl
  exact countP_mapIdx same w.calls

end World

/-! What the triggers report. -/

section
variable [DecidableEq κ] (key : String → κ)

namespace World

variable (w : World κ β)

def started (begun : Except Error (Trigger × List Event × Trigger.State)) : List (String × Event) :=
  match begun with
  | .ok (t, events, _) => events.map (t.lock, ·)
  | .error _ => []

def reports : Act β → List (String × Event)
  | .trigger _ d fresh context mode task input =>
    started (d.trigger fresh context mode task input)
  | .handle _ d fresh number =>
    match w.stores.message? number with
    | some delivery => started (d.handle fresh delivery.message)
    | none => []
  | .answer i v now =>
    match (w.call? i).map Call.work with
    | some (.trigger t (.at p)) =>
      (t.resume p (w.stores.answer key i now v (p.request t)).1).1.map (t.lock, ·)
    | _ => []
  | .finish i result =>
    match (w.call? i).map Call.work with
    | some (.trigger t (.at (.running cycle))) =>
      (t.resume (.running cycle) result).1.map (t.lock, ·)
    | _ => []
  | _ => []

end World

/-- The worlds that come about by allowed steps, each with what was reported on the way. -/
inductive Run (allowed : Act β → World κ β → Prop) (flags : Memory.Flags) :
    List (String × Event) → World κ β → Prop where
  | idle : Run allowed flags [] (.idle flags)
  | next {log w w'} (run : Run allowed flags log w) (a : Act β) (step : Step key w a w')
      (ok : allowed a w') : Run allowed flags (log ++ w.reports key a) w'

end

/-! One step of a call, as far as one lock name is concerned. -/

/-- What a step of a live call may change: `found` and `left` are the flags before and after. -/
structure Change (name : String) (found left : Memory.Flags) (e : Happening) (lost : Nat)
    (c c' : Call β) : Prop where
  triggers : c'.triggers name = c.triggers name
  flag : left.isRaised name = (e.lands name || (!e.clears name && found.isRaised name))
  down : e.lands name = true → found.isRaised name = false
  lost : lost + (c'.isPending name).toNat ≤ (c.isPending name).toNat + (e.lands name).toNat
  due : (e.invokes name).toNat + (e.lands name).toNat + (c'.isDue name).toNat ≤
      (c.isDue name).toNat ∨
    e.clears name = true ∧ e.lands name = false ∧ e.invokes name = false ∧ c.isLooping name = true
  looping : c'.isLooping name = true → left.isRaised name = true ∧ c.hasClaimed name = true
  claimed : c'.hasClaimed name = true → e.clears name = true ∨ c.hasClaimed name = true
  owned : e.clears name = true → c.lock? = some name

structure Silent (name : String) (found left : Memory.Flags) (e : Happening) : Prop where
  lands : e.lands name = false
  clears : e.clears name = false
  invokes : e.invokes name = false
  flag : left.isRaised name = found.isRaised name

theorem Silent.change {name : String} {found left : Memory.Flags} {e : Happening}
    (silent : Silent name found left e) {c c' : Call β} (before : c.stage? name = none)
    (after : c'.stage? name = none) : Change name found left e 0 c c' := by
  obtain ⟨dry, kept, still, flag⟩ := silent
  constructor
  case flag => simp [dry, kept, flag]
  all_goals simp [Call.triggers, Call.isPending, Call.isDue, Call.isLooping, Call.hasClaimed,
    before, after, dry, kept, still]

section
variable [DecidableEq κ] {key : String → κ} {i : Nat} {t : Trigger} {s s' : Stores κ} {ok : Bool}
  {p : Trigger.Point} {e : Happening} {st : Trigger.State}

theorem Move.elsewhere (m : Move key i t s ok p e st s') {name : String} (other : t.lock ≠ name) :
    Silent name s.flags s'.flags e := by
  have apart : (t.lock == name) = false := by simpa using other
  have apart' : (name == t.lock) = false := by simpa using other.symm
  cases m with
  | raiseFailed cause after =>
    refine ⟨rfl, rfl, rfl, ?_⟩
    obtain rfl | ⟨now, rfl⟩ := after
    · rfl
    · simp [Stores.raise, apart']
  | alreadyUp now up => exact ⟨rfl, rfl, rfl, by simp [Stores.raise, apart']⟩
  | created now down => exact ⟨apart, rfl, rfl, by simp [Stores.raise, apart']⟩
  | clearFailed cycle cause after =>
    refine ⟨rfl, rfl, rfl, ?_⟩
    obtain rfl | rfl := after
    · rfl
    · simp [Stores.lower, Ne.symm other]
  | cleared cycle => exact ⟨rfl, apart, rfl, by simp [Stores.lower, Ne.symm other]⟩
  | publishFailed handoff cause after => obtain rfl | rfl := after <;> exact ⟨rfl, rfl, rfl, rfl⟩
  | _ => exact ⟨rfl, rfl, rfl, rfl⟩

theorem Move.flag (m : Move key i t s ok p e st s') (sound : e.isFlagFault = false) :
    s'.flags.isRaised t.lock =
        (e.lands t.lock || (!e.clears t.lock && s.flags.isRaised t.lock)) ∧
      (e.lands t.lock = true → s.flags.isRaised t.lock = false) := by
  have kept (lands : e.lands t.lock = false) (up : e.lands t.lock = true) :
      s.flags.isRaised t.lock = false :=
    absurd (lands.symm.trans up) Bool.false_ne_true
  cases m with
  | raiseFailed | clearFailed => cases sound
  | alreadyUp now up =>
    exact ⟨by simp [Stores.raise, Happening.lands, Happening.clears, up], kept rfl⟩
  | created now down => exact ⟨by simp [Stores.raise, Happening.lands], fun _ => down⟩
  | cleared cycle => exact ⟨by simp [Stores.lower, Happening.lands, Happening.clears], kept rfl⟩
  | publishFailed handoff cause after => obtain rfl | rfl := after <;> exact ⟨rfl, kept rfl⟩
  | _ => exact ⟨rfl, kept rfl⟩

theorem Move.isSettling (m : Move key i t s ok p e st s') (last : p.isLast = true) :
    st.isSettling = true := by
  cases m with
  | left => exact t.isSettling_handOff _
  | released | releaseFailed => exact t.isSettling_released _
  | recheckedUp => exact t.isSettling_handOff _
  | publishFailed | published => exact t.isSettling_handedOff _ _
  | leaveFailed | recheckFailed | recheckedDown => rfl
  | _ => cases last

/-- A run is the trigger's own, or it goes with the flag that is lowered before it. -/
theorem Move.due (m : Move key i t s ok p e st s') (counted : (Trigger.State.at p).Counted) :
    (e.lands t.lock).toNat + (st.isDue false).toNat ≤ ((Trigger.State.at p).isDue false).toNat ∨
      e.lands t.lock = false ∧ (Trigger.State.at p).isLooping = true ∧
        (e.clears t.lock = true ∨ e.isFlagFault = true) := by
  have settling := m.isSettling
  cases m with
  | created now down => exact .inl (by simp [Happening.lands, Trigger.State.isDue])
  | clearFailed cycle cause after =>
    by_cases first : cycle = 1
    · exact .inl (by simp [Happening.lands, Trigger.State.isDue, first])
    · exact .inr ⟨rfl, by simp [Trigger.State.isLooping, first], .inr rfl⟩
  | cleared cycle =>
    by_cases first : cycle = 1
    · exact .inl (by simp [Happening.lands, Trigger.State.isDue, first])
    · exact .inr ⟨rfl, by simp [Trigger.State.isLooping, first],
        .inl (by simp [Happening.clears])⟩
  | again cycle result up last =>
    have later : cycle ≠ 0 := Nat.ne_of_gt counted
    exact .inl (by simp [Happening.lands, Trigger.State.isDue, later])
  | left | released | releaseFailed | recheckedUp | publishFailed | published =>
    rw [Trigger.State.isDue_of_isSettling false (settling rfl)]
    exact .inl (Nat.zero_le _)
  | _ => exact .inl (by simp [Happening.lands, Trigger.State.isDue])

theorem Move.counted (m : Move key i t s ok p e st s') (counted : (Trigger.State.at p).Counted) :
    st.Counted := by
  have settling := m.isSettling
  cases m with
  | taken free => exact Nat.one_pos
  | again cycle result up last => exact Nat.succ_pos cycle
  | clearFailed | cleared => exact counted
  | left | released | releaseFailed | recheckedUp | publishFailed | published =>
    exact Trigger.State.counted_of_isSettling (settling rfl)
  | _ => trivial

theorem Move.looping (m : Move key i t s ok p e st s') (looping : st.isLooping = true) :
    s'.flags.isRaised t.lock = true ∧ (Trigger.State.at p).hasClaimed = true := by
  have settling := m.isSettling
  cases m with
  | again cycle result up last => exact ⟨up, rfl⟩
  | left | released | releaseFailed | recheckedUp | publishFailed | published =>
    rw [Trigger.State.isLooping_of_isSettling (settling rfl)] at looping
    cases looping
  | _ => cases looping

theorem Move.claimed (m : Move key i t s ok p e st s') (claimed : st.hasClaimed = true) :
    e.clears t.lock = true ∨ e.isFlagFault = true := by
  have settling := m.isSettling
  cases m with
  | clearFailed => exact .inr rfl
  | cleared cycle => exact .inl (by simp [Happening.clears])
  | left | released | releaseFailed | recheckedUp | publishFailed | published =>
    rw [Trigger.State.hasClaimed_of_isSettling (settling rfl)] at claimed
    cases claimed
  | _ => cases claimed

theorem Move.holds (m : Move key i t s ok p e st s') (clears : e.clears t.lock = true) :
    p.holds = true := by
  cases m with
  | cleared cycle => rfl
  | _ => cases clears

variable {name : String}

theorem change_of_move {c : Call β} (m : Move key i t s ok p e st s') (live : c.gone = false)
    (work : c.work = .trigger t (.at p)) (outside : c.inside = false)
    (sound : e.isFlagFault = false) (counted : (Trigger.State.at p).Counted) {lost : Nat}
    (pending : lost + st.isPending.toNat ≤
      (Trigger.State.at p).isPending.toNat + (e.lands t.lock).toNat) :
    Change name s.flags s'.flags e (if t.lock = name then lost else 0) c
      { c with work := .trigger t st } := by
  have before : c.stage? name = if t.lock = name then some (.at p) else none :=
    Call.stage?_of_work work
  have after : ({ c with work := .trigger t st } : Call β).stage? name =
      if t.lock = name then some st else none := Call.stage?_of_work rfl
  have silent : e.invokes name = false := by
    obtain ⟨reply, rfl⟩ := m.answered
    rfl
  by_cases same : t.lock = name
  · subst same
    rw [if_pos rfl] at before after ⊢
    obtain ⟨flag, down⟩ := m.flag sound
    constructor
    case flag => exact flag
    case down => exact down
    case triggers => simp [Call.triggers, before, after]
    case lost => simpa [Call.isPending, before, after] using pending
    case due =>
      have due : c.isDue t.lock = (Trigger.State.at p).isDue false := by
        rw [Call.isDue, before, outside]
        rfl
      have due' : ({ c with work := .trigger t st } : Call β).isDue t.lock = st.isDue false := by
        rw [Call.isDue, after, ← outside]
        rfl
      rw [due, due', silent, Bool.toNat_false, Nat.zero_add]
      obtain own | ⟨dry, looping, cleared⟩ := m.due counted
      · exact .inl own
      · rw [sound] at cleared
        exact .inr ⟨cleared.resolve_right nofun, dry, rfl, by simpa [Call.isLooping, before]⟩
    case looping =>
      simp only [Call.isLooping, Call.hasClaimed, before, after, Option.any_some]
      exact m.looping
    case claimed =>
      simp only [Call.hasClaimed, after, Option.any_some]
      intro claimed
      have cleared := m.claimed claimed
      rw [sound] at cleared
      exact .inl (cleared.resolve_right nofun)
    case owned =>
      intro clears
      simp [Call.lock?, live, work, Work.lock?, m.holds clears]
  · rw [if_neg same] at before after ⊢
    exact (m.elsewhere same).change before after

end

/-- What holds all the time: rows and claims alternate, a call that may resubmit has a row to show
for it, and whoever is about to run has a trigger, or a row of another trigger, to run for. -/
structure Storm (name : String) (flags : Memory.Flags) (lost : Nat) (w : World κ β) : Prop where
  rows : w.rows name + (flags.isRaised name).toNat ≤
    w.claims name + (w.stores.flags.isRaised name).toNat
  lost : lost + w.calls.countP (·.isPending name) ≤ w.rows name
  runs : w.invocations name + (w.isFresh name).toNat + w.calls.countP (·.isDue name) ≤
    w.triggers name
  fresh : 0 < w.claims name → w.stores.flags.isRaised name = true → w.isFresh name = true
  looping : ∀ i c, w.call? i = some c → c.gone = false → c.isLooping name = true →
    w.isFresh name = true
  claimed : ∀ i c, w.call? i = some c → c.hasClaimed name = true → 0 < w.claims name
  counted : ∀ i c, w.call? i = some c → c.Counted

section
variable {key : String → κ} {name : String} {flags : Memory.Flags} {lost : Nat} {w : World κ β}

theorem isFresh_iff :
    w.isFresh name = true ↔ w.stores.flags.isRaised name = true ∧ 0 < w.rows name := by
  simp [World.isFresh]

section
variable {i : Nat} {c₀ c : Call β} {s : Stores κ} {e : Happening}

theorem rows_move : (w.move i c s e).rows name = w.rows name + (e.lands name).toNat := by
  unfold World.rows World.move
  rw [List.countP_cons]
  cases e.lands name <;> rfl

theorem claims_move : (w.move i c s e).claims name = w.claims name + (e.clears name).toNat := by
  unfold World.claims World.move
  rw [List.countP_cons]
  cases e.clears name <;> rfl

theorem invocations_move :
    (w.move i c s e).invocations name = w.invocations name + (e.invokes name).toNat := by
  unfold World.invocations World.move
  rw [List.countP_cons]
  cases e.invokes name <;> rfl

theorem Sound.not_isLooping (sound : Sound key w) (call : w.call? i = some c₀)
    (own : c₀.lock? = some name) {j : Nat} {c' : Call β} (other : j ≠ i)
    (call' : w.call? j = some c') (live : c'.gone = false) : c'.isLooping name = false := by
  by_contra looping
  have theirs : w.lock? j = some name := by
    rw [w.lock?_of_call? call']
    exact c'.lock?_of_isLooping live (Bool.eq_true_of_not_eq_false looping)
  have ours : w.lock? i = some name := by rw [w.lock?_of_call? call, own]
  exact other (sound.sole (key name) j i ((sound.owned _ j).2 ⟨name, theirs, rfl⟩)
    ((sound.owned _ i).2 ⟨name, ours, rfl⟩))

theorem Change.isFresh {more : Nat} (change : Change name w.stores.flags s.flags e more c₀ c)
    (kept : e.clears name = false) (fresh : w.isFresh name = true) :
    (w.move i c s e).isFresh name = true := by
  obtain ⟨up, there⟩ := isFresh_iff.1 fresh
  refine isFresh_iff.2 ⟨?_, ?_⟩
  · change s.flags.isRaised name = true
    rw [change.flag, kept, up]
    simp
  · rw [rows_move]
    omega

theorem Storm.fresh_move (storm : Storm name flags lost w) {more : Nat}
    (change : Change name w.stores.flags s.flags e more c₀ c)
    (claimed : 0 < (w.move i c s e).claims name) (up : s.flags.isRaised name = true) :
    (w.move i c s e).isFresh name = true := by
  rw [change.flag] at up
  cases lands : e.lands name with
  | true =>
    refine isFresh_iff.2 ⟨?_, ?_⟩
    · change s.flags.isRaised name = true
      rw [change.flag, lands, Bool.true_or]
    · rw [rows_move, lands]
      exact Nat.succ_pos _
  | false =>
    rw [lands, Bool.false_or, Bool.and_eq_true, Bool.not_eq_true'] at up
    rw [claims_move, up.1] at claimed
    exact change.isFresh up.1 (storm.fresh claimed up.2)

theorem Storm.move (storm : Storm name flags lost w) (sound : Sound key w)
    (call : w.call? i = some c₀) (live : c₀.gone = false) {more : Nat}
    (change : Change name w.stores.flags s.flags e more c₀ c) (counted : c.Counted) :
    Storm name flags (lost + more) (w.move i c s e) := by
  have up : (w.move i c s e).stores.flags.isRaised name =
      (e.lands name || (!e.clears name && w.stores.flags.isRaised name)) := change.flag
  constructor
  case rows =>
    have before := storm.rows
    have down := change.down
    rw [rows_move, claims_move, up]
    revert before down
    cases e.lands name <;> cases e.clears name <;> cases w.stores.flags.isRaised name <;> simp <;>
      omega
  case lost =>
    have before := storm.lost
    have pending := w.countP_move (·.isPending name) call c s e
    have step := change.lost
    rw [rows_move]
    omega
  case runs =>
    have before := storm.runs
    have due := w.countP_move (·.isDue name) call c s e
    have triggers := w.countP_move (·.triggers name) call c s e
    rw [change.triggers] at triggers
    have same : (w.move i c s e).triggers name = w.triggers name := Nat.add_right_cancel triggers
    rw [same, invocations_move]
    obtain own | ⟨clears, dry, silent, looping⟩ := change.due
    · have fresh : ((w.move i c s e).isFresh name).toNat ≤
          (w.isFresh name).toNat + (e.lands name).toNat := by
        unfold World.isFresh
        rw [up, rows_move]
        cases e.lands name <;> cases e.clears name <;> cases w.stores.flags.isRaised name <;> simp
      omega
    · have spent : (w.move i c s e).isFresh name = false := by
        unfold World.isFresh
        rw [up, clears, dry]
        rfl
      have one := Bool.toNat_le (c.isDue name)
      rw [storm.looping i c₀ call live looping] at before
      rw [spent, silent]
      simp only [Bool.toNat_true, Bool.toNat_false] at before ⊢
      omega
  case fresh => exact storm.fresh_move change
  case looping =>
    refine w.all_move (P := fun _ c => c.gone = false → c.isLooping name = true → _) call ?_ ?_
    · intro _ looping
      obtain ⟨up, claimed⟩ := change.looping looping
      have claims := storm.claimed i c₀ call claimed
      refine storm.fresh_move change ?_ up
      rw [claims_move]
      omega
    · intro j c' other call' live' looping
      cases clears : e.clears name with
      | false => exact change.isFresh clears (storm.looping j c' call' live' looping)
      | true =>
        rw [sound.not_isLooping call (change.owned clears) other call' live'] at looping
        cases looping
  case claimed =>
    rw [claims_move]
    refine w.all_move (P := fun _ c => c.hasClaimed name = true → _) call ?_ ?_
    · intro claimed
      obtain clears | before := change.claimed claimed
      · rw [clears]
        exact Nat.succ_pos _
      · exact Nat.add_pos_left (storm.claimed i c₀ call before) _
    · intro j c' _ call' claimed
      exact Nat.add_pos_left (storm.claimed j c' call' claimed) _
  case counted => exact w.all_move call counted fun j c' _ => storm.counted j c'

end

end

/-! The other steps. -/

variable {name : String} {flags : Memory.Flags} {lost : Nat} {w : World κ β}

theorem change_of_finish {c : Call β} {t : Trigger} {cycle : Nat}
    (work : c.work = .trigger t (.at (.running cycle))) (found : Memory.Flags) (i : Nat)
    (result : Except Error Json) :
    Change name found found (.finished i t.lock result) 0 c
      { c with work := .trigger t (t.resume (.running cycle) result).2, inside := false } := by
  have before : c.stage? name = if t.lock = name then some (.at (.running cycle)) else none :=
    Call.stage?_of_work work
  by_cases same : t.lock = name
  · rw [if_pos same] at before
    obtain ⟨p, next, rest⟩ : ∃ p, (t.resume (.running cycle) result).2 = .at p ∧
        ((∃ ending, p = .releasing ending) ∨ ∃ value, p = .checking cycle value) := by
      cases result with
      | error cause => exact ⟨_, rfl, .inl ⟨_, rfl⟩⟩
      | ok value => exact ⟨_, rfl, .inr ⟨_, rfl⟩⟩
    rw [next]
    have after : ({ c with work := .trigger t (.at p), inside := false } : Call β).stage? name =
        some (.at p) := by
      rw [Call.stage?_of_work rfl, if_pos same]
    constructor
    case flag => rfl
    case owned => nofun
    all_goals
      obtain ⟨ending, rfl⟩ | ⟨value, rfl⟩ := rest <;>
        simp [Call.triggers, Call.isPending, Call.isDue, Call.isLooping, Call.hasClaimed, before,
          after, Trigger.State.isPending, Trigger.State.isDue, Trigger.State.isLooping,
          Trigger.State.hasClaimed, Happening.lands, Happening.invokes, Happening.clears]
  · rw [if_neg same] at before
    exact Silent.change ⟨rfl, rfl, rfl, rfl⟩ before ((Call.stage?_of_work rfl).trans (if_neg same))

theorem change_of_invoke {c : Call β} {t : Trigger} {cycle : Nat}
    (work : c.work = .trigger t (.at (.running cycle))) (outside : c.inside = false)
    (found : Memory.Flags) (i : Nat) :
    Change name found found (.invoked i t.lock) 0 c { c with inside := true } := by
  have before : c.stage? name = if t.lock = name then some (.at (.running cycle)) else none :=
    Call.stage?_of_work work
  have after : ({ c with inside := true } : Call β).stage? name = c.stage? name := rfl
  by_cases same : t.lock = name
  · rw [if_pos same] at before
    rw [before] at after
    constructor
    case flag => rfl
    case owned => nofun
    all_goals simp [Call.triggers, Call.isPending, Call.isDue, Call.isLooping, Call.hasClaimed,
      before, after, outside, same, Trigger.State.isPending, Trigger.State.isDue,
      Trigger.State.isLooping, Trigger.State.hasClaimed, Happening.lands, Happening.invokes,
      Happening.clears]
  · rw [if_neg same] at before
    have apart : (t.lock == name) = false := by simpa using same
    have silent : Silent name found found (.invoked i t.lock) := ⟨rfl, rfl, apart, rfl⟩
    exact silent.change before (after.trans before)

theorem change_of_sweep [DecidableEq κ] {key : String → κ} {i : Nat} {c : Call β} {sw : Sweep β}
    {s s' : Stores κ} {p : Sweep.Point} {e : Happening} {st : Sweep.State}
    (work : c.work = .sweep sw (.at p)) (m : SweepMove key i sw s p e st s') :
    Change name s.flags s'.flags e 0 c { c with work := .sweep sw st } := by
  have before : c.stage? name = none := by
    unfold Call.stage?
    rw [work]
  have flag : s'.flags.isRaised name = s.flags.isRaised name := by rw [m.flags]
  obtain ⟨reply, rfl⟩ := m.answered
  refine Silent.change ?_ before rfl
  cases p <;> exact ⟨rfl, rfl, rfl, flag⟩

theorem Storm.idle (name : String) (flags : Memory.Flags) :
    Storm name flags 0 (.idle flags : World κ β) where
  rows := Nat.le_refl _
  lost := Nat.le_refl 0
  runs := by
    change 0 + (flags.isRaised name && decide (0 < 0)).toNat + 0 ≤ 0
    simp
  fresh := nofun
  looping _ _ call := by cases call
  claimed _ _ call := by cases call
  counted _ _ call := by cases call

theorem Storm.begin (storm : Storm name flags lost w) {c : Call β} (unstarted : Unstarted c) :
    Storm name flags lost (w.begin c) := by
  have due : (c.isDue name).toNat ≤ (c.triggers name).toNat := by
    cases unstarted <;> simp [Call.isDue, Call.triggers, Call.stage?, Call.ofWork] <;> split <;>
      simp [Trigger.State.isDue]
  have apart : c.isPending name = false ∧ c.isLooping name = false ∧ c.hasClaimed name = false := by
    cases unstarted <;>
      simp [Call.isPending, Call.isLooping, Call.hasClaimed, Call.stage?, Call.ofWork] <;>
      split <;> simp [Trigger.State.isPending, Trigger.State.isLooping, Trigger.State.hasClaimed]
  obtain ⟨settled, straight, unclaimed⟩ := apart
  constructor
  case rows => exact storm.rows
  case lost =>
    rw [w.countP_begin, settled]
    exact storm.lost
  case runs =>
    have before := storm.runs
    unfold World.triggers
    rw [w.countP_begin, w.countP_begin]
    change w.invocations name + (w.isFresh name).toNat + _ ≤ w.triggers name + _
    omega
  case fresh => exact storm.fresh
  case looping =>
    refine w.all_begin (P := fun _ c => c.gone = false → c.isLooping name = true → _) ?_
      storm.looping
    rw [straight]
    nofun
  case claimed =>
    refine w.all_begin (P := fun _ c => c.hasClaimed name = true → _) ?_ storm.claimed
    rw [unclaimed]
    nofun
  case counted =>
    refine w.all_begin ?_ storm.counted
    intro t st work
    cases unstarted <;> cases work <;> trivial

theorem Storm.vanish (storm : Storm name flags lost w) (victim : Nat → Bool) :
    Storm name flags lost (w.vanish victim) := by
  constructor
  case rows => exact storm.rows
  case lost =>
    rw [w.countP_vanish fun c => rfl]
    exact storm.lost
  case runs =>
    unfold World.triggers
    rw [w.countP_vanish fun c => rfl, w.countP_vanish fun c => rfl]
    exact storm.runs
  case fresh => exact storm.fresh
  case looping =>
    refine w.all_vanish (P := fun _ c => c.gone = false → c.isLooping name = true → _) ?_
      storm.looping
    intro j c doomed call live
    cases live
  case claimed =>
    exact w.all_vanish (P := fun _ c => c.hasClaimed name = true → _)
      (fun j c _ => storm.claimed j c) storm.claimed
  case counted => exact w.all_vanish (fun j c _ => storm.counted j c) storm.counted

theorem Storm.of_eq (storm : Storm name flags lost w) {s : Stores κ}
    (same : s.flags = w.stores.flags) : Storm name flags lost { w with stores := s } := by
  have fresh : ({ w with stores := s } : World κ β).isFresh name = w.isFresh name := by
    unfold World.isFresh
    rw [same]
    rfl
  constructor
  case rows =>
    rw [same]
    exact storm.rows
  case lost => exact storm.lost
  case runs =>
    rw [fresh]
    exact storm.runs
  case fresh =>
    rw [same, fresh]
    exact storm.fresh
  case looping =>
    rw [fresh]
    exact storm.looping
  case claimed => exact storm.claimed
  case counted => exact storm.counted

section
variable [DecidableEq κ] {key : String → κ}

theorem count_tagged (lock : String) (events : List Event) (e : Event) :
    (events.map (lock, ·)).count (name, e) = if lock = name then events.count e else 0 := by
  induction events with
  | nil => simp
  | cons e' events ih =>
    rw [List.map_cons, List.count_cons, List.count_cons, ih]
    by_cases same : lock = name <;> simp [same]

theorem count_started (d : Dispatcher β) (fresh : String) (context : Context) (mode : Mode)
    (task : String) (input : TaskInput) :
    (World.started (d.trigger fresh context mode task input)).count (name, lostWakeup) = 0 := by
  unfold Dispatcher.trigger
  cases d.registry.resolve task with
  | error e => rfl
  | ok spec =>
    change List.count _ (((Trigger.ofTask _ _ _ _).start _ _ _).1.map _) = 0
    rw [count_tagged, Trigger.count_start, ite_self]

theorem Opens.count_reports {a : Act β} {c : Call β} (opens : Opens w a c) :
    (w.reports key a).count (name, lostWakeup) = 0 := by
  cases opens with
  | trigger built started => exact count_started ..
  | @handle process d fresh number delivery t events state built read started =>
    simp only [World.reports, read]
    exact count_started ..
  | sweep built => rfl

theorem Storm.step {w' : World κ β} {a : Act β} (storm : Storm name flags lost w)
    (sound : Sound key w) (step : Step key w a w')
    (ok : ∀ e ∈ w'.history, e.isFlagFault = false) :
    Storm name flags (lost + (w.reports key a).count (name, lostWakeup)) w' := by
  cases step with
  | begin opens =>
    rw [opens.count_reports]
    exact storm.begin opens.unstarted
  | @askTrigger i c t p v now call live work asks =>
    have counted : (Trigger.State.at p).Counted := storm.counted i c call t _ work
    have m := move_of_answer key i t w.stores v now asks
    have reported : (w.reports key (.answer i v now)).count (name, lostWakeup) =
        if t.lock = name then
          (t.resume p (w.stores.answer key i now v (p.request t)).1).1.count lostWakeup
        else 0 := by
      simp only [World.reports, call, Option.map_some, work]
      exact count_tagged ..
    rw [reported]
    refine storm.move sound call live (change_of_move m live work (sound.outside call work asks)
      (ok _ List.mem_cons_self) counted (t.count_resume ..)) ?_
    intro t' st' work'
    cases work'
    exact m.counted counted
  | @askSweep i c sw p v now call live work =>
    obtain ⟨e, st, s, m, asked⟩ := asked_of_sweep key w i c sw p v now
    have reported : (w.reports key (.answer i v now)).count (name, lostWakeup) = 0 := by
      simp [World.reports, call, work]
    rw [reported, asked]
    refine storm.move sound call live (change_of_sweep work m) ?_
    intro t' st' work'
    cases work'
  | @invoke i c t cycle call live work outside =>
    refine storm.move sound call live (change_of_invoke work outside _ i) ?_
    exact storm.counted i c call
  | @finish i c t cycle result call live work inside =>
    have counted : 0 < cycle := storm.counted i c call t _ work
    have reported : (w.reports key (.finish i result)).count (name, lostWakeup) = 0 := by
      simp only [World.reports, call, Option.map_some, work]
      rw [count_tagged]
      cases result <;> exact ite_self 0
    rw [reported]
    refine storm.move sound call live (change_of_finish work _ i result) ?_
    intro t' st' work'
    cases work'
    cases result with
    | error cause => trivial
    | ok value => exact counted
  | vanish dooms =>
    have reported : (w.reports key a).count (name, lostWakeup) = 0 := by
      cases dooms <;> rfl
    rw [reported]
    exact storm.vanish _
  | post => exact storm.of_eq rfl
  | archive call work message archives => exact storm.of_eq rfl

/-- No write of a flag has failed. -/
def World.FlagsAnswer (w : World κ β) : Prop := ∀ e ∈ w.history, e.isFlagFault = false

instance (w : World κ β) : Decidable w.FlagsAnswer :=
  inferInstanceAs (Decidable (∀ e ∈ w.history, e.isFlagFault = false))

theorem Run.reachable {allowed : Act β → World κ β → Prop} {log : List (String × Event)}
    (run : Run key allowed flags log w) : Reachable key allowed flags w := by
  induction run with
  | idle => exact .idle
  | next _ a step ok ih => exact ih.next a step ok

theorem storm_of_run {log : List (String × Event)}
    (run : Run key (fun _ w => w.FlagsAnswer) flags log w) (name : String) :
    Storm name flags (log.count (name, lostWakeup)) w := by
  induction run with
  | idle => exact .idle name flags
  | next run a step ok ih =>
    rw [List.count_append]
    exact ih.step (sound_of_reachable run.reachable) step ok

/-- Storms coalesce, for any number of calls of any processes: rows are put in at most once more
than the flag is lowered, lost wakeups are resubmitted at most once for a row, and the task is
invoked at most once for a call that triggers it. Calls may be dropped, processes may crash and
anything may fail but the writes of flags. -/
theorem coalesced_of_run {log : List (String × Event)}
    (run : Run key (fun _ w => w.FlagsAnswer) flags log w) (name : String) :
    w.rows name ≤ 1 + w.claims name ∧
      log.count (name, .counted (.resubmission "lost_wakeup")) ≤ w.rows name ∧
      w.invocations name ≤ w.triggers name := by
  have storm := storm_of_run run name
  refine ⟨?rows, ?lost, ?runs⟩
  case rows =>
    have rows := storm.rows
    have up := Bool.toNat_le (w.stores.flags.isRaised name)
    omega
  case lost => exact Nat.le_trans (Nat.le_add_right _ _) storm.lost
  case runs =>
    have runs := storm.runs
    omega

/-- A call is refused, and by the time its row is in the holder is gone: it resubmits. -/
theorem run_lostWakeup : ∃ (log : List (String × Event)) (w : World String Unit),
    Run id (fun _ w => w.FlagsAnswer) .empty log w ∧
      log.count ("t", .counted (.resubmission "lost_wakeup")) = 1 ∧ w.rows "t" = 1 ∧
      w.claims "t" = 1 ∧ w.invocations "t" = 1 ∧ w.triggers "t" = 2 :=
  ⟨_, _, Run.idle
    |>.next (.trigger 0 single "" .autocommit .execute "t" ⟨[], []⟩)
      (.begin (.trigger single_built rfl)) (by decide)
    |>.next (.answer 0 .answered ⟨0, 0⟩) (.askTrigger rfl rfl rfl rfl) (by decide)
    |>.next (.answer 0 .answered ⟨0, 0⟩) (.askTrigger rfl rfl rfl rfl) (by decide)
    |>.next (.invoke 0) (.invoke rfl rfl rfl rfl) (by decide)
    |>.next (.trigger 1 single "" .autocommit .execute "t" ⟨[], []⟩)
      (.begin (.trigger single_built rfl)) (by decide)
    |>.next (.answer 1 .answered ⟨0, 0⟩) (.askTrigger rfl rfl rfl rfl) (by decide)
    |>.next (.finish 0 (.ok .null)) (.finish rfl rfl rfl rfl) (by decide)
    |>.next (.answer 0 .answered ⟨0, 0⟩) (.askTrigger rfl rfl rfl rfl) (by decide)
    |>.next (.answer 0 .answered ⟨0, 0⟩) (.askTrigger rfl rfl rfl rfl) (by decide)
    |>.next (.answer 1 .answered ⟨0, 0⟩) (.askTrigger rfl rfl rfl rfl) (by decide)
    |>.next (.answer 1 .answered ⟨0, 0⟩) (.askTrigger rfl rfl rfl rfl) (by decide)
    |>.next (.answer 1 .answered ⟨0, 0⟩) (.askTrigger rfl rfl rfl rfl) (by decide)
    |>.next (.answer 1 .answered ⟨0, 0⟩) (.askTrigger rfl rfl rfl rfl) (by decide),
    rfl, rfl, rfl, rfl, rfl⟩

theorem coalesced_lostWakeup : ∃ (log : List (String × Event)) (w : World String Unit),
    log.count ("t", .counted (.resubmission "lost_wakeup")) = 1 ∧ w.invocations "t" = 1 ∧
      w.rows "t" ≤ 1 + w.claims "t" ∧
      log.count ("t", .counted (.resubmission "lost_wakeup")) ≤ w.rows "t" ∧
      w.invocations "t" ≤ w.triggers "t" := by
  obtain ⟨log, w, run, lost, -, -, runs, -⟩ := run_lostWakeup
  exact ⟨log, w, lost, runs, coalesced_of_run run "t"⟩

end

end Interleaving
end Coalesce
