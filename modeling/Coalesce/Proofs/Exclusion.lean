import Coalesce.Proofs.Moves

/-! Mutual exclusion. The lock table holds exactly the locks that live calls have, each under a key
that no other call has one under, and a task is only ever run by a call that has its lock. -/
namespace Coalesce.Interleaving

variable {κ β : Type}

namespace Call

variable (c : Call β)

def inside? : Option String :=
  match c.work with
  | .trigger t _ => if c.inside && !c.gone then some t.lock else none
  | .sweep _ _ => none

def probes : Bool :=
  !c.gone &&
    match c.work with
    | .trigger _ (.at .leaving) => true
    | .sweep _ (.at (.leaving ..)) => true
    | _ => false

def runs : Bool :=
  !c.gone &&
    match c.work with
    | .trigger _ (.at .leaving) => false
    | .trigger _ (.at p) => p.holds
    | _ => false

theorem inside?_eq_some {name : String} :
    c.inside? = some name ↔
      c.inside = true ∧ c.gone = false ∧ ∃ t st, c.work = .trigger t st ∧ t.lock = name := by
  unfold inside?
  cases c.work with
  | trigger t st => cases c.inside <;> cases c.gone <;> simp
  | sweep s st => simp

theorem eq_of_lock? {t : Trigger} {st : Trigger.State} {name : String}
    (work : c.work = .trigger t st) (lock : c.lock? = some name) :
    ∃ p, st = .at p ∧ p.holds = true ∧ t.lock = name := by
  unfold lock? at lock
  rw [work] at lock
  cases st with
  | done result => simp [Work.lock?] at lock
  | «at» p =>
    simp only [Work.lock?, Option.ite_none_left_eq_some, Option.ite_none_right_eq_some,
      Option.some.injEq] at lock
    exact ⟨p, rfl, lock.2⟩

theorem lock?_of_isOver (ended : c.isOver = true) : c.lock? = none := by
  unfold lock?
  cases h : c.gone with
  | true => rfl
  | false =>
    unfold isOver at ended
    rw [h, Bool.false_or] at ended
    cases work : c.work with
    | trigger t st => cases st <;> simp_all [Work.isDone, Work.lock?]
    | sweep s st => cases st <;> simp_all [Work.isDone, Work.lock?]

theorem runs_of_probes (probes : c.probes = true) : c.runs = false := by
  unfold runs
  cases work : c.work with
  | sweep s st => simp
  | trigger t st =>
    cases st with
    | done result => simp
    | «at» p => cases p <;> simp_all [Call.probes]

end Call

namespace World

def lock? (w : World κ β) (i : Nat) : Option String := (w.call? i).bind Call.lock?

def inside? (w : World κ β) (i : Nat) : Option String := (w.call? i).bind Call.inside?

variable (w : World κ β)

theorem lock?_of_call? {i : Nat} {c : Call β} (call : w.call? i = some c) :
    w.lock? i = c.lock? := by
  unfold lock?
  rw [call]
  rfl

theorem lock?_begin {c : Call β} (unlocked : c.lock? = none) (j : Nat) :
    (w.begin c).lock? j = w.lock? j := by
  unfold lock?
  rw [w.call?_begin]
  split
  · next h =>
    rw [h, w.call?_eq_none (Nat.le_refl _)]
    exact unlocked
  · rfl

theorem lock?_move {i : Nat} {c₀ : Call β} (call : w.call? i = some c₀) (c : Call β)
    (s : Stores κ) (e : Happening) (j : Nat) :
    (w.move i c s e).lock? j = if j = i then c.lock? else w.lock? j := by
  unfold lock?
  rw [w.call?_move call]
  split <;> rfl

theorem lock?_vanish (victim : Nat → Bool) (j : Nat) :
    (w.vanish victim).lock? j = if victim j then none else w.lock? j := by
  unfold lock?
  rw [w.call?_vanish]
  cases victim j <;> cases w.call? j <;> rfl

end World

structure Sound (key : String → κ) (w : World κ β) : Prop where
  owned : ∀ k i, (k, i) ∈ w.stores.locks ↔ ∃ name, w.lock? i = some name ∧ key name = k
  sole : ∀ k i j, (k, i) ∈ w.stores.locks → (k, j) ∈ w.stores.locks → i = j
  inside : ∀ i c, w.call? i = some c → c.inside = true →
    ∃ t cycle, c.work = .trigger t (.at (.running cycle))

/-- What exclusion means: a task is run by one call at a time, which owns the entry of its lock;
what a probe owns no running call owns; and nothing is left of calls that are over. -/
structure Exclusive (key : String → κ) (w : World κ β) : Prop where
  alone : ∀ i j name name', w.inside? i = some name → w.inside? j = some name' →
    key name = key name' → i = j
  owner : ∀ i name, w.inside? i = some name → ∀ j, (key name, j) ∈ w.stores.locks ↔ j = i
  apart : ∀ i j c c', w.call? i = some c → w.call? j = some c' → c.probes = true →
    c'.runs = true → ∀ k, (k, i) ∈ w.stores.locks → (k, j) ∉ w.stores.locks
  empty : (∀ c ∈ w.calls, c.isOver = true) → w.stores.locks = []

theorem sound_idle (key : String → κ) (flags : Memory.Flags) :
    Sound key (.idle flags : World κ β) where
  owned := by
    intro k i
    constructor
    · intro h
      cases h
    · rintro ⟨name, h, -⟩
      cases h
  sole := by
    intro k i j h
    cases h
  inside := by
    intro i c call
    cases call

theorem Sound.owned_of_running {key : String → κ} {w : World κ β} (sound : Sound key w) {i : Nat}
    {c : Call β} {t : Trigger} {cycle : Nat} (call : w.call? i = some c) (live : c.gone = false)
    (running : c.work = .trigger t (.at (.running cycle))) : (key t.lock, i) ∈ w.stores.locks := by
  refine (sound.owned _ i).2 ⟨t.lock, ?_, rfl⟩
  rw [w.lock?_of_call? call]
  simp [Call.lock?, live, running, Work.lock?, Trigger.Point.holds]

theorem Sound.owned_of_inside {key : String → κ} {w : World κ β} (sound : Sound key w) {i : Nat}
    {name : String} (inside : w.inside? i = some name) : (key name, i) ∈ w.stores.locks := by
  obtain ⟨c, call, inside⟩ := Option.bind_eq_some_iff.1 inside
  obtain ⟨running, live, t, st, work, rfl⟩ := c.inside?_eq_some.1 inside
  obtain ⟨t', cycle, running⟩ := sound.inside i c call running
  cases work.symm.trans running
  exact sound.owned_of_running call live running

theorem Sound.mem_locks_iff {key : String → κ} {w : World κ β} (sound : Sound key w) {k : κ}
    {i : Nat} (own : (k, i) ∈ w.stores.locks) (j : Nat) : (k, j) ∈ w.stores.locks ↔ j = i := by
  constructor
  · intro h
    exact sound.sole k j i h own
  · rintro rfl
    exact own

theorem Sound.exclusive {key : String → κ} {w : World κ β} (sound : Sound key w) :
    Exclusive key w where
  alone := by
    intro i j name name' h h' same
    have mine := sound.owned_of_inside h
    rw [same] at mine
    exact sound.sole _ i j mine (sound.owned_of_inside h')
  owner := by
    intro i name h
    exact sound.mem_locks_iff (sound.owned_of_inside h)
  apart := by
    intro i j c c' call call' probes runs k h h'
    cases sound.sole k i j h h'
    rw [call] at call'
    cases call'
    rw [c.runs_of_probes probes] at runs
    cases runs
  empty := by
    intro ended
    rw [List.eq_nil_iff_forall_not_mem]
    rintro ⟨k, i⟩ h
    obtain ⟨name, has, -⟩ := (sound.owned k i).1 h
    obtain ⟨c, call, has⟩ := Option.bind_eq_some_iff.1 has
    rw [c.lock?_of_isOver (ended c (List.mem_of_getElem? call))] at has
    cases has

theorem Sound.outside {key : String → κ} {w : World κ β} (sound : Sound key w) {i : Nat}
    {c : Call β} {t : Trigger} {p : Trigger.Point} (call : w.call? i = some c)
    (work : c.work = .trigger t (.at p)) (asks : isRunning p = false) : c.inside = false := by
  cases h : c.inside with
  | false => rfl
  | true =>
    obtain ⟨t', cycle, running⟩ := sound.inside i c call h
    cases work.symm.trans running
    cases asks

theorem Sound.begin {key : String → κ} {w : World κ β} (sound : Sound key w) {c : Call β}
    (unstarted : Unstarted c) : Sound key (w.begin c) where
  owned := by
    intro k i
    rw [w.lock?_begin (by cases unstarted <;> rfl)]
    exact sound.owned k i
  sole := sound.sole
  inside := by
    refine w.all_begin ?_ sound.inside
    cases unstarted <;> nofun

section
variable [DecidableEq κ] {key : String → κ}

theorem Stores.isHeld_iff (s : Stores κ) (k : κ) :
    s.isHeld k = true ↔ ∃ i, (k, i) ∈ s.locks := by
  simp [Stores.isHeld]

theorem Handover.mem_locks {i : Nat} {s s' : Stores κ} {before after : Option String}
    (handover : Handover key i s s' before after)
    (own : ∀ k, (k, i) ∈ s.locks ↔ ∃ name, before = some name ∧ key name = k) (k : κ) (j : Nat) :
    (k, j) ∈ s'.locks ↔
      if j = i then ∃ name, after = some name ∧ key name = k else (k, j) ∈ s.locks := by
  cases handover with
  | same locks =>
    rw [locks]
    by_cases h : j = i
    · rw [if_pos h, h, own k]
    · rw [if_neg h]
  | @gain name free locks =>
    rw [locks, List.mem_cons]
    by_cases h : j = i
    · have unowned : ¬(k, i) ∈ s.locks := by
        rw [own k]
        simp
      rw [if_pos h, h]
      simp only [unowned, or_false, Prod.mk.injEq, and_true, Option.some.injEq,
        exists_eq_left']
      exact eq_comm
    · rw [if_neg h]
      simp [h]
  | @loss name locks =>
    rw [locks, List.mem_filter]
    by_cases h : j = i
    · rw [if_pos h, h, own k]
      constructor
      · rintro ⟨⟨name', same, rfl⟩, kept⟩
        cases same
        simp at kept
      · rintro ⟨name', lost, -⟩
        cases lost
    · rw [if_neg h]
      simp [h]

theorem Handover.sole {i : Nat} {s s' : Stores κ} {before after : Option String}
    (handover : Handover key i s s' before after)
    (own : ∀ k, (k, i) ∈ s.locks ↔ ∃ name, before = some name ∧ key name = k)
    (sole : ∀ k j j', (k, j) ∈ s.locks → (k, j') ∈ s.locks → j = j') {name : String}
    (got : after = some name) {j : Nat} (h : (key name, j) ∈ s.locks) : j = i := by
  cases handover with
  | same locks => exact sole _ _ _ h ((own _).2 ⟨name, got, rfl⟩)
  | gain free locks =>
    cases got
    have held := (s.isHeld_iff (key name)).2 ⟨j, h⟩
    rw [free] at held
    cases held
  | loss locks => cases got

theorem Sound.move {w : World κ β} (sound : Sound key w) {i : Nat} {c₀ c : Call β}
    (call : w.call? i = some c₀) {s : Stores κ} (e : Happening)
    (handover : Handover key i w.stores s c₀.lock? c.lock?)
    (inside : c.inside = true → ∃ t cycle, c.work = .trigger t (.at (.running cycle))) :
    Sound key (w.move i c s e) := by
  have own : ∀ k, (k, i) ∈ w.stores.locks ↔ ∃ name, c₀.lock? = some name ∧ key name = k := by
    intro k
    rw [sound.owned k i, w.lock?_of_call? call]
  have mem := handover.mem_locks own
  refine ⟨?_, ?_, ?_⟩
  · intro k j
    rw [w.lock?_move call]
    refine (mem k j).trans ?_
    split
    · rfl
    · exact sound.owned k j
  · intro k j j' h h'
    have h := (mem k j).1 h
    have h' := (mem k j').1 h'
    split at h
    · next at_i =>
      obtain ⟨name, got, rfl⟩ := h
      split at h'
      · next at_i' => rw [at_i, at_i']
      · rw [at_i, handover.sole own sound.sole got h']
    · split at h'
      · next at_i' =>
        obtain ⟨name, got, rfl⟩ := h'
        rw [at_i', handover.sole own sound.sole got h]
      · exact sound.sole k j j' h h'
  · exact w.all_move call inside fun j c' _ => sound.inside j c'

end

theorem Sound.vanish {key : String → κ} {w : World κ β} (sound : Sound key w)
    (victim : Nat → Bool) : Sound key (w.vanish victim) where
  owned := by
    intro k i
    rw [w.lock?_vanish]
    change (k, i) ∈ w.stores.locks.filter (fun entry => !victim entry.2) ↔ _
    rw [List.mem_filter, sound.owned k i]
    cases victim i <;> simp
  sole := by
    intro k i j h h'
    exact sound.sole k i j (List.mem_filter.1 h).1 (List.mem_filter.1 h').1
  inside := by
    exact w.all_vanish (fun i c _ => sound.inside i c) sound.inside

theorem Sound.of_eq {key : String → κ} {w : World κ β} (sound : Sound key w) {s : Stores κ}
    (locks : s.locks = w.stores.locks) : Sound key { w with stores := s } where
  owned := by
    intro k i
    change (k, i) ∈ s.locks ↔ _
    rw [locks]
    exact sound.owned k i
  sole := by
    intro k i j h h'
    change (k, _) ∈ s.locks at h h'
    rw [locks] at h h'
    exact sound.sole k i j h h'
  inside := sound.inside

section
variable [DecidableEq κ] {key : String → κ}

theorem Sound.step {w w' : World κ β} {a : Act β} (sound : Sound key w)
    (step : Step key w a w') : Sound key w' := by
  cases step with
  | begin opens => exact sound.begin opens.unstarted
  | @askTrigger i c t p v now call live work asks =>
    obtain ⟨e, st, s, m, asked⟩ := asked_of_trigger key w i c t v now asks
    rw [asked]
    apply sound.move call
    · have handover := m.handover (β := β)
      rw [← work] at handover
      simpa [Call.lock?, live] using handover
    · intro inside
      rw [sound.outside call work asks] at inside
      cases inside
  | @askSweep i c sw p v now call live work =>
    obtain ⟨e, st, s, m, asked⟩ := asked_of_sweep key w i c sw p v now
    rw [asked]
    apply sound.move call
    · have handover := m.handover
      rw [← work] at handover
      simpa [Call.lock?, live] using handover
    · intro inside
      obtain ⟨t', cycle, running⟩ := sound.inside i c call inside
      rw [work] at running
      cases running
  | @invoke i c t cycle call live work outside =>
    apply sound.move call
    · exact .same rfl
    · intro _
      exact ⟨t, cycle, work⟩
  | @finish i c t cycle result call live work inside =>
    apply sound.move call
    · have before : c.lock? = some t.lock := by
        simp [Call.lock?, live, work, Work.lock?, Trigger.Point.holds]
      rw [before]
      simp only [Call.lock?, live]
      cases result <;> exact .same rfl
    · intro inside
      cases inside
  | vanish dooms => exact sound.vanish _
  | post => exact sound.of_eq rfl
  | archive call work message archives => exact sound.of_eq rfl

theorem sound_of_reachable {allowed : Act β → World κ β → Prop} {flags : Memory.Flags}
    {w : World κ β} (reached : Reachable key allowed flags w) : Sound key w := by
  induction reached with
  | idle => exact sound_idle key flags
  | next reached a step ok ih => exact ih.step step

/-- Mutual exclusion, for any number of calls of any processes, over any function from lock names
to keys, whatever fails, panics, is dropped or crashes, at any step. -/
theorem exclusive_of_reachable {flags : Memory.Flags} {w : World κ β}
    (reached : Reachable key (fun _ _ => True) flags w) : Exclusive key w :=
  (sound_of_reachable reached).exclusive

theorem reachable_inside : ∃ w : World String Unit,
    Reachable id (fun _ _ => True) .empty w ∧ w.inside? 0 = some "t" ∧ w.calls.length = 2 := by
  refine ⟨_, Reachable.idle
    |>.next (.trigger 0 single "" .autocommit .execute "t" ⟨[], []⟩)
      (.begin (.trigger single_built rfl)) trivial
    |>.next (.answer 0 .answered ⟨0, 0⟩) (.askTrigger rfl rfl rfl rfl) trivial
    |>.next (.answer 0 .answered ⟨0, 0⟩) (.askTrigger rfl rfl rfl rfl) trivial
    |>.next (.invoke 0) (.invoke rfl rfl rfl rfl) trivial
    |>.next (.trigger 1 single "" .autocommit .execute "t" ⟨[], []⟩)
      (.begin (.trigger single_built rfl)) trivial
    |>.next (.answer 1 .answered ⟨0, 0⟩) (.askTrigger rfl rfl rfl rfl) trivial
    |>.next (.answer 1 .answered ⟨0, 0⟩) (.askTrigger rfl rfl rfl rfl) trivial, rfl, rfl⟩

theorem exclusive_inside : ∃ w : World String Unit,
    Reachable id (fun _ _ => True) .empty w ∧ w.inside? 0 = some "t" ∧ Exclusive id w := by
  obtain ⟨w, reached, inside, -⟩ := reachable_inside
  exact ⟨w, reached, inside, exclusive_of_reachable reached⟩

end

/-! With names for keys, the table is that of the locks in memory. -/

def Stores.names (s : Stores String) : Memory.Locks := ⟨s.locks.map Prod.fst⟩

theorem Stores.isHeld_names (s : Stores String) (name : String) :
    s.names.isHeld name = s.isHeld name := by
  unfold names isHeld Memory.Locks.isHeld
  rw [List.contains_eq_any_beq, List.any_map]
  congr 1
  funext p
  simp [eq_comm, Bool.beq_eq_decide_eq]

theorem Stores.acquire_names (s : Stores String) (call : Nat) (now : Timestamp) (name : String) :
    (s.answer id call now .answered (.acquire name)).1 = .ok (s.names.acquire name).1 ∧
      (s.answer id call now .answered (.acquire name)).2.names = (s.names.acquire name).2 := by
  unfold Memory.Locks.acquire
  rw [s.isHeld_names]
  cases held : s.isHeld name with
  | true => simp [Stores.answer, held]
  | false => simp [Stores.answer, held, Stores.take, Stores.names]

theorem Sound.free_names {w : World String β} (sound : Sound id w) {name : String} {i : Nat}
    (own : (name, i) ∈ w.stores.locks) :
    (w.stores.free name i).names = w.stores.names.free name := by
  unfold Stores.names Stores.free Memory.Locks.free
  rw [List.filter_map]
  congr 2
  apply List.filter_congr
  rintro ⟨name', j⟩ h
  by_cases same : name' = name
  · subst same
    simp [sound.sole _ j i h own]
  · simp [same]

end Coalesce.Interleaving
