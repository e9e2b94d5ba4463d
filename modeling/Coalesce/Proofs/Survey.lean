import Mathlib.Data.List.Forall2
import Coalesce.Proofs.Discipline
import Coalesce.Proofs.Registration

/-! What a sweep makes of the flags it lists. Each of them has one of four fates, the report
accounts for the fates, and the steps of the sweep are those of its flags one after the other. A
probe that fails ends the sweep at its flag. -/
namespace Coalesce

namespace Sweep

inductive Fate where
  | busy
  | unresolved
  | resubmitted
  | failed
  deriving DecidableEq

/-- A flag that a sweep has dealt with, and the steps that it took on it. -/
structure Row where
  flag : Flag
  fate : Fate
  steps : List Answered

def names (fate : Fate) (rows : List Row) : List String :=
  (rows.filter fun row => row.fate = fate).map fun row => row.flag.name

/-- The names of the rows that a message was made for, in the order of the rows. -/
def orphans (rows : List Row) : List String :=
  (rows.filter fun row => row.fate = .resubmitted ∨ row.fate = .failed).map
    fun row => row.flag.name

def probed (name : String) : List Answered :=
  [⟨.acquire name, .ok true⟩, ⟨.release name, .ok ()⟩]

inductive ProbeFails (name : String) (e : Error) : List Answered → Prop where
  | acquiring : ProbeFails name e [⟨.acquire name, .error e⟩]
  | releasing : ProbeFails name e [⟨.acquire name, .ok true⟩, ⟨.release name, .error e⟩]

end Sweep

namespace SweepReport

def ofRows (rows : List Sweep.Row) : SweepReport :=
  { scanned := rows.length
    resubmitted := Sweep.names .resubmitted rows
    busy := rows.countP fun row => row.fate = .busy
    unresolved := Sweep.names .unresolved rows
    failed := Sweep.names .failed rows }

def append (r s : SweepReport) : SweepReport :=
  ⟨r.scanned + s.scanned, r.resubmitted ++ s.resubmitted, r.busy + s.busy,
    r.unresolved ++ s.unresolved, r.failed ++ s.failed⟩

def enter (r : SweepReport) (name : String) : Sweep.Fate → SweepReport
  | .busy => { r with scanned := r.scanned + 1, busy := r.busy + 1 }
  | .unresolved => { r with scanned := r.scanned + 1, unresolved := r.unresolved ++ [name] }
  | .resubmitted => { r with scanned := r.scanned + 1, resubmitted := r.resubmitted ++ [name] }
  | .failed => { r with scanned := r.scanned + 1, failed := r.failed ++ [name] }

end SweepReport

def Request.OfSweep : Request → Prop
  | .raised => True
  | .acquire _ => True
  | .release _ => True
  | .publish _ => True
  | _ => False

def Answered.delivery? : Answered → Option Delivery
  | ⟨.publish delivery, _⟩ => some delivery
  | _ => none

namespace Dispatcher

variable {β σ : Type} (d : Dispatcher β)

structure Resolves (name : String) (identity : Identity) (task : Task β) : Prop where
  read : Identity.ofLockName name = .ok identity
  known : d.registry.find? identity.task = some task

def orphanDelivery (id : String) (identity : Identity) (task : Task β) : Delivery :=
  { queue := task.route.resolve identity.args d.settings.defaultQueue
    exchange := task.exchange
    message := { id, task := identity.task, args := identity.args, kwargs := [], extra := [] } }

/-- The fate of a flag, and the steps that a sweep takes on it. -/
inductive Treated (id name : String) : Sweep.Fate → List Answered → Prop where
  | busy : Treated id name .busy [⟨.acquire name, .ok false⟩]
  | unresolved (unknown : ∀ identity task, ¬d.Resolves name identity task) :
      Treated id name .unresolved (Sweep.probed name)
  | bypassed {identity task} (resolves : d.Resolves name identity task)
      (bypassed : d.settings.bypassBroker = true) :
      Treated id name .resubmitted (Sweep.probed name)
  | resubmitted {identity task} (resolves : d.Resolves name identity task)
      (heard : d.settings.bypassBroker = false) :
      Treated id name .resubmitted
        (Sweep.probed name ++ [⟨.publish (d.orphanDelivery id identity task), .ok ()⟩])
  | failed {identity task} (resolves : d.Resolves name identity task)
      (heard : d.settings.bypassBroker = false) (e : Error) :
      Treated id name .failed
        (Sweep.probed name ++ [⟨.publish (d.orphanDelivery id identity task), .error e⟩])

def Carries (name : String) (delivery : Delivery) : Prop :=
  ∃ id identity task, d.Resolves name identity task ∧
    delivery = d.orphanDelivery id identity task

/-- Rows that come after `n` others. Ids are drawn by the number of flags seen. -/
inductive Surveyed (fresh : Nat → String) : Nat → List Sweep.Row → Prop where
  | nil (n : Nat) : Surveyed fresh n []
  | cons {n row rows} (first : d.Treated (fresh (n + 1)) row.flag.name row.fate row.steps)
      (others : Surveyed fresh (n + 1) rows) : Surveyed fresh n (row :: rows)

/-- The ways in which a sweep of some flags can end that goes on from a report. -/
inductive Swept (fresh : Nat → String) (report : SweepReport) (flags : List Flag)
    (steps : List Answered) : Except Error SweepReport → Prop where
  | finished {rows : List Sweep.Row} (listed : flags = rows.map Sweep.Row.flag)
      (all : steps = rows.flatMap Sweep.Row.steps)
      (surveyed : d.Surveyed fresh report.scanned rows) :
      Swept fresh report flags steps (.ok (report.append (.ofRows rows)))
  | brokenOff {rows : List Sweep.Row} {flag after last e}
      (listed : flags = rows.map Sweep.Row.flag ++ flag :: after)
      (all : steps = rows.flatMap Sweep.Row.steps ++ last)
      (surveyed : d.Surveyed fresh report.scanned rows)
      (fails : Sweep.ProbeFails flag.name e last) : Swept fresh report flags steps (.error e)

end Dispatcher

theorem Sweep.Runs.ofSweep {β : Type} {sw : Sweep β} {state : Sweep.State} {steps : List Answered}
    {result : Except Error SweepReport} (runs : sw.Runs state steps result) :
    ∀ step ∈ steps, step.request.OfSweep := by
  induction runs with
  | done => exact nofun
  | @step p _ _ _ _ ih => exact List.forall_mem_cons.2 ⟨by cases p <;> trivial, ih⟩

namespace SweepReport

theorem scanned_enter (r : SweepReport) (name : String) (fate : Sweep.Fate) :
    (r.enter name fate).scanned = r.scanned + 1 := by
  cases fate <;> rfl

theorem enter_append (r : SweepReport) (row : Sweep.Row) (rows : List Sweep.Row) :
    (r.enter row.flag.name row.fate).append (ofRows rows) = r.append (ofRows (row :: rows)) := by
  obtain ⟨flag, fate, steps⟩ := row
  cases fate <;> simp [enter, append, ofRows, Sweep.names] <;> omega

@[simp] theorem append_ofRows_nil (r : SweepReport) : r.append (ofRows []) = r := by
  simp [append, ofRows, Sweep.names]

@[simp] theorem empty_append (r : SweepReport) : empty.append r = r := by
  simp [append, empty]

end SweepReport

namespace Dispatcher

variable {β σ : Type} {d : Dispatcher β} {fresh : Nat → String} {n : Nat} {flags rest : List Flag}
  {steps more : List Answered} {report : SweepReport} {flag : Flag} {rows : List Sweep.Row}
  {result : Except Error SweepReport} {identity : Identity} {task : Task β}

theorem resolve?_eq_some {name : String} :
    d.resolve? name = some (identity, task) ↔ d.Resolves name identity task := by
  constructor
  · intro found
    exact ⟨(of_resolve? found).1, (of_resolve? found).2⟩
  · rintro ⟨read, known⟩
    simp only [resolve?, read, known, Option.map_some]

theorem prepare_delivery (named : d.registry.Named) (id : String) {name : String}
    (resolves : d.Resolves name identity task) :
    (d.publisher.prepare id task ⟨identity.args, []⟩ .default).delivery =
      d.orphanDelivery id identity task := by
  have same : task.name = identity.task := named _ _ resolves.known
  simp only [orphanDelivery, ← same]
  rfl

theorem Swept.cons {fate : Sweep.Fate}
    (first : d.Treated (fresh (report.scanned + 1)) flag.name fate steps)
    (others : d.Swept fresh (report.enter flag.name fate) rest more result) :
    d.Swept fresh report (flag :: rest) (steps ++ more) result := by
  cases others with
  | finished listed all surveyed =>
    rw [SweepReport.scanned_enter] at surveyed
    rw [SweepReport.enter_append report ⟨flag, fate, steps⟩]
    exact .finished (by rw [listed]; rfl) (by rw [all]; rfl) (.cons first surveyed)
  | @brokenOff rows unseen after last e listed all surveyed fails =>
    rw [SweepReport.scanned_enter] at surveyed
    have longer : flag :: rest =
        (⟨flag, fate, steps⟩ :: rows : List Sweep.Row).map Sweep.Row.flag ++ unseen :: after := by
      rw [listed]
      rfl
    refine .brokenOff longer ?_ (.cons first surveyed) fails
    rw [all, ← List.append_assoc]
    rfl

theorem swept_of_fails {e : Error} (fails : Sweep.ProbeFails flag.name e steps) :
    d.Swept fresh report (flag :: rest) steps (.error e) := by
  have first : flag :: rest = ([] : List Sweep.Row).map Sweep.Row.flag ++ flag :: rest := rfl
  exact .brokenOff first rfl (.nil _) fails

theorem swept_of_orphaned (named : d.registry.Named)
    (ih : ∀ fate more,
      (d.sweep fresh).Runs (Sweep.next (report.enter flag.name fate) rest).2 more result →
        d.Swept fresh (report.enter flag.name fate) rest more result)
    (runs : (d.sweep fresh).Runs
      ((d.sweep fresh).orphaned { report with scanned := report.scanned + 1 } flag.name rest).2
      steps result) :
    d.Swept fresh report (flag :: rest) (Sweep.probed flag.name ++ steps) result := by
  cases found : d.resolve? flag.name with
  | none =>
    rw [orphaned_of_unresolved _ _ found] at runs
    refine .cons (.unresolved fun identity task resolves => ?_) (ih .unresolved steps runs)
    rw [resolve?_eq_some.2 resolves] at found
    cases found
  | some resolved =>
    obtain ⟨identity, task⟩ := resolved
    have resolves := resolve?_eq_some.1 found
    have message := prepare_delivery named (fresh (report.scanned + 1)) resolves
    rw [orphaned_of_resolved _ _ found] at runs
    cases heard : d.settings.bypassBroker with
    | true =>
      rw [if_neg (by simp [publisher, Publisher.prepare, Publisher.ofSettings, heard])] at runs
      exact .cons (.bypassed resolves heard) (ih .resubmitted steps runs)
    | false =>
      rw [if_pos (by simp [publisher, Publisher.prepare, Publisher.ofSettings, heard])] at runs
      obtain ⟨reply, more, all, later⟩ := Sweep.Runs.of_at runs
      change steps = ⟨.publish (d.publisher.prepare _ _ _ _).delivery, reply⟩ :: more at all
      rw [message] at all
      rw [all, List.append_cons]
      match reply with
      | .ok () => exact .cons (.resubmitted resolves heard) (ih .resubmitted more later)
      | .error e => exact .cons (.failed resolves heard e) (ih .failed more later)

theorem swept_of_next (named : d.registry.Named) (flags : List Flag) (report : SweepReport)
    (steps : List Answered) (runs : (d.sweep fresh).Runs (Sweep.next report flags).2 steps result) :
    d.Swept fresh report flags steps result := by
  induction flags generalizing report steps with
  | nil =>
    obtain ⟨rfl, rfl⟩ := Sweep.Runs.of_done runs
    have none : d.Swept fresh report [] [] (.ok (report.append (.ofRows []))) :=
      .finished rfl rfl (.nil report.scanned)
    rwa [SweepReport.append_ofRows_nil] at none
  | cons flag rest ih =>
    obtain ⟨reply, more, rfl, later⟩ := Sweep.Runs.of_at runs
    clear runs
    match reply with
    | .error e =>
      obtain ⟨rfl, rfl⟩ := later.of_done
      exact swept_of_fails .acquiring
    | .ok false => exact .cons .busy (ih (report.enter flag.name .busy) more later)
    | .ok true =>
      obtain ⟨given, last, rfl, left⟩ := later.of_at
      clear later
      match given with
      | .error e =>
        obtain ⟨rfl, rfl⟩ := left.of_done
        exact swept_of_fails .releasing
      | .ok () => exact swept_of_orphaned named (fun fate => ih (report.enter flag.name fate)) left

/-- The answers that a sweep gets for a flag decide its fate. -/
structure Decided (d : Dispatcher β) (name : String) (fate : Sweep.Fate)
    (steps : List Answered) : Prop where
  busy : fate = .busy ↔ ⟨.acquire name, .ok false⟩ ∈ steps
  unresolved : fate = .unresolved ↔
    ⟨.acquire name, .ok true⟩ ∈ steps ∧ ∀ identity task, ¬d.Resolves name identity task
  resubmitted : fate = .resubmitted ↔
    ⟨.acquire name, .ok true⟩ ∈ steps ∧ (∃ identity task, d.Resolves name identity task) ∧
      ∀ delivery e, ⟨.publish delivery, .error e⟩ ∉ steps
  failed : fate = .failed ↔
    ⟨.acquire name, .ok true⟩ ∈ steps ∧ (∃ identity task, d.Resolves name identity task) ∧
      ∃ delivery e, ⟨.publish delivery, .error e⟩ ∈ steps

variable {id name : String} {fate : Sweep.Fate}

theorem Treated.decided (treated : d.Treated id name fate steps) : d.Decided name fate steps := by
  cases treated with
  | busy => constructor <;> simp
  | unresolved unknown => constructor <;> simp [Sweep.probed, unknown]
  | bypassed resolves =>
    have known : ∃ identity task, d.Resolves name identity task := ⟨_, _, resolves⟩
    constructor <;> simp [Sweep.probed, known]
  | resubmitted resolves =>
    have known : ∃ identity task, d.Resolves name identity task := ⟨_, _, resolves⟩
    constructor <;> simp [Sweep.probed, known]
  | failed resolves heard e =>
    have known : ∃ identity task, d.Resolves name identity task := ⟨_, _, resolves⟩
    constructor <;> simp [Sweep.probed, known]

theorem Treated.released (treated : d.Treated id name fate steps) (lock : String) (e : Error) :
    ⟨.release lock, .error e⟩ ∉ steps := by
  cases treated <;> simp [Sweep.probed]

theorem Treated.deliveries_of_bypass (treated : d.Treated id name fate steps)
    (bypassed : d.settings.bypassBroker = true) : steps.filterMap Answered.delivery? = [] := by
  cases treated with
  | busy | unresolved | bypassed => rfl
  | resubmitted _ heard | failed _ heard =>
    rw [bypassed] at heard
    cases heard

theorem Surveyed.treated (surveyed : d.Surveyed fresh n rows) :
    ∀ row ∈ rows, ∃ id, d.Treated id row.flag.name row.fate row.steps := by
  induction surveyed with
  | nil => exact nofun
  | cons first _ ih => exact List.forall_mem_cons.2 ⟨⟨_, first⟩, ih⟩

theorem Surveyed.deliveries (surveyed : d.Surveyed fresh n rows)
    (heard : d.settings.bypassBroker = false) :
    List.Forall₂ d.Carries (Sweep.orphans rows)
      ((rows.flatMap Sweep.Row.steps).filterMap Answered.delivery?) := by
  induction surveyed with
  | nil => exact .nil
  | @cons n row rows first _ ih =>
    obtain ⟨flag, fate, steps⟩ := row
    rw [List.flatMap_cons, List.filterMap_append]
    change d.Treated _ flag.name fate steps at first
    cases first with
    | busy | unresolved => exact ih
    | bypassed _ bypassed =>
      rw [heard] at bypassed
      cases bypassed
    | resubmitted resolves | failed resolves => exact .cons ⟨_, _, _, resolves, rfl⟩ ih

end Dispatcher

namespace SweepReport

theorem scanned_ofRows (rows : List Sweep.Row) :
    (ofRows rows).scanned = (ofRows rows).busy + (ofRows rows).resubmitted.length +
      (ofRows rows).unresolved.length + (ofRows rows).failed.length := by
  induction rows with
  | nil => rfl
  | cons row rows ih =>
    obtain ⟨flag, fate, steps⟩ := row
    simp only [ofRows, Sweep.names, List.length_map] at ih ⊢
    cases fate <;> simp <;> omega

end SweepReport

namespace Dispatcher

variable {β : Type} {d : Dispatcher β} {fresh : Nat → String} {n : Nat} {rows : List Sweep.Row}

structure Classified (d : Dispatcher β) (fresh : Nat → String) (report : SweepReport)
    (trace : List Answered) (rows : List Sweep.Row) : Prop where
  surveyed : d.Surveyed fresh 0 rows
  decided : ∀ row ∈ rows, d.Decided row.flag.name row.fate row.steps
  steps : trace = ⟨.raised, .ok (rows.map Sweep.Row.flag)⟩ :: rows.flatMap Sweep.Row.steps
  reported : report = .ofRows rows
  scanned : report.scanned = rows.length
  total : report.scanned = report.busy + report.resubmitted.length + report.unresolved.length +
    report.failed.length
  ordered : ∀ fate, (Sweep.names fate rows).Sublist (rows.map fun row => row.flag.name)
  sent : d.settings.bypassBroker = false →
    List.Forall₂ d.Carries (Sweep.orphans rows) (trace.filterMap Answered.delivery?)
  bypassed : d.settings.bypassBroker = true → trace.filterMap Answered.delivery? = []
  released : ∀ before lock after, trace = before ++ ⟨.acquire lock, .ok true⟩ :: after →
    ∃ rest, after = ⟨.release lock, .ok ()⟩ :: rest

structure BrokenOff (d : Dispatcher β) (fresh : Nat → String) (e : Error) (trace : List Answered)
    (rows : List Sweep.Row) (flag : Flag) (unseen : List Flag) (last : List Answered) : Prop where
  surveyed : d.Surveyed fresh 0 rows
  decided : ∀ row ∈ rows, d.Decided row.flag.name row.fate row.steps
  steps : trace = ⟨.raised, .ok (rows.map Sweep.Row.flag ++ flag :: unseen)⟩ ::
    (rows.flatMap Sweep.Row.steps ++ last)
  fails : Sweep.ProbeFails flag.name e last

theorem Surveyed.decided (surveyed : d.Surveyed fresh n rows) :
    ∀ row ∈ rows, d.Decided row.flag.name row.fate row.steps := by
  intro row listed
  obtain ⟨id, treated⟩ := surveyed.treated row listed
  exact treated.decided

theorem Surveyed.deliveries_of_bypass (surveyed : d.Surveyed fresh n rows)
    (bypassed : d.settings.bypassBroker = true) :
    (rows.flatMap Sweep.Row.steps).filterMap Answered.delivery? = [] := by
  induction surveyed with
  | nil => rfl
  | cons first _ ih =>
    rw [List.flatMap_cons, List.filterMap_append, ih, first.deliveries_of_bypass bypassed]
    rfl

theorem Surveyed.classified (surveyed : d.Surveyed fresh 0 rows) {trace : List Answered}
    (steps : trace = ⟨.raised, .ok (rows.map Sweep.Row.flag)⟩ :: rows.flatMap Sweep.Row.steps)
    (disciplined : Disciplined False trace) :
    d.Classified fresh (.ofRows rows) trace rows where
  surveyed := surveyed
  decided := surveyed.decided
  steps := steps
  reported := rfl
  scanned := rfl
  total := SweepReport.scanned_ofRows rows
  ordered fate := (List.filter_sublist).map _
  sent heard := by
    rw [steps]
    exact surveyed.deliveries heard
  bypassed bypassed := by
    rw [steps]
    exact surveyed.deliveries_of_bypass bypassed
  released before lock after split := by
    obtain ⟨inside, reply, rest, same, none | ⟨executes, -⟩⟩ :=
      disciplined.handled before lock after split
    · subst none
      match reply with
      | .ok () => exact ⟨rest, same⟩
      | .error e =>
        have failed : ⟨.release lock, .error e⟩ ∈ rows.flatMap Sweep.Row.steps := by
          have taken : ⟨.release lock, .error e⟩ ∈ trace := by simp [split, same]
          simpa [steps] using taken
        obtain ⟨row, listed, among⟩ := List.mem_flatMap.1 failed
        obtain ⟨id, treated⟩ := surveyed.treated row listed
        exact absurd among (treated.released lock e)
    · exact executes.elim

/-- Every flag that a sweep lists has one fate, which the answers of its own steps decide, and the
report accounts for all of them. A probe that fails ends the sweep, with the flags before it dealt
with and those after it untouched. -/
theorem classified_of_swept (named : d.registry.Named) (fresh : Nat → String) {σ : Type}
    (b : Backend σ) (s : σ) :
    let trace := (d.sweep fresh).trace b Sweep.start.2 s
    let result := ((d.sweep fresh).drive b Sweep.start.2 s).2.1
    (∀ report, result = .ok report → ∃ rows, d.Classified fresh report trace rows) ∧
      (∀ e, result = .error e → trace = [⟨.raised, .error e⟩] ∨
        ∃ rows flag unseen last, d.BrokenOff fresh e trace rows flag unseen last) ∧
      (∀ step ∈ trace, step.request.OfSweep) ∧ Balanced trace := by
  intro trace result
  have runs : (d.sweep fresh).Runs (.at .listing) trace result :=
    (d.sweep fresh).runs_drive b Sweep.start.2 s
  have disciplined : Disciplined False trace :=
    (((d.sweep fresh).orderly_trace b Sweep.start.2 s).disciplined rfl).mono nofun
  have quiet := runs.ofSweep
  obtain ⟨reply, steps, all, later⟩ := runs.of_at
  match reply with
  | .error e =>
    obtain ⟨rfl, ends⟩ := later.of_done
    refine ⟨?_, ?_, quiet, disciplined.returned⟩
    · intro report returned
      rw [ends] at returned
      cases returned
    · intro e' returned
      rw [ends] at returned
      cases returned
      exact .inl all
  | .ok flags =>
    have swept : d.Swept fresh .empty flags steps result := swept_of_next named flags _ steps later
    refine ⟨?_, ?_, quiet, disciplined.returned⟩
    · intro report returned
      rw [returned] at swept
      cases swept with
      | @finished rows listed taken surveyed =>
        rw [SweepReport.empty_append]
        rw [listed, taken] at all
        exact ⟨rows, surveyed.classified all disciplined⟩
    · intro e returned
      rw [returned] at swept
      cases swept with
      | @brokenOff rows flag unseen last e listed taken surveyed fails =>
        rw [listed, taken] at all
        exact .inr ⟨rows, flag, unseen, last, surveyed, surveyed.decided, all, fails⟩

section

def patient : Backend Unit where
  answer r _ :=
    (match r with
      | .raised => .ok (["v:[1]", "u", "t:[]"].map fun name => ⟨name, ⟨1700000000, 0⟩⟩)
      | .acquire name => .ok (name ≠ "v:[1]")
      | .release _ => .ok ()
      | .publish _ => .ok ()
      | .raise _ => .ok .created
      | .isRaised _ => .ok true
      | .lower _ => .ok ()
      | .invoke _ _ => .ok .null, ())

/-- One flag is busy, one stands for no registered task, and one is resubmitted. -/
theorem classified_of_swept_patient :
    let d : Dispatcher Unit := ⟨Registry.empty.put (.ofBody "t" ()), .default⟩
    d.registry.Named ∧ ∃ rows, d.Classified toString ⟨3, ["t:[]"], 1, ["u"], []⟩
      ((d.sweep toString).trace patient Sweep.start.2 ()) rows := by
  intro d
  have named : d.registry.Named := Registry.named_empty.put _
  let sw := d.sweep toString
  let t : Task Unit := .ofBody "t" ()
  let p := d.publisher.prepare (toString 3) t ⟨[], []⟩ .default
  let busy : SweepReport := ⟨2, [], 1, [], []⟩
  let strange : SweepReport := ⟨3, [], 1, ["u"], []⟩
  let last : Flag := ⟨"t:[]", ⟨1700000000, 0⟩⟩
  have unknown : d.resolve? "u" = none := by decide +kernel
  have read : Identity.ofLockName "t:[]" = .ok ⟨"t", []⟩ := by with_unfolding_all rfl
  have known : d.resolve? "t:[]" = some (⟨"t", []⟩, t) := by
    rw [resolve?, read]
    rfl
  have ends : (sw.drive patient Sweep.start.2 ()).2 = (.ok ⟨3, ["t:[]"], 1, ["u"], []⟩, ()) := calc
    _ = (sw.drive patient
          (.at (.probing ⟨1, [], 0, [], []⟩ "v:[1]" [⟨"u", ⟨1700000000, 0⟩⟩, last])) ()).2 :=
      sw.snd_drive_at patient (p := .listing) rfl
    _ = (sw.drive patient (.at (.probing busy "u" [last])) ()).2 :=
      sw.snd_drive_at patient (p := .probing _ _ _) rfl
    _ = (sw.drive patient (sw.orphaned busy "u" [last]).2 ()).2 :=
      sw.snd_drive_free patient rfl rfl
    _ = (sw.drive patient (.at (.probing strange "t:[]" [])) ()).2 := by
      rw [orphaned_of_unresolved _ _ unknown]
      rfl
    _ = (sw.drive patient (sw.orphaned strange "t:[]" []).2 ()).2 :=
      sw.snd_drive_free patient rfl rfl
    _ = (sw.drive patient (.at (.publishing strange "t:[]" [] p)) ()).2 := by
      rw [orphaned_of_resolved _ _ known]
      rfl
    _ = (sw.drive patient (.done (.ok ⟨3, ["t:[]"], 1, ["u"], []⟩)) ()).2 :=
      sw.snd_drive_at patient (p := .publishing _ _ _ _) rfl
    _ = _ := sw.snd_drive_done patient _ ()
  obtain ⟨finished, -⟩ := classified_of_swept named toString patient ()
  exact ⟨named, finished _ (congrArg Prod.fst ends)⟩

end

end Dispatcher

end Coalesce
