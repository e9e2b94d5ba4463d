import Coalesce.Memory.Store
import Coalesce.Proofs.Maps
import Coalesce.Server.Flags

/-! The two stores of flags, the one in memory and the one of the server, answer every sequence of
calls in the same way. Both keep a finite map from names to the instants at which they were raised,
the one in order of name and the other in the order in which they came, and both list it by instant
and then by name. -/
namespace Coalesce

namespace Timestamp

variable {a b c : Timestamp}

theorem le_iff : a.le b = true ↔
    a.seconds < b.seconds ∨ a.seconds = b.seconds ∧ a.nanos ≤ b.nanos := by
  simp [le]

theorem le_trans (ab : a.le b = true) (bc : b.le c = true) : a.le c = true := by
  rw [le_iff] at *
  omega

theorem le_total (a b : Timestamp) : a.le b = true ∨ b.le a = true := by
  rw [le_iff, le_iff]
  omega

theorem le_antisymm (ab : a.le b = true) (ba : b.le a = true) : a = b := by
  rw [le_iff] at *
  obtain ⟨s, n⟩ := a
  obtain ⟨s', n'⟩ := b
  simp only [mk.injEq] at *
  omega

end Timestamp

/-! Sorting keeps the order of what it does not tell apart. -/

section
variable {α : Type} {le : α → α → Bool} {R : α → α → Prop}

theorem pairwise_mergeSort_of_pairwise
    (trans : ∀ a b c, le a b = true → le b c = true → le a c = true)
    (total : ∀ a b, (le a b || le b a) = true) {l : List α} (ordered : l.Pairwise R) :
    (l.mergeSort le).Pairwise fun a b => le a b = true ∧ (le b a = true → R a b) := by
  induction l with
  | nil => simp
  | cons a l ih =>
    obtain ⟨first, rest⟩ := List.pairwise_cons.1 ordered
    obtain ⟨l₁, l₂, placed, split, later⟩ := List.mergeSort_cons trans total a l
    have sorted := List.pairwise_mergeSort trans total (a :: l)
    have kept := ih rest
    have member (b : α) (mem : b ∈ l₂) : b ∈ l :=
      (List.mergeSort_perm l le).mem_iff.1 (split ▸ List.mem_append_right l₁ mem)
    rw [split, List.pairwise_append] at kept
    rw [placed, List.pairwise_append, List.pairwise_cons] at sorted ⊢
    obtain ⟨kept₁, kept₂, across⟩ := kept
    obtain ⟨-, ⟨after, -⟩, before⟩ := sorted
    refine ⟨kept₁, ⟨fun b mem => ⟨after b mem, fun _ => first b (member b mem)⟩, kept₂⟩, ?_⟩
    intro b mem c mem'
    obtain rfl | mem' := List.mem_cons.1 mem'
    · refine ⟨before b mem c List.mem_cons_self, fun same => ?_⟩
      exact absurd same (by simpa using later b mem)
    · exact across b mem c mem'

end

/-! Flags in their order. -/

def Flag.Before (a b : Flag) : Prop :=
  a.raisedAt.le b.raisedAt = true ∧ (a.raisedAt = b.raisedAt → a.name < b.name)

namespace Server.Tables

theorem flagOrder_iff {a b : Flag} : flagOrder a b = true ↔
    a.raisedAt.le b.raisedAt = true ∧ (a.raisedAt = b.raisedAt → a.name ≤ b.name) := by
  unfold flagOrder
  split
  · next same => simp [same, Timestamp.le_iff]
  · next differ => simp [differ]

theorem flagOrder_trans (a b c : Flag) (ab : flagOrder a b = true) (bc : flagOrder b c = true) :
    flagOrder a c = true := by
  rw [flagOrder_iff] at *
  refine ⟨Timestamp.le_trans ab.1 bc.1, fun same => ?_⟩
  have here : a.raisedAt = b.raisedAt := Timestamp.le_antisymm ab.1 (same ▸ bc.1)
  exact (ab.2 here).trans (bc.2 (here.symm.trans same))

theorem flagOrder_total (a b : Flag) : (flagOrder a b || flagOrder b a) = true := by
  rw [Bool.or_eq_true, flagOrder_iff, flagOrder_iff]
  by_cases same : a.raisedAt = b.raisedAt
  · have now : b.raisedAt.le b.raisedAt = true := by simp [Timestamp.le_iff]
    simpa [same, now] using le_total a.name b.name
  · simpa [same, Ne.symm same] using Timestamp.le_total a.raisedAt b.raisedAt

theorem flagOrder_antisymm {a b : Flag} (ab : flagOrder a b = true) (ba : flagOrder b a = true) :
    a = b := by
  rw [flagOrder_iff] at *
  have same : a.raisedAt = b.raisedAt := Timestamp.le_antisymm ab.1 ba.1
  have name : a.name = b.name := le_antisymm (ab.2 same) (ba.2 same.symm)
  obtain ⟨_, _⟩ := a
  cases same
  cases name
  rfl

theorem flagOrder_of_before {a b : Flag} (before : a.Before b) : flagOrder a b = true :=
  flagOrder_iff.2 ⟨before.1, fun same => (before.2 same).le⟩

end Server.Tables

/-! Calls on a store of flags. -/

inductive FlagCall where
  | raise (name : String)
  | isRaised (name : String)
  | lower (name : String)
  | list

abbrev FlagCall.Answer : FlagCall → Type
  | .raise _ => Raise
  | .isRaised _ => Bool
  | .lower _ => Unit
  | .list => List Flag

/-- What answers calls, each at its instant. -/
structure FlagStore (σ : Type) where
  answer : Timestamp → (c : FlagCall) → σ → Except Error c.Answer × σ

def FlagStore.serve {σ : Type} (store : FlagStore σ) :
    List (Timestamp × FlagCall) → σ → List (Σ c : FlagCall, Except Error c.Answer) × σ
  | [], s => ([], s)
  | (now, c) :: rest, s =>
    let (a, s) := store.answer now c s
    let (answers, s) := store.serve rest s
    (⟨c, a⟩ :: answers, s)

def Memory.Flags.store : FlagStore Memory.Flags where
  answer
    | now, .raise name, f => (.ok (f.raise name now).1, (f.raise name now).2)
    | _, .isRaised name, f => (.ok (f.isRaised name), f)
    | _, .lower name, f => (.ok (), f.lower name)
    | _, .list, f => (.ok f.list, f)

namespace Server.Flags

def query : (c : FlagCall) → Query c.Answer
  | .raise name => raise name
  | .isRaised name => isRaised name
  | .lower name => lower name
  | .list => list

def store : FlagStore Link where
  answer now c l :=
    match query c { l with clock := now } with
    | .ok a l => (.ok a, l)
    | .error e l => (.error e, l)

end Server.Flags

abbrev Standing := String → Option Timestamp

/-- A flag that is up stands as it was raised first. -/
def FlagCall.change (now : Timestamp) : FlagCall → Standing → Standing
  | .raise name, m => Function.update m name (some ((m name).getD now))
  | .lower name, m => Function.update m name none
  | _, m => m

def standing (calls : List (Timestamp × FlagCall)) : Standing :=
  calls.foldl (fun m call => call.2.change call.1 m) fun _ => none

/-! What the stores keep. -/

def Flag.ofRow (row : String × Timestamp) : Flag := ⟨row.1, row.2⟩

@[simp] theorem Flag.name_ofRow (row : String × Timestamp) : (Flag.ofRow row).name = row.1 := rfl

structure Agree (m : Standing) (f : Memory.Flags) (t : Server.Tables) : Prop where
  sorted : f.rows.Sorted
  stands : ∀ name, f.rows.get? name = m name
  same : t.flags.Perm (f.rows.map Flag.ofRow)

namespace Agree

variable {m : Standing} {f : Memory.Flags} {t : Server.Tables}

theorem mem_list (agree : Agree m f t) (flag : Flag) :
    flag ∈ f.list ↔ m flag.name = some flag.raisedAt := by
  have listed : flag ∈ f.list ↔ flag ∈ f.rows.map Flag.ofRow := (List.mergeSort_perm _ _).mem_iff
  rw [listed, ← agree.stands, ← agree.sorted.mem_iff, List.mem_map]
  constructor
  · rintro ⟨row, mem, rfl⟩
    exact mem
  · exact fun mem => ⟨_, mem, rfl⟩

theorem isRaised_memory (agree : Agree m f t) (name : String) :
    f.isRaised name = (m name).isSome := by
  rw [Memory.Flags.isRaised, Table.contains, agree.stands]

theorem isRaised_server (agree : Agree m f t) (name : String) :
    t.isRaised name = f.isRaised name := by
  rw [Bool.eq_iff_iff, Memory.Flags.isRaised, Table.contains_iff_mem_keys, Server.Tables.isRaised,
    List.any_eq_true, Table.keys, List.mem_map]
  constructor
  · rintro ⟨flag, mem, named⟩
    obtain ⟨row, there, rfl⟩ := List.mem_map.1 (agree.same.mem_iff.1 mem)
    exact ⟨row, there, by simpa using named⟩
  · rintro ⟨row, there, named⟩
    exact ⟨.ofRow row, agree.same.mem_iff.2 (List.mem_map_of_mem there), by simpa using named⟩

theorem pairwise_list (agree : Agree m f t) : f.list.Pairwise Flag.Before := by
  have named : (f.rows.map Flag.ofRow).Pairwise fun a b => a.name < b.name := by
    rw [List.pairwise_map]
    exact List.pairwise_map.1 agree.sorted
  refine (pairwise_mergeSort_of_pairwise ?trans ?total named).imp ?before
  case trans => exact fun _ _ _ => Timestamp.le_trans
  case total =>
    intro a b
    rw [Bool.or_eq_true]
    exact Timestamp.le_total _ _
  case before =>
    exact fun ordered => ⟨ordered.1, fun same => ordered.2 (by rw [same]; simp [Timestamp.le_iff])⟩

theorem sortedFlags_eq (agree : Agree m f t) : t.sortedFlags = f.list := by
  have sorted := List.pairwise_mergeSort Server.Tables.flagOrder_trans
    Server.Tables.flagOrder_total t.flags
  refine List.Perm.eq_of_pairwise (fun a b _ _ => Server.Tables.flagOrder_antisymm) sorted
    (agree.pairwise_list.imp Server.Tables.flagOrder_of_before) ?_
  exact (List.mergeSort_perm _ _).trans (agree.same.trans (List.mergeSort_perm _ _).symm)

theorem raise (agree : Agree m f t) (name : String) (now : Timestamp) :
    (t.raise name now).1 = (f.raise name now).1 ∧
      Agree ((FlagCall.raise name).change now m) (f.raise name now).2 (t.raise name now).2 := by
  have there := agree.isRaised_server name
  have known := agree.isRaised_memory name
  unfold Server.Tables.raise Memory.Flags.raise
  rw [there]
  unfold Memory.Flags.isRaised at *
  cases up : f.rows.contains name with
  | true =>
    obtain ⟨first, stands⟩ := Option.isSome_iff_exists.1 (known.symm.trans up)
    have kept : (FlagCall.raise name).change now m = m := by
      simp [FlagCall.change, stands, Function.update_eq_self_iff]
    rw [kept]
    exact ⟨rfl, agree.sorted, agree.stands, agree.same⟩
  | false =>
    have down : m name = none := by
      simpa [up] using known.symm
    refine ⟨rfl, agree.sorted.insert name now, fun other => ?stands, ?same⟩
    case stands =>
      by_cases same : other = name
      · subst same
        simp [FlagCall.change, Table.get?_insert_self, down]
      · simp [FlagCall.change, Table.get?_insert_of_ne same, same, agree.stands]
    case same =>
      have added := ((Table.insert_perm up now).map Flag.ofRow).symm
      exact (List.perm_append_singleton _ _).trans ((agree.same.cons _).trans added)

theorem raise_of_alreadyUp (agree : Agree m f t) {name : String} {now : Timestamp}
    (up : (f.raise name now).1 = .alreadyUp) :
    (f.raise name now).2.list = f.list ∧ (t.raise name now).2 = t := by
  have raised : f.isRaised name = true := by
    rw [Memory.Flags.raise_fst] at up
    by_contra down
    simp [down] at up
  have there : t.isRaised name = true := (agree.isRaised_server name).trans raised
  constructor
  · unfold Memory.Flags.raise
    rw [if_pos (show f.rows.contains name = true from raised)]
    rfl
  · unfold Server.Tables.raise
    rw [if_pos there]

theorem lower (agree : Agree m f t) (name : String) (now : Timestamp) :
    Agree ((FlagCall.lower name).change now m) (f.lower name) (t.lower name) where
  sorted := agree.sorted.filter _
  stands other := by
    by_cases same : other = name
    · subst same
      simp [FlagCall.change, Memory.Flags.lower, Table.get?_erase_self]
    · simp [FlagCall.change, Memory.Flags.lower, Table.get?_erase_of_ne same, same, agree.stands]
  same := by
    have left := agree.same.filter fun flag => flag.name ≠ name
    rwa [List.filter_map] at left

theorem answer {l : Server.Link} (agree : Agree m f l.tables) (served : l.verdicts = [])
    (now : Timestamp) (c : FlagCall) :
    let told := Server.Flags.store.answer now c l
    let answer := Memory.Flags.store.answer now c f
    told.1 = answer.1 ∧ Agree (c.change now m) answer.2 told.2.tables ∧ told.2.verdicts = [] := by
  obtain ⟨tables, clock, verdicts, events⟩ := l
  subst served
  cases c with
  | raise name =>
    obtain ⟨same, kept⟩ := agree.raise name now
    exact ⟨congrArg Except.ok same, kept, rfl⟩
  | isRaised name => exact ⟨congrArg Except.ok (agree.isRaised_server name), agree, rfl⟩
  | lower name => exact ⟨rfl, agree.lower name now, rfl⟩
  | list => exact ⟨congrArg Except.ok agree.sortedFlags_eq, agree, rfl⟩

theorem serve {l : Server.Link} (agree : Agree m f l.tables) (served : l.verdicts = [])
    (calls : List (Timestamp × FlagCall)) :
    let told := Server.Flags.store.serve calls l
    let answers := Memory.Flags.store.serve calls f
    told.1 = answers.1 ∧
      Agree (calls.foldl (fun m call => call.2.change call.1 m) m) answers.2 told.2.tables := by
  induction calls generalizing m f l with
  | nil => exact ⟨rfl, agree⟩
  | cons call calls ih =>
    obtain ⟨now, c⟩ := call
    obtain ⟨same, kept, served⟩ := agree.answer served now c
    obtain ⟨later, last⟩ := ih kept served
    refine ⟨?_, last⟩
    simp only [FlagStore.serve]
    rw [same, later]

theorem empty (queues : Table Server.Queue) (notices : List String) :
    Agree (fun _ => none) .empty ⟨[], queues, notices⟩ where
  sorted := .nil
  stands _ := rfl
  same := .refl _

end Agree

/-- The two stores of flags tell the same about every sequence of calls, whatever their instants:
they list each flag that stands once, by instant and then by name, and a flag that is raised again
stays as it was. -/
theorem stores_agree (calls : List (Timestamp × FlagCall)) (queues : Table Server.Queue)
    (notices : List String) (clock : Timestamp) (events : List Event) :
    let memory := Memory.Flags.store.serve calls .empty
    let server := Server.Flags.store.serve calls ⟨⟨[], queues, notices⟩, clock, [], events⟩
    server.1 = memory.1 ∧ server.2.tables.sortedFlags = memory.2.list ∧
      memory.2.list.Pairwise Flag.Before ∧ (memory.2.list.map Flag.name).Nodup ∧
      (∀ flag, flag ∈ memory.2.list ↔ standing calls flag.name = some flag.raisedAt) ∧
      (∀ name, memory.2.isRaised name = (standing calls name).isSome) ∧
      ∀ now name, (memory.2.raise name now).1 = .alreadyUp →
        (memory.2.raise name now).2.list = memory.2.list ∧
          (server.2.tables.raise name now).2.sortedFlags = server.2.tables.sortedFlags := by
  intro memory server
  obtain ⟨same, agree⟩ := (Agree.empty queues notices).serve
    (l := ⟨⟨[], queues, notices⟩, clock, [], events⟩) rfl calls
  have once : (memory.2.list.map Flag.name).Nodup :=
    memory.2.names_perm.nodup_iff.2 (Table.nodup_of_sorted agree.sorted)
  refine ⟨same, agree.sortedFlags_eq, agree.pairwise_list, once, agree.mem_list,
    agree.isRaised_memory, fun now name up => ?_⟩
  obtain ⟨kept, left⟩ := agree.raise_of_alreadyUp up
  exact ⟨kept, congrArg Server.Tables.sortedFlags left⟩

end Coalesce
