import Mathlib.Algebra.Order.Ring.Nat
import Mathlib.Data.List.Nodup
import Mathlib.Data.Nat.SuccPred
import Coalesce.Server.Sessions

/-! The pool of sessions. A session is in one place: in the pool, with a live handle, or on its way
to its end. A session in the pool has a lock only if a statement took that lock in it and came back
as an error: an attempt that fails gives its session back whatever became of the lock, where a
release that fails closes it. -/
namespace Coalesce.Server.Sessions

variable {κ : Type} [DecidableEq κ]

def pool (count : Nat) : Sessions κ := ⟨[], List.range count, [], [], count⟩

/-- The lock that an attempt leaves in a session it gives back. -/
def leaked (s : Sessions κ) (key : κ) : Verdict → List (Nat × κ)
  | .failed true =>
    if s.checkOut.2.mayLock s.checkOut.1 key then [(s.checkOut.1, key)] else []
  | _ => []

/-- Attempts, releases and drops of handles, in any order and with any verdict. The pool may hand
out its sessions in another order and close those it has, and a session that is to end may end at
any time. -/
inductive Run : List (Nat × κ) → Sessions κ → Prop
  | start (count : Nat) : Run [] (pool count)
  | acquire {leaks s} (run : Run leaks s) (key : κ) (verdict : Verdict) :
      Run (s.leaked key verdict ++ leaks) (s.acquire key verdict).2
  | release {leaks s session key} (run : Run leaks s) (live : (session, key) ∈ s.leased)
      (verdict : Verdict) : Run leaks (s.release session key verdict).2
  | drop {leaks s session key} (run : Run leaks s) (live : (session, key) ∈ s.leased) :
      Run leaks (s.drop session)
  | finish {leaks s session} (run : Run leaks s) (closing : session ∈ s.closing) :
      Run leaks (s.finish session)
  | reorder {leaks s idle} (run : Run leaks s) (same : idle.Perm s.idle) :
      Run leaks { s with idle := idle }
  | retire {leaks s session} (run : Run leaks s) (pooled : session ∈ s.idle) :
      Run leaks ({ s with idle := s.idle.erase session }.close session)

def places (s : Sessions κ) (session : Nat) : Nat :=
  s.idle.count session + (s.leased.map Prod.fst).count session + s.closing.count session

/-- `out` are the sessions that an operation has in hand. -/
structure Sound (leaks : List (Nat × κ)) (out : List Nat) (s : Sessions κ) : Prop where
  apart : ∀ session, out.count session + s.places session ≤ 1
  opened : ∀ session, 0 < out.count session + s.places session → session < s.opened
  known : ∀ grant ∈ s.grants, grant.1 < s.opened
  granted : ∀ handle ∈ s.leased, handle ∈ s.grants
  accounted : ∀ grant ∈ s.grants,
    grant.1 ∈ out ∨ grant.1 ∈ s.closing ∨ grant ∈ s.leased ∨ grant ∈ leaks
  once : ∀ grant ∉ leaks, s.grants.count grant ≤ 1
  sole : ∀ key i j, (i, key) ∈ s.grants → (j, key) ∈ s.grants → i = j

variable {leaks : List (Nat × κ)} {out : List Nat} {s : Sessions κ} {session : Nat} {key : κ}

theorem holds_iff : s.holds session key = true ↔ (session, key) ∈ s.grants := by
  simp [holds]

theorem mayLock_iff :
    s.mayLock session key = true ↔ ∀ other, (other, key) ∈ s.grants → other = session := by
  simp only [mayLock, List.all_eq_true, Prod.forall, Bool.or_eq_true, decide_eq_true_eq]
  constructor
  · intro free other granted
    exact (free other key granted).resolve_left fun differs => differs rfl
  · intro free other taken granted
    by_cases same : taken = key
    · subst same
      exact .inr (free other granted)
    · exact .inl same

theorem count_filter_ne {α : Type} [DecidableEq α] (l : List α) (a b : α) :
    (l.filter (· ≠ a)).count b = if b = a then 0 else l.count b := by
  split
  · next same =>
    subst same
    exact List.count_eq_zero.2 (by simp)
  · next differs => exact List.count_filter (by simpa using differs)

namespace Sound

theorem of_pool (count : Nat) : Sound [] [] (pool count : Sessions κ) := by
  have one (session : Nat) : (List.range count).count session ≤ 1 :=
    List.nodup_iff_count_le_one.1 List.nodup_range session
  constructor
  case apart => simpa [pool, places] using one
  case opened =>
    intro session there
    have mem : session ∈ List.range count :=
      List.count_pos_iff.1 (by simpa [pool, places] using there)
    exact List.mem_range.1 mem
  all_goals simp [pool]

theorem mono (sound : Sound leaks out s) (more : List (Nat × κ)) : Sound (more ++ leaks) out s where
  apart := sound.apart
  opened := sound.opened
  known := sound.known
  granted := sound.granted
  accounted grant mem := by
    obtain inside | closing | live | leak := sound.accounted grant mem
    · exact .inl inside
    · exact .inr (.inl closing)
    · exact .inr (.inr (.inl live))
    · exact .inr (.inr (.inr (List.mem_append_right more leak)))
  once grant clean := sound.once grant fun leak => clean (List.mem_append_right more leak)
  sole := sound.sole

theorem moved {out' : List Nat} {s' : Sessions κ} (sound : Sound leaks out s)
    (grants : s'.grants = s.grants) (opened : s'.opened = s.opened)
    (places : ∀ session, out'.count session + s'.places session =
      out.count session + s.places session)
    (granted : ∀ handle ∈ s'.leased, handle ∈ s.grants)
    (accounted : ∀ grant ∈ s.grants,
      grant.1 ∈ out' ∨ grant.1 ∈ s'.closing ∨ grant ∈ s'.leased ∨ grant ∈ leaks) :
    Sound leaks out' s' where
  apart session := (places session).trans_le (sound.apart session)
  opened session there := opened ▸ sound.opened session ((places session) ▸ there)
  known := by rw [grants, opened]; exact sound.known
  granted := by rw [grants]; exact granted
  accounted := by rw [grants]; exact accounted
  once := by rw [grants]; exact sound.once
  sole := by rw [grants]; exact sound.sole

/-! Out of the pool and back. -/

theorem leaked_of_idle (sound : Sound leaks [] s) (idle : session ∈ s.idle)
    (granted : (session, key) ∈ s.grants) : (session, key) ∈ leaks := by
  have apart := sound.apart session
  have := List.count_pos_iff.2 idle
  unfold places at apart
  obtain inside | closing | live | leak := sound.accounted _ granted
  · cases inside
  · have : 0 < s.closing.count session := List.count_pos_iff.2 closing
    omega
  · have : 0 < (s.leased.map Prod.fst).count session :=
      List.count_pos_iff.2 (List.mem_map_of_mem (f := Prod.fst) live)
    omega
  · exact leak

theorem checkOut (sound : Sound leaks [] s) :
    Sound leaks [s.checkOut.1] s.checkOut.2 ∧
      ∀ key, (s.checkOut.1, key) ∈ s.checkOut.2.grants → (s.checkOut.1, key) ∈ leaks := by
  unfold Sessions.checkOut
  cases idle : s.idle with
  | nil =>
    have fresh : s.places s.opened = 0 := by
      by_contra there
      exact lt_irrefl _ (sound.opened s.opened (by simpa [Nat.pos_iff_ne_zero] using there))
    have same (session : Nat) :
        { s with idle := [], opened := s.opened + 1 }.places session = s.places session := by
      simp [places, idle]
    refine ⟨{ sound with apart := ?_, opened := ?_, known := ?_, accounted := ?_ }, ?_⟩
    · intro session
      rw [same]
      by_cases new : session = s.opened
      · subst new
        simp [fresh]
      · simpa [List.count_cons, Ne.symm new] using sound.apart session
    · intro session there
      rw [same] at there
      by_cases new : session = s.opened
      · exact new ▸ Nat.lt_succ_self _
      · refine (sound.opened session ?_).trans (Nat.lt_succ_self _)
        simpa [List.count_cons, Ne.symm new] using there
    · intro grant mem
      exact (sound.known grant mem).trans (Nat.lt_succ_self _)
    · intro grant mem
      exact .inr ((sound.accounted grant mem).resolve_left (by simp))
    · intro key mem
      exact absurd (sound.known _ mem) (lt_irrefl _)
  | cons session rest =>
    refine ⟨sound.moved rfl rfl ?_ sound.granted ?_, ?_⟩
    · intro other
      simp only [places, idle, List.count_cons, List.count_nil]
      omega
    · intro grant mem
      exact .inr ((sound.accounted grant mem).resolve_left (by simp))
    · intro key mem
      exact sound.leaked_of_idle (by simp [idle]) mem

theorem putBack (sound : Sound leaks [session] s)
    (clean : ∀ key, (session, key) ∈ s.grants → (session, key) ∈ leaks) :
    Sound leaks [] (s.putBack session) := by
  refine sound.moved rfl rfl ?_ sound.granted ?_
  · intro other
    simp only [places, Sessions.putBack, List.count_cons, List.count_nil]
    omega
  · rintro ⟨other, key⟩ mem
    obtain inside | held := sound.accounted _ mem
    · obtain rfl := List.mem_singleton.1 inside
      exact .inr (.inr (.inr (clean key mem)))
    · exact .inr held

theorem close (sound : Sound leaks [session] s) : Sound leaks [] (s.close session) := by
  refine sound.moved rfl rfl ?_ sound.granted ?_
  · intro other
    simp only [places, Sessions.close, List.count_cons, List.count_nil]
    omega
  · intro grant mem
    obtain inside | closing | held := sound.accounted _ mem
    · exact .inr (.inl (List.mem_singleton.1 inside ▸ List.mem_cons_self))
    · exact .inr (.inl (List.mem_cons_of_mem _ closing))
    · exact .inr (.inr held)

theorem lease (sound : Sound leaks [session] s) (taken : (session, key) ∈ s.grants)
    (clean : ∀ other, (session, other) ∈ s.grants → other = key ∨ (session, other) ∈ leaks) :
    Sound leaks [] (s.lease session key) := by
  refine sound.moved rfl rfl ?_ ?_ ?_
  · intro other
    simp only [places, Sessions.lease, List.map_cons, List.count_cons, List.count_nil]
    omega
  · intro handle live
    obtain rfl | live := List.mem_cons.1 live
    · exact taken
    · exact sound.granted handle live
  · rintro ⟨other, key'⟩ mem
    obtain inside | closing | live | leak := sound.accounted _ mem
    · obtain rfl := List.mem_singleton.1 inside
      obtain rfl | leak := clean key' mem
      · exact .inr (.inr (.inl List.mem_cons_self))
      · exact .inr (.inr (.inr leak))
    · exact .inr (.inl closing)
    · exact .inr (.inr (.inl (List.mem_cons_of_mem _ live)))
    · exact .inr (.inr (.inr leak))

theorem nodup_leased (sound : Sound leaks out s) : (s.leased.map Prod.fst).Nodup := by
  refine List.nodup_iff_count_le_one.2 fun session => ?_
  have := sound.apart session
  unfold places at this
  omega

theorem places_of_leased (sound : Sound leaks [] s) (live : (session, key) ∈ s.leased) :
    s.idle.count session = 0 ∧ (s.leased.map Prod.fst).count session = 1 ∧
      s.closing.count session = 0 := by
  have : 0 < (s.leased.map Prod.fst).count session :=
    List.count_pos_iff.2 (List.mem_map_of_mem (f := Prod.fst) live)
  have := sound.apart session
  unfold places at this
  omega

theorem eq_of_leased (sound : Sound leaks [] s) (live : (session, key) ∈ s.leased) {other : κ}
    (granted : (session, other) ∈ s.grants) : other = key ∨ (session, other) ∈ leaks := by
  obtain inside | closing | live' | leak := sound.accounted _ granted
  · cases inside
  · exact absurd closing (List.count_eq_zero.1 (sound.places_of_leased live).2.2)
  · have same := List.inj_on_of_nodup_map sound.nodup_leased live' live rfl
    exact .inl (congrArg Prod.snd same)
  · exact .inr leak

theorem endLease (sound : Sound leaks [] s) (live : (session, key) ∈ s.leased) :
    Sound leaks [session] (s.endLease session) := by
  have ended : (s.endLease session).leased.map Prod.fst =
      (s.leased.map Prod.fst).filter (· ≠ session) := by
    simp [Sessions.endLease, List.filter_map, Function.comp_def]
  refine sound.moved rfl rfl ?_ ?_ ?_
  · intro other
    obtain ⟨idle, one, closing⟩ := sound.places_of_leased live
    unfold places
    rw [ended, count_filter_ne]
    simp only [Sessions.endLease, List.count_cons, List.count_nil]
    by_cases same : other = session
    · subst same
      simp [idle, one, closing]
    · simp [same, Ne.symm same]
  · intro handle mem
    exact sound.granted handle (List.mem_filter.1 mem).1
  · intro grant mem
    obtain inside | closing | live' | leak := sound.accounted grant mem
    · cases inside
    · exact .inr (.inl closing)
    · by_cases same : grant.1 = session
      · exact .inl (by simp [same])
      · exact .inr (.inr (.inl (List.mem_filter.2 ⟨live', by simpa using same⟩)))
    · exact .inr (.inr (.inr leak))

/-! Statements about locks. -/

theorem lock (sound : Sound leaks [session] s) (key : κ)
    (free : (session, key) ∈ s.grants → (session, key) ∈ leaks) :
    Sound leaks [session] (s.lock session key).2 := by
  unfold Sessions.lock
  split
  · next may =>
    rw [mayLock_iff] at may
    have inside : session ∈ [session] := List.mem_singleton_self session
    refine { sound with known := ?_, granted := ?_, accounted := ?_, once := ?_, sole := ?_ }
    · intro grant mem
      obtain rfl | mem := List.mem_cons.1 mem
      · exact sound.opened session (by simp)
      · exact sound.known grant mem
    · intro handle live
      exact List.mem_cons_of_mem _ (sound.granted handle live)
    · intro grant mem
      obtain rfl | mem := List.mem_cons.1 mem
      · exact .inl inside
      · exact sound.accounted grant mem
    · intro grant clean
      rw [List.count_cons]
      split
      · next same =>
        obtain rfl := eq_of_beq same
        rw [List.count_eq_zero.2 fun mem => clean (free mem)]
      · exact sound.once grant clean
    · intro key' i j
      simp only [List.mem_cons, Prod.mk.injEq]
      rintro (⟨rfl, rfl⟩ | mem) (⟨rfl, same⟩ | mem')
      · rfl
      · exact (may j mem').symm
      · exact may i (same ▸ mem)
      · exact sound.sole key' i j mem mem'
  · exact sound

theorem unlock (sound : Sound leaks [session] s) (key : κ) :
    Sound leaks [session] (s.unlock session key).2 := by
  have fewer {grant : Nat × κ} (mem : grant ∈ s.grants.erase (session, key)) : grant ∈ s.grants :=
    List.mem_of_mem_erase mem
  refine { sound with known := ?_, granted := ?_, accounted := ?_, once := ?_, sole := ?_ }
  · exact fun grant mem => sound.known grant (fewer mem)
  · intro handle live
    -- the session in hand has no handle
    have other : handle ≠ (session, key) := by
      rintro rfl
      have one : 0 < (s.leased.map Prod.fst).count session :=
        List.count_pos_iff.2 (List.mem_map_of_mem (f := Prod.fst) live)
      have := sound.apart session
      unfold places at this
      simp at this
      omega
    exact (List.mem_erase_of_ne other).2 (sound.granted handle live)
  · exact fun grant mem => sound.accounted grant (fewer mem)
  · intro grant clean
    exact (List.erase_sublist.count_le grant).trans (sound.once grant clean)
  · exact fun key' i j mem mem' => sound.sole key' i j (fewer mem) (fewer mem')

/-! The steps of a run. -/

theorem acquire (sound : Sound leaks [] s) (key : κ) (verdict : Verdict) :
    Sound (s.leaked key verdict ++ leaks) [] (s.acquire key verdict).2 := by
  obtain ⟨ready, clean⟩ := sound.checkOut
  unfold Sessions.acquire leaked
  generalize s.checkOut = taken at ready clean ⊢
  obtain ⟨session, s⟩ := taken
  have locked := ready.lock key (clean key)
  cases verdict with
  | answered =>
    cases may : s.mayLock session key with
    | true =>
      simp only [Sessions.lock, may, if_true] at locked ⊢
      refine locked.lease List.mem_cons_self fun other mem => ?_
      obtain same | mem := List.mem_cons.1 mem
      · exact .inl (Prod.mk.inj same).2
      · exact .inr (clean other mem)
    | false =>
      simp only [Sessions.lock, may, Bool.false_eq_true, if_false]
      exact ready.putBack clean
  | failed effective =>
    cases effective with
    | false => exact ready.putBack clean
    | true =>
      cases may : s.mayLock session key with
      | true =>
        simp only [Sessions.lock, may, if_true] at locked ⊢
        refine (locked.mono _).putBack fun other mem => ?_
        obtain same | mem := List.mem_cons.1 mem
        · exact List.mem_cons.2 (.inl same)
        · exact List.mem_cons_of_mem _ (clean other mem)
      | false =>
        simp only [Sessions.lock, may, Bool.false_eq_true, if_false, if_true, List.nil_append]
        exact ready.putBack clean

theorem release (sound : Sound leaks [] s) (live : (session, key) ∈ s.leased) (verdict : Verdict) :
    Sound leaks [] (s.release session key verdict).2 := by
  have ready := sound.endLease live
  have unlocked := ready.unlock key
  have held : (s.endLease session).holds session key = true :=
    holds_iff.2 (sound.granted _ live)
  unfold Sessions.release
  cases verdict with
  | answered =>
    simp only [Sessions.unlock, held, if_true] at unlocked ⊢
    refine unlocked.putBack fun other mem => ?_
    obtain rfl | leak := sound.eq_of_leased live (List.mem_of_mem_erase mem)
    · -- a lock that is not leaked was given once, and that one is given back
      by_contra clean
      have once := sound.once _ clean
      have left : 0 < (s.grants.erase (session, other)).count (session, other) :=
        List.count_pos_iff.2 mem
      rw [List.count_erase_self] at left
      omega
    · exact leak
  | failed effective =>
    cases effective with
    | false => exact ready.close
    | true => exact unlocked.close

theorem drop (sound : Sound leaks [] s) (live : (session, key) ∈ s.leased) :
    Sound leaks [] (s.drop session) :=
  (sound.endLease live).close

theorem finish (sound : Sound leaks [] s) (closing : session ∈ s.closing) :
    Sound leaks [] (s.finish session) := by
  have fewer {grant : Nat × κ} (mem : grant ∈ (s.finish session).grants) : grant ∈ s.grants :=
    (List.mem_filter.1 mem).1
  have places_le (other : Nat) : (s.finish session).places other ≤ s.places other := by
    exact Nat.add_le_add_left (List.filter_sublist.count_le other) _
  constructor
  · exact fun other => (Nat.add_le_add_left (places_le other) _).trans (sound.apart other)
  · exact fun other there =>
      sound.opened other (there.trans_le (Nat.add_le_add_left (places_le other) _))
  · exact fun grant mem => sound.known grant (fewer mem)
  · rintro ⟨other, key⟩ live
    refine List.mem_filter.2 ⟨sound.granted _ live, ?_⟩
    simp only [ne_eq, decide_eq_true_eq]
    rintro rfl
    exact List.count_eq_zero.1 (sound.places_of_leased live).2.2 closing
  · intro grant mem
    have other : grant.1 ≠ session := by simpa using (List.mem_filter.1 mem).2
    obtain inside | closing | held := sound.accounted grant (fewer mem)
    · exact .inl inside
    · exact .inr (.inl (List.mem_filter.2 ⟨closing, by simpa using other⟩))
    · exact .inr (.inr held)
  · intro grant clean
    exact (List.filter_sublist.count_le grant).trans (sound.once grant clean)
  · exact fun key i j mem mem' => sound.sole key i j (fewer mem) (fewer mem')

theorem reorder {idle : List Nat} (sound : Sound leaks [] s) (same : idle.Perm s.idle) :
    Sound leaks [] { s with idle := idle } := by
  refine sound.moved rfl rfl ?_ sound.granted sound.accounted
  intro session
  simp only [places, same.count_eq]

theorem retire (sound : Sound leaks [] s) (pooled : session ∈ s.idle) :
    Sound leaks [] ({ s with idle := s.idle.erase session }.close session) := by
  have ready : Sound leaks [session] { s with idle := s.idle.erase session } := by
    refine sound.moved rfl rfl ?_ sound.granted ?_
    · intro other
      have one : 0 < s.idle.count session := List.count_pos_iff.2 pooled
      simp only [places, List.count_cons, List.count_nil, List.count_erase]
      by_cases same : session = other
      · subst same
        simp
        omega
      · simp [same]
    · exact fun grant mem => .inr ((sound.accounted grant mem).resolve_left (by simp))
  exact ready.close

end Sound

theorem sound_of_run (run : Run leaks s) : Sound leaks [] s := by
  induction run with
  | start count => exact .of_pool count
  | acquire _ key verdict ih => exact ih.acquire key verdict
  | release _ live verdict ih => exact ih.release live verdict
  | drop _ live ih => exact ih.drop live
  | finish _ closing ih => exact ih.finish closing
  | reorder _ same ih => exact ih.reorder same
  | retire _ pooled ih => exact ih.retire pooled

theorem Sound.nodup_keys (sound : Sound leaks [] s) : (s.leased.map Prod.snd).Nodup := by
  refine (List.nodup_map_iff_inj_on (List.Nodup.of_map _ sound.nodup_leased)).2 ?_
  rintro ⟨i, key⟩ live ⟨j, key'⟩ live' same
  obtain rfl : key = key' := same
  rw [sound.sole key i j (sound.granted _ live) (sound.granted _ live')]

/-- A session in the pool has only locks that failed attempts left there, live handles never have
the same key, and a key is free once no handle and no session that is to end has it, unless an
attempt left it behind. -/
theorem pooled_of_run (run : Run leaks s) :
    (∀ session ∈ s.idle, ∀ key, s.holds session key = true → (session, key) ∈ leaks) ∧
      (s.leased.map Prod.snd).Nodup ∧
      ∀ key, (∀ handle ∈ s.leased, handle.2 ≠ key) →
        (∀ session ∈ s.closing, s.holds session key = false) → (∀ leak ∈ leaks, leak.2 ≠ key) →
        ∀ session, s.holds session key = false ∧ s.mayLock session key = true := by
  have sound := sound_of_run run
  refine ⟨?idle, sound.nodup_keys, ?free⟩
  case idle => exact fun session idle key holds => sound.leaked_of_idle idle (holds_iff.1 holds)
  case free =>
    intro key unleased ended clean
    have none (session : Nat) : (session, key) ∉ s.grants := by
      intro granted
      obtain inside | closing | live | leak := sound.accounted _ granted
      · cases inside
      · exact Bool.false_ne_true ((ended session closing).symm.trans (holds_iff.2 granted))
      · exact unleased _ live rfl
      · exact clean _ leak rfl
    intro session
    refine ⟨?_, mayLock_iff.2 fun other granted => absurd granted (none other)⟩
    exact Bool.eq_false_iff.2 fun holds => none session (holds_iff.1 holds)

/-- One session is in use and given back; the attempt in the other fails with the lock taken. -/
theorem pooled_of_run_failed :
    ∃ s : Sessions String, Run [(1, "b")] s ∧ s.idle = [0, 1] ∧ s.holds 1 "b" = true ∧
      ∀ session, s.holds session "a" = false ∧ s.mayLock session "a" = true := by
  have taken : Run _ _ := (Run.start (κ := String) 2).acquire "a" .answered
  have failed := taken.acquire "b" (.failed true)
  have run := failed.release (show (0, "a") ∈ _ by decide) .answered
  refine ⟨_, run, by decide, by decide, ?_⟩
  exact (pooled_of_run run).2.2 "a" (by decide) (by decide) (by decide)

/-- After an attempt that came back as an error the lock is left in the pool: nobody has it, nothing
is to end, and the next attempt in another session is refused. -/
theorem locked_of_failed :
    ∃ leaks, ∃ s : Sessions String, Run leaks s ∧ s.leased = [] ∧ s.closing = [] ∧
      (∃ session ∈ s.idle, s.holds session "a" = true) ∧ (s.acquire "a" .answered).1 = .busy := by
  have failed : Run _ _ := (Run.start (κ := String) 2).acquire "a" (.failed true)
  have run := failed.reorder (show [1, 0].Perm _ by decide)
  exact ⟨_, _, run, by decide, by decide, ⟨0, by decide⟩, by decide⟩

end Coalesce.Server.Sessions
