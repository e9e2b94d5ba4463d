import Mathlib.Data.List.Sort
import Mathlib.Data.String.Basic
import Coalesce.Table

/-! Maps that are kept in order of key are determined by what is found in them. -/
namespace Coalesce.Table

variable {α : Type} {s t : Table α}

theorem contains_iff_mem_keys {key : String} : t.contains key = true ↔ key ∈ t.keys := by
  simp [contains, get?, keys, List.lookup_isSome_iff]

theorem get?_cons (k : String) (v : α) (t : Table α) (key : String) :
    get? ((k, v) :: t) key = if key = k then some v else t.get? key := by
  by_cases same : key = k
  · simp [get?, same]
  · have differs : (key == k) = false := by simpa using same
    rw [if_neg same, get?, List.lookup_cons, differs]
    rfl

theorem nodup_of_sorted (sorted : t.Sorted) : t.keys.Nodup :=
  sorted.imp fun lt => ne_of_lt lt

theorem keys_insert_subset {key : String} {value : α} :
    ∀ k ∈ (t.insert key value).keys, k = key ∨ k ∈ t.keys := by
  intro k mem
  rw [← contains_iff_mem_keys, contains_insert] at mem
  simpa [contains_iff_mem_keys] using mem

theorem Sorted.insert (sorted : t.Sorted) (key : String) (value : α) :
    (t.insert key value).Sorted := by
  induction t with
  | nil => simp [Table.insert, Sorted]
  | cons p t ih =>
    obtain ⟨k, v⟩ := p
    obtain ⟨below, rest⟩ := List.pairwise_cons.1 sorted
    unfold Table.insert
    split
    · next lt =>
      refine List.pairwise_cons.2 ⟨?_, sorted⟩
      intro j mem
      obtain rfl | mem := List.mem_cons.1 mem
      · exact lt
      · exact lt.trans (below j mem)
    · next ge =>
      split
      · next same =>
        subst same
        exact List.pairwise_cons.2 ⟨below, rest⟩
      · next other =>
        refine List.pairwise_cons.2 ⟨?_, ih rest⟩
        intro j mem
        obtain rfl | mem := keys_insert_subset j mem
        · exact lt_of_le_of_ne (not_lt.1 ge) (Ne.symm other)
        · exact below j mem

theorem insert_perm {key : String} (absent : t.contains key = false) (value : α) :
    (t.insert key value).Perm ((key, value) :: t) := by
  induction t with
  | nil => exact .refl _
  | cons p t ih =>
    obtain ⟨k, v⟩ := p
    obtain ⟨other, missing⟩ : key ≠ k ∧ Table.contains t key = false := by
      simpa [contains, get?_cons, apply_ite] using absent
    rw [Table.insert, if_neg other]
    split
    · exact .refl _
    · exact ((ih missing).cons (k, v)).trans (.swap _ _ t)

theorem Sorted.merge (sorted : t.Sorted) (upper : Table α) : (t.merge upper).Sorted := by
  unfold Table.merge
  induction upper generalizing t with
  | nil => exact sorted
  | cons p upper ih => exact ih (sorted.insert p.1 p.2)

theorem mem_of_mem_insert {key : String} {value : α} {p : String × α}
    (mem : p ∈ t.insert key value) : p = (key, value) ∨ p ∈ t := by
  induction t with
  | nil => exact .inl (List.mem_singleton.1 mem)
  | cons q t ih =>
    unfold Table.insert at mem
    split at mem
    · exact List.mem_cons.1 mem
    · split at mem
      · exact (List.mem_cons.1 mem).imp_right (List.mem_cons_of_mem q)
      · obtain rfl | mem := List.mem_cons.1 mem
        · exact .inr List.mem_cons_self
        · exact (ih mem).imp_right (List.mem_cons_of_mem q)

theorem mem_of_mem_merge {upper : Table α} {p : String × α} (mem : p ∈ t.merge upper) :
    p ∈ t ∨ p ∈ upper := by
  unfold Table.merge at mem
  induction upper generalizing t with
  | nil => exact .inl mem
  | cons q upper ih =>
    obtain mem | mem := ih mem
    · obtain rfl | mem := mem_of_mem_insert mem
      · exact .inr List.mem_cons_self
      · exact .inl mem
    · exact .inr (List.mem_cons_of_mem q mem)

theorem sorted_nil : Sorted ([] : Table α) := List.Pairwise.nil

theorem sorted_ofList (pairs : List (String × α)) : (ofList pairs).Sorted :=
  sorted_nil.merge pairs

theorem mem_of_mem_ofList {pairs : List (String × α)} {p : String × α} (mem : p ∈ ofList pairs) :
    p ∈ pairs :=
  (mem_of_mem_merge mem).resolve_left List.not_mem_nil

theorem Sorted.filter (sorted : t.Sorted) (kept : String × α → Bool) : Sorted (t.filter kept) :=
  List.Pairwise.sublist (List.filter_sublist.map Prod.fst) sorted

theorem get?_of_below {key : String} (below : ∀ k ∈ t.keys, key < k) : t.get? key = none := by
  rw [← Option.not_isSome_iff_eq_none]
  intro known
  exact lt_irrefl key (below key (contains_iff_mem_keys.1 known))

theorem Sorted.mem_iff (sorted : t.Sorted) {key : String} {value : α} :
    (key, value) ∈ t ↔ t.get? key = some value := by
  induction t with
  | nil => simp [get?]
  | cons p t ih =>
    obtain ⟨k, v⟩ := p
    obtain ⟨below, rest⟩ := List.pairwise_cons.1 sorted
    rw [List.mem_cons, get?_cons, ih rest]
    by_cases same : key = k
    · subst same
      simp [get?_of_below below, eq_comm]
    · simp [same]

theorem Sorted.ext (sorted : s.Sorted) (sorted' : t.Sorted)
    (same : ∀ key, s.get? key = t.get? key) :
    s = t := by
  have : Std.Irrefl fun p q : String × α => p.1 < q.1 := ⟨fun p => lt_irrefl p.1⟩
  have : Std.Antisymm fun p q : String × α => p.1 < q.1 := ⟨fun p q lt gt => absurd gt lt.asymm⟩
  refine List.Pairwise.eq_of_mem_iff (List.pairwise_map.1 sorted) (List.pairwise_map.1 sorted') ?_
  rintro ⟨key, value⟩
  rw [sorted.mem_iff, sorted'.mem_iff, same]

section
variable {β : Type} (f : α → β)

theorem contains_mapValues (t : Table α) (key : String) :
    (t.mapValues f).contains key = t.contains key := by
  rw [Bool.eq_iff_iff, contains_iff_mem_keys, contains_iff_mem_keys, keys_mapValues]

theorem mapValues_insert (key : String) (value : α) (t : Table α) :
    (t.insert key value).mapValues f = (t.mapValues f).insert key (f value) := by
  induction t with
  | nil => rfl
  | cons p t ih =>
    unfold mapValues at ih
    unfold Table.insert mapValues
    rw [List.map_cons]
    dsimp only
    split
    · rfl
    · split
      · rfl
      · rw [List.map_cons, ih]

theorem mapValues_merge (t upper : Table α) :
    (t.merge upper).mapValues f = (t.mapValues f).merge (upper.mapValues f) := by
  unfold Table.merge
  induction upper generalizing t with
  | nil => rfl
  | cons p upper ih =>
    rw [List.foldl_cons, ih, mapValues_insert]
    rfl

end

theorem get?_filter (kept : String → Bool) (t : Table α) (key : String) :
    get? (t.filter fun p => kept p.1) key = if kept key then t.get? key else none := by
  induction t with
  | nil => simp [get?]
  | cons p t ih =>
    obtain ⟨k, v⟩ := p
    rw [List.filter_cons, get?_cons]
    split
    · rw [get?_cons, ih]
      by_cases same : key = k <;> simp_all
    · rw [ih]
      by_cases same : key = k <;> simp_all

theorem get?_merge {upper : Table α} (sorted : upper.Sorted) (key : String) (base : Table α) :
    (base.merge upper).get? key = (Table.get? upper key).or (base.get? key) := by
  unfold merge
  induction upper generalizing base with
  | nil => rfl
  | cons p upper ih =>
    obtain ⟨k, v⟩ := p
    obtain ⟨below, rest⟩ := List.pairwise_cons.1 sorted
    rw [List.foldl_cons, ih rest, get?_cons]
    by_cases same : key = k
    · subst same
      rw [get?_of_below below, get?_insert_self]
      simp
    · rw [get?_insert_of_ne same, if_neg same]

end Coalesce.Table
