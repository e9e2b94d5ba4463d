/-! Finite maps from text, kept as lists of pairs in ascending order of key. Equal maps are equal
lists, and a listing of the keys needs no sorting. -/
namespace Coalesce

abbrev Table (α : Type) := List (String × α)

namespace Table

variable {α β : Type}

def keys (t : Table α) : List String := t.map Prod.fst

/-- Each key stands before every later one, so no key stands twice. -/
def Sorted (t : Table α) : Prop := t.keys.Pairwise (· < ·)

def get? (t : Table α) (key : String) : Option α := List.lookup key t

def contains (t : Table α) (key : String) : Bool := (t.get? key).isSome

/-- The last value written under a key is the one that stays. -/
def insert (key : String) (value : α) : Table α → Table α
  | [] => [(key, value)]
  | (k, v) :: rest =>
    if key < k then (key, value) :: (k, v) :: rest
    else if key = k then (key, value) :: rest
    else (k, v) :: insert key value rest

def erase (key : String) (t : Table α) : Table α := t.filter (·.1 ≠ key)

def ofList (pairs : List (String × α)) : Table α :=
  pairs.foldl (fun t (k, v) => insert k v t) []

def merge (base upper : Table α) : Table α :=
  upper.foldl (fun t (k, v) => insert k v t) base

def mapValues (f : α → β) (t : Table α) : Table β := t.map fun (k, v) => (k, f v)

def modify (key : String) (f : α → α) (t : Table α) : Table α :=
  t.map fun (k, v) => if k = key then (k, f v) else (k, v)

@[simp] theorem keys_nil : keys ([] : Table α) = [] := rfl

@[simp] theorem keys_cons (k : String) (v : α) (t : Table α) :
    keys ((k, v) :: t) = k :: keys t := rfl

@[simp] theorem keys_mapValues (f : α → β) (t : Table α) : keys (t.mapValues f) = keys t := by
  simp [keys, mapValues, Function.comp_def]

@[simp] theorem keys_modify (key : String) (f : α → α) (t : Table α) :
    keys (t.modify key f) = keys t := by
  simp only [keys, modify, List.map_map]
  apply List.map_congr_left
  intro p _
  simp only [Function.comp]
  split <;> rfl

theorem get?_insert_self (key : String) (value : α) (t : Table α) :
    (insert key value t).get? key = some value := by
  induction t with
  | nil => simp [insert, get?]
  | cons p t ih =>
    obtain ⟨k, v⟩ := p
    by_cases hlt : key < k
    · simp [insert, get?, hlt]
    · by_cases heq : key = k
      · simp [insert, get?, heq]
      · have hne : (key == k) = false := by simpa using heq
        simp only [insert, if_neg hlt, if_neg heq, get?, List.lookup_cons, hne]
        exact ih

theorem get?_insert_of_ne {key other : String} (h : other ≠ key) (value : α) (t : Table α) :
    (insert key value t).get? other = t.get? other := by
  have hne : (other == key) = false := by simpa using h
  induction t with
  | nil => simp [insert, get?, List.lookup_cons, hne]
  | cons p t ih =>
    obtain ⟨k, v⟩ := p
    by_cases hlt : key < k
    · simp [insert, get?, hlt, List.lookup_cons, hne]
    · by_cases heq : key = k
      · subst heq
        simp [insert, get?, List.lookup_cons, hne]
      · simp only [insert, if_neg hlt, if_neg heq, get?, List.lookup_cons]
        cases hk : other == k with
        | true => rfl
        | false => exact ih

theorem contains_insert (key other : String) (value : α) (t : Table α) :
    (insert key value t).contains other = (other == key || t.contains other) := by
  unfold contains
  by_cases h : other = key
  · subst h
    simp [get?_insert_self]
  · have hne : (other == key) = false := by simpa using h
    rw [get?_insert_of_ne h, hne, Bool.false_or]

theorem get?_erase_self (key : String) (t : Table α) : (t.erase key).get? key = none := by
  unfold erase get?
  rw [List.lookup_eq_none_iff]
  intro p hp
  have hne : p.1 ≠ key := by simpa using (List.mem_filter.1 hp).2
  simpa using Ne.symm hne

theorem get?_erase_of_ne {key other : String} (h : other ≠ key) (t : Table α) :
    (t.erase key).get? other = t.get? other := by
  induction t with
  | nil => rfl
  | cons p t ih =>
    obtain ⟨k, v⟩ := p
    simp only [erase, get?] at ih ⊢
    by_cases hk : k = key
    · have hne : (other == k) = false := by simpa [hk] using h
      rw [List.filter_cons_of_neg (by simp [hk]), List.lookup_cons, hne]
      exact ih
    · rw [List.filter_cons_of_pos (by simp [hk]), List.lookup_cons, List.lookup_cons, ih]

theorem contains_erase (key other : String) (t : Table α) :
    (t.erase key).contains other = (other != key && t.contains other) := by
  unfold contains
  by_cases h : other = key
  · subst h
    simp [get?_erase_self]
  · have hne : (other != key) = true := by simpa using h
    rw [get?_erase_of_ne h, hne, Bool.true_and]

theorem get?_modify (key other : String) (f : α → α) (t : Table α) :
    (t.modify key f).get? other = if other = key then (t.get? other).map f else t.get? other := by
  induction t with
  | nil => simp [modify, get?]
  | cons p t ih =>
    obtain ⟨k, v⟩ := p
    simp only [modify, get?, List.map_cons] at ih ⊢
    by_cases hk : other = k
    · subst hk
      split <;> simp_all
    · have hne : (other == k) = false := by simpa using hk
      split <;> simp only [List.lookup_cons, hne, ih]

end Table
end Coalesce
