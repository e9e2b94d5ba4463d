import Mathlib.Data.Rat.Lemmas
import Mathlib.Tactic.FieldSimp
import Mathlib.Tactic.Linarith
import Mathlib.Tactic.NormNum
import Mathlib.Tactic.Positivity
import Mathlib.Tactic.Ring
import Coalesce.Proofs.Literal

/-! The shortest decimal of a binary64 number lies nearer to it than to any other, so numbers that
differ in more than the sign of a zero have different texts, and the sign is written too. -/
namespace Coalesce

namespace Binary64

theorem size_assembled (exponent : Nat) {fraction : Nat} (small : fraction < fractionSize) :
    size (fraction + fractionSize * exponent) =
      if exponent = 0 then fraction else (fractionSize + fraction) * 2 ^ (exponent - 1) := by
  have parts := (Nat.div_mod_unique (d := exponent) (c := fraction) (Nat.zero_lt_of_lt small)).2
    ⟨rfl, small⟩
  simp only [size, parts.1, parts.2]
  rfl

theorem size_lt_succ (rank : Nat) : size rank < size (rank + 1) := by
  have small : rank % fractionSize < fractionSize := Nat.mod_lt _ (by decide)
  have parts : rank % fractionSize + fractionSize * (rank / fractionSize) = rank :=
    Nat.mod_add_div rank fractionSize
  generalize rank % fractionSize = fraction at small parts
  generalize rank / fractionSize = exponent at parts
  subst parts
  have scale : 0 < 2 ^ (exponent - 1) := Nat.two_pow_pos _
  by_cases last : fraction + 1 = fractionSize
  · have next : fraction + fractionSize * exponent + 1 = 0 + fractionSize * (exponent + 1) := by
      rw [← last]
      ring
    rw [next, size_assembled exponent small, size_assembled (exponent + 1) (by decide),
      if_neg (Nat.succ_ne_zero exponent)]
    by_cases zero : exponent = 0
    · simp only [zero, if_true]
      omega
    · obtain ⟨e, rfl⟩ := Nat.exists_eq_succ_of_ne_zero zero
      rw [if_neg zero, Nat.succ_sub_one, Nat.add_sub_cancel, Nat.pow_succ, Nat.add_zero]
      nlinarith [Nat.two_pow_pos e]
  · have next : fraction + fractionSize * exponent + 1 =
        (fraction + 1) + fractionSize * exponent := by omega
    rw [next, size_assembled exponent small, size_assembled exponent (by omega)]
    split
    · omega
    · exact Nat.mul_lt_mul_of_pos_right (by omega) scale

theorem size_strictMono : StrictMono size := strictMono_nat_of_lt_succ size_lt_succ

end Binary64

namespace Decimal

def value (d : Decimal) : ℚ := d.digits * 10 ^ d.exponent

/-- The value in units of 2⁻¹⁰⁷⁵, in which the midpoints between numbers are integers. -/
def halves (d : Decimal) : ℚ := d.value * 2 ^ 1075

theorem compare_scaled {a b : ℕ} {x y k : ℚ} (pos : 0 < k) (left : (a : ℚ) = x * k)
    (right : (b : ℚ) = y * k) : compare a b = compare x y := by
  obtain below | same | above := lt_trichotomy x y
  · rw [compare_lt_iff_lt.2 below, compare_lt_iff_lt, ← Nat.cast_lt (α := ℚ), left, right]
    exact mul_lt_mul_of_pos_right below pos
  · rw [compare_eq_iff_eq.2 same, compare_eq_iff_eq, ← Nat.cast_inj (R := ℚ), left, right, same]
  · rw [compare_gt_iff_gt.2 above, compare_gt_iff_gt, ← Nat.cast_lt (α := ℚ), left, right]
    exact mul_lt_mul_of_pos_right above pos

theorem compareHalves_eq (d : Decimal) (halves : Nat) :
    d.compareHalves halves = compare d.halves (halves : ℚ) := by
  have split : d.exponent = (d.exponent.toNat : ℤ) - ((-d.exponent).toNat : ℤ) := by omega
  unfold compareHalves Decimal.halves value
  generalize 1075 = unit
  generalize d.exponent.toNat = up at split
  generalize (-d.exponent).toNat = down at split
  rw [split, zpow_sub₀ (by norm_num), zpow_natCast, zpow_natCast]
  refine compare_scaled (k := 10 ^ down) (by positivity) ?_ ?_
  · rw [Nat.pow_eq, Nat.pow_eq]
    push_cast
    field_simp
  · rw [Nat.pow_eq]
    push_cast
    rfl

def upper (rank : Nat) : ℚ := Binary64.size rank + Binary64.size (rank + 1)

def lower (rank : Nat) : ℚ := Binary64.size (rank - 1) + Binary64.size rank

theorem names_iff (d : Decimal) (rank : Nat) :
    d.names rank = true ↔
      (lower rank < d.halves ∨ lower rank = d.halves ∧ rank % 2 = 0) ∧
      (d.halves < upper rank ∨ d.halves = upper rank ∧ rank % 2 = 0) := by
  have low : d.compareHalves (Binary64.size (rank - 1) + Binary64.size rank) =
      compare d.halves (lower rank) := by rw [compareHalves_eq, lower, Nat.cast_add]
  have high : d.compareHalves (Binary64.size rank + Binary64.size (rank + 1)) =
      compare d.halves (upper rank) := by rw [compareHalves_eq, upper, Nat.cast_add]
  simp only [names, low, high]
  cases above : compare d.halves (lower rank) <;> cases below : compare d.halves (upper rank) <;>
    simp only [compare_lt_iff_lt, compare_eq_iff_eq, compare_gt_iff_gt] at above below <;>
    grind

/-- No decimal names two numbers: a common midpoint belongs to the even one. -/
theorem names_unique {c d : Decimal} {r s : Nat} (same : c.value = d.value)
    (left : c.names r = true) (right : d.names s = true) : r = s := by
  wlog lt : r < s generalizing c d r s
  · by_cases eq : r = s
    · exact eq
    · exact (this same.symm right left (by omega)).symm
  obtain ⟨-, below⟩ := (names_iff c r).1 left
  obtain ⟨above, -⟩ := (names_iff d s).1 right
  rw [show c.halves = d.halves by rw [halves, same, halves]] at below
  have first : (Binary64.size r : ℚ) ≤ Binary64.size (s - 1) :=
    Nat.cast_le.2 (Binary64.size_strictMono.monotone (by omega))
  have second : (Binary64.size (r + 1) : ℚ) ≤ Binary64.size s :=
    Nat.cast_le.2 (Binary64.size_strictMono.monotone (by omega))
  unfold upper at below
  unfold lower at above
  obtain above | ⟨above, even⟩ := above
  · obtain below | ⟨below, -⟩ := below <;> linarith
  · obtain below | ⟨below, even'⟩ := below
    · linarith
    · have neighbours : (Binary64.size r : ℚ) = Binary64.size (s - 1) := by linarith
      have neighbours := Binary64.size_strictMono.injective (Nat.cast_injective neighbours)
      omega

theorem exact_names {rank : Nat} (pos : rank ≠ 0) : (exact rank).names rank = true := by
  have value : (exact rank).halves = 2 * Binary64.size rank := by
    rw [halves, value, exact]
    generalize unit : 1074 = n
    have down : (-1074 : ℤ) = -(n : ℤ) := by omega
    have half : 1075 = n + 1 := by omega
    have ten : (10 : ℚ) ^ n = 5 ^ n * 2 ^ n := by
      rw [← mul_pow]
      norm_num
    rw [down, half, zpow_neg, zpow_natCast, ten, Nat.pow_eq]
    push_cast
    field_simp
    ring
  have first : (Binary64.size (rank - 1) : ℚ) < Binary64.size rank :=
    Nat.cast_lt.2 (Binary64.size_strictMono (by omega))
  have second : (Binary64.size rank : ℚ) < Binary64.size (rank + 1) :=
    Nat.cast_lt.2 (Binary64.size_strictMono (by omega))
  rw [names_iff, value, lower, upper]
  exact ⟨.inl (by linarith), .inl (by linarith)⟩

section
-- unfolded they hold powers of two that are too large to be written out
attribute [local irreducible] onGrid? exact

theorem search_zero (rank : Nat) (leading : Int) (count : Nat) :
    search rank leading 0 count = exact rank := rfl

theorem search_succ (rank : Nat) (leading : Int) (tries count : Nat) :
    search rank leading (tries + 1) count =
      match onGrid? rank (leading - count + 1) with
      | some d => d
      | none => search rank leading tries (count + 1) := rfl

end

theorem names_of_onGrid? {rank : Nat} {exponent : Int} {d : Decimal}
    (found : onGrid? rank exponent = some d) : d.names rank = true := by
  unfold onGrid? at found
  generalize gridFraction rank exponent = fraction at found
  obtain ⟨num, den⟩ := fraction
  have named := List.find?_some (p := fun d : Decimal => d.names rank) found
  exact named

theorem search_names {rank : Nat} (pos : rank ≠ 0) (leading : Int) (tries count : Nat) :
    (search rank leading tries count).names rank = true := by
  induction tries generalizing count with
  | zero =>
    rw [search_zero]
    exact exact_names pos
  | succ tries ih =>
    rw [search_succ]
    cases found : onGrid? rank (leading - count + 1) with
    | none => exact ih (count + 1)
    | some d => exact names_of_onGrid? found

/-- The shortest decimal of a number names it. -/
theorem shortest_names {rank : Nat} (pos : rank ≠ 0) : (shortest rank).names rank = true :=
  search_names pos _ _ _

theorem value_pos_of_names {d : Decimal} {rank : Nat} (pos : rank ≠ 0)
    (names : d.names rank = true) : 0 < d.value := by
  have size : (Binary64.size 0 : ℚ) < Binary64.size rank :=
    Nat.cast_lt.2 (Binary64.size_strictMono (by omega))
  have before : (Binary64.size 0 : ℚ) ≤ Binary64.size (rank - 1) :=
    Nat.cast_le.2 (Binary64.size_strictMono.monotone (by omega))
  have zero : (0 : ℚ) ≤ Binary64.size 0 := Nat.cast_nonneg _
  obtain ⟨above, -⟩ := (names_iff d rank).1 names
  unfold lower at above
  have halves : 0 < d.halves := by
    obtain above | ⟨above, -⟩ := above <;> linarith
  exact pos_of_mul_pos_left halves (pow_nonneg zero_le_two _)

end Decimal

namespace Json

theorem digitsValue_from (start : Nat) (ds : List Char) :
    ds.foldl (fun n c => 10 * n + digitValue c) start =
      start * 10 ^ ds.length + digitsValue ds := by
  induction ds generalizing start with
  | nil => simp [digitsValue]
  | cons d ds ih =>
    simp only [digitsValue, List.foldl_cons, List.length_cons] at ih ⊢
    rw [ih, ih (10 * 0 + digitValue d)]
    ring

theorem digitsValue_append (ds es : List Char) :
    digitsValue (ds ++ es) = digitsValue ds * 10 ^ es.length + digitsValue es := by
  rw [digitsValue, List.foldl_append, digitsValue_from, ← digitsValue]

theorem digitsValue_zeros (n : Nat) : digitsValue (Decimal.zeros n) = 0 := by
  induction n with
  | zero => rfl
  | succ n ih =>
    rw [Decimal.zeros, List.replicate_succ', digitsValue_append, ← Decimal.zeros, ih]
    rfl

namespace Literal

def exponentValue : Option (Bool × List Char) → Int
  | none => 0
  | some (down, ds) => if down then -(digitsValue ds : Int) else digitsValue ds

def magnitude (l : Literal) : ℚ :=
  digitsValue (l.whole ++ l.fraction) * 10 ^ (exponentValue l.exponent - l.fraction.length)

end Literal
end Json

namespace Decimal

theorem value_trimZeros (steps : Nat) (d : Decimal) : (trimZeros steps d).value = d.value := by
  induction steps generalizing d with
  | zero => rfl
  | succ steps ih =>
    unfold trimZeros
    split
    · next h =>
      rw [ih]
      unfold value
      have digits : (d.digits : ℚ) = (d.digits / 10 : ℕ) * 10 := by
        exact_mod_cast (Nat.div_mul_cancel (Nat.dvd_of_mod_eq_zero h.2)).symm
      rw [digits, zpow_add₀ (by norm_num), zpow_one]
      ring
    · rfl

open Json

section
variable {ds : List Char} (digits : ∀ c ∈ ds, isDigit c = true) (ne : ds ≠ [])
  (unpadded : ds.head? ≠ some '0')
include digits ne unpadded

theorem exists_literal_above (n : Nat) :
    ∃ l : Literal, l.Marked ∧ l.negative = false ∧ l.magnitude = digitsValue ds * 10 ^ (n : ℤ) ∧
      ∀ rest, ds ++ zeros n ++ ['.', '0'] ++ rest = l.text rest := by
  refine ⟨⟨false, ds ++ zeros n, ['0'], none, ?_, ?_, ?_, ?_, ?_⟩, ?_, rfl, ?_, ?_⟩
  · intro c mem
    obtain mem | mem := List.mem_append.1 mem
    · exact digits c mem
    · rw [List.eq_of_mem_replicate mem]
      rfl
  · simp [ne]
  · intro head
    rw [List.head?_append_of_ne_nil _ ne] at head
    exact absurd head unpadded
  · simp [isDigit]
  · simp
  · simp [Literal.Marked]
  · simp only [Literal.magnitude, digitsValue_append, digitsValue_zeros, Literal.exponentValue]
    have zero : digitsValue ['0'] = 0 := rfl
    simp [zero, zeros]
  · intro rest
    simp [Literal.text, Literal.tail, Literal.fractionText, Literal.exponentText]

theorem exists_literal_within {k : Nat} (pos : 0 < k) (lt : k < ds.length) :
    ∃ l : Literal, l.Marked ∧ l.negative = false ∧
      l.magnitude = digitsValue ds * 10 ^ ((k : ℤ) - ds.length) ∧
      ∀ rest, ds.take k ++ '.' :: ds.drop k ++ rest = l.text rest := by
  have fraction : ds.drop k ≠ [] := by simpa using lt
  have whole : ds.take k ≠ [] := by
    intro empty
    obtain zero | nil := List.take_eq_nil_iff.1 empty
    · omega
    · exact ne nil
  refine ⟨⟨false, ds.take k, ds.drop k, none, ?_, whole, ?_, ?_, ?_⟩, .inl fraction, rfl, ?_, ?_⟩
  · exact fun c mem => digits c (List.mem_of_mem_take mem)
  · intro head
    rw [List.head?_take, if_neg (by omega)] at head
    exact absurd head unpadded
  · exact fun c mem => digits c (List.mem_of_mem_drop mem)
  · simp
  · simp only [Literal.magnitude, Literal.exponentValue, List.take_append_drop, List.length_drop]
    congr 2
    omega
  · intro rest
    obtain ⟨d, es, same⟩ := List.exists_cons_of_ne_nil fraction
    simp [Literal.text, Literal.tail, Literal.fractionText, Literal.exponentText, same]

omit unpadded in
theorem exists_literal_below (n : Nat) :
    ∃ l : Literal, l.Marked ∧ l.negative = false ∧
      l.magnitude = digitsValue ds * 10 ^ (-(n : ℤ) - ds.length) ∧
      ∀ rest, '0' :: '.' :: (zeros n ++ ds) ++ rest = l.text rest := by
  have fraction : zeros n ++ ds ≠ [] := by simp [ne]
  refine ⟨⟨false, ['0'], zeros n ++ ds, none, ?_, ?_, ?_, ?_, ?_⟩, .inl fraction, rfl, ?_, ?_⟩
  · simp [isDigit]
  · simp
  · simp
  · intro c mem
    obtain mem | mem := List.mem_append.1 mem
    · rw [List.eq_of_mem_replicate mem]
      rfl
    · exact digits c mem
  · simp
  · simp only [Literal.magnitude, Literal.exponentValue, digitsValue_append, digitsValue_zeros]
    have zero : digitsValue ['0'] = 0 := rfl
    simp only [zero, zero_mul, zero_add, List.length_append, zeros, List.length_replicate]
    congr 2
    omega
  · intro rest
    obtain ⟨d, es, same⟩ := List.exists_cons_of_ne_nil fraction
    simp only [Literal.text, Literal.tail, Literal.fractionText, Literal.exponentText, same]
    rfl

theorem exists_literal_scientific (leading : Int) :
    ∃ l : Literal, l.Marked ∧ l.negative = false ∧
      l.magnitude = digitsValue ds * 10 ^ (leading + 1 - ds.length) ∧
      ∀ rest, (if ds.length ≤ 1 then ds else ds.take 1 ++ '.' :: ds.drop 1) ++
        'e' :: (if leading < 0 then '-' else '+') :: digitChars leading.natAbs ++ rest =
          l.text rest := by
  obtain ⟨d, es, rfl⟩ := List.exists_cons_of_ne_nil ne
  refine ⟨⟨false, [d], es, some (decide (leading < 0), digitChars leading.natAbs),
      ?_, ?_, ?_, ?_, ?_⟩,
    .inr (by simp), rfl, ?_, ?_⟩
  · simpa using digits d List.mem_cons_self
  · simp
  · intro head
    exact absurd head unpadded
  · exact fun c mem => digits c (List.mem_cons_of_mem d mem)
  · intro e same
    cases same
    exact ⟨digitChars_ne_nil _, fun c => isDigit_of_mem_digitChars⟩
  · have power : Literal.exponentValue (some (decide (leading < 0), digitChars leading.natAbs)) =
        leading := by
      simp only [Literal.exponentValue, digitsValue_digitChars, decide_eq_true_eq]
      split <;> omega
    simp only [Literal.magnitude, power, List.singleton_append, List.length_cons]
    congr 2
    omega
  · intro rest
    cases es with
    | nil => simp [Literal.text, Literal.tail, Literal.fractionText, Literal.exponentText]
    | cons e es => simp [Literal.text, Literal.tail, Literal.fractionText, Literal.exponentText]

end

theorem exists_literal (d : Decimal) :
    ∃ l : Literal, l.Marked ∧ l.negative = false ∧ l.magnitude = d.value ∧
      ∀ rest, d.write ++ rest = l.text rest := by
  rw [← value_trimZeros (digitChars d.digits).length d]
  unfold write
  generalize trimZeros (digitChars d.digits).length d = d
  dsimp only
  by_cases zero : d.digits = 0
  · refine ⟨⟨false, ['0'], ['0'], none, ?_, ?_, ?_, ?_, ?_⟩, ?_, rfl, ?_, ?_⟩
    all_goals simp [zero, isDigit, Literal.Marked, Literal.magnitude, value, Literal.text,
      Literal.tail, Literal.fractionText, Literal.exponentText]
    exact .inl rfl
  have digits : ∀ c ∈ digitChars d.digits, isDigit c = true := fun c => isDigit_of_mem_digitChars
  have ne := digitChars_ne_nil d.digits
  have unpadded := head_digitChars zero
  have size := digitsValue_digitChars d.digits
  generalize digitChars d.digits = ds at digits ne unpadded size
  have length : 0 < ds.length := List.length_pos_of_ne_nil ne
  rw [if_neg zero, value, ← size]
  split
  · split
    · next whole =>
      have exponent : d.exponent = (d.exponent.toNat : ℤ) := by omega
      rw [exponent]
      exact exists_literal_above digits ne unpadded d.exponent.toNat
    · next fractional =>
      split
      · next within =>
        generalize hk : (d.exponent + ds.length - 1).toNat + 1 = k
        have exponent : d.exponent = (k : ℤ) - ds.length := by omega
        rw [exponent]
        exact exists_literal_within digits ne unpadded (by omega) (by omega)
      · next below =>
        generalize hn : (-(d.exponent + ds.length - 1) - 1).toNat = n
        have exponent : d.exponent = -(n : ℤ) - ds.length := by omega
        rw [exponent]
        exact exists_literal_below digits ne n
  · generalize hl : d.exponent + ds.length - 1 = leading
    have exponent : d.exponent = leading + 1 - ds.length := by omega
    rw [exponent]
    exact exists_literal_scientific digits ne unpadded leading

end Decimal
namespace Binary64

open Json

theorem exists_literal_signed {l : Literal} {s : List Char} (negative : Bool)
    (unsigned : l.negative = false) (text : ∀ rest, s ++ rest = l.text rest) :
    ∃ m : Literal, (l.Marked → m.Marked) ∧ m.negative = negative ∧ m.magnitude = l.magnitude ∧
      ∀ rest, (if negative then '-' :: s else s) ++ rest = m.text rest := by
  refine ⟨{ l with negative := negative }, fun marked => marked, rfl, rfl, fun rest => ?_⟩
  have plain := text rest
  unfold Literal.text at plain ⊢
  rw [unsigned] at plain
  cases negative with
  | false => exact plain
  | true => exact congrArg ('-' :: ·) plain

def writeMagnitude (rank : Nat) : List Char :=
  if rank = 0 then ['0', '.', '0'] else (Decimal.shortest rank).write

theorem write_eq (x : Binary64) :
    x.write = if x.negative then '-' :: writeMagnitude x.rank else writeMagnitude x.rank := by
  rw [write]
  rfl

def Denotes (rank : Nat) (v : ℚ) : Prop :=
  rank = 0 ∧ v = 0 ∨ rank ≠ 0 ∧ ∃ d : Decimal, d.names rank = true ∧ d.value = v

theorem exists_literal_magnitude (rank : Nat) :
    ∃ l : Literal, l.Marked ∧ l.negative = false ∧ Denotes rank l.magnitude ∧
      ∀ rest, writeMagnitude rank ++ rest = l.text rest := by
  by_cases zero : rank = 0
  · obtain ⟨l, marked, unsigned, value, text⟩ := Decimal.exists_literal ⟨0, 0⟩
    refine ⟨l, marked, unsigned, .inl ⟨zero, ?_⟩, ?_⟩
    · simpa [Decimal.value] using value
    · rw [writeMagnitude, if_pos zero]
      exact text
  · obtain ⟨l, marked, unsigned, value, text⟩ := (Decimal.shortest rank).exists_literal
    refine ⟨l, marked, unsigned, .inr ⟨zero, _, Decimal.shortest_names zero, value.symm⟩, ?_⟩
    rw [writeMagnitude, if_neg zero]
    exact text

theorem eq_of_denotes {r s : Nat} {v : ℚ} (left : Denotes r v) (right : Denotes s v) : r = s := by
  obtain ⟨rfl, rfl⟩ | ⟨r_ne, c, c_names, rfl⟩ := left
  · obtain ⟨rfl, -⟩ | ⟨s_ne, d, d_names, value⟩ := right
    · rfl
    · exact absurd value (Decimal.value_pos_of_names s_ne d_names).ne'
  · obtain ⟨rfl, value⟩ | ⟨s_ne, d, d_names, value⟩ := right
    · exact absurd value (Decimal.value_pos_of_names r_ne c_names).ne'
    · exact Decimal.names_unique value.symm c_names d_names

theorem exists_literal (x : Binary64) :
    ∃ l : Literal, l.Marked ∧ l.negative = x.negative ∧ Denotes x.rank l.magnitude ∧
      ∀ rest, x.write ++ rest = l.text rest := by
  obtain ⟨l, marked, unsigned, denotes, text⟩ := exists_literal_magnitude x.rank
  obtain ⟨m, marks, sign, magnitude, signed⟩ := exists_literal_signed x.negative unsigned text
  rw [write_eq]
  exact ⟨m, marks marked, sign, magnitude ▸ denotes, signed⟩

theorem write_append_inj {x y : Binary64} {r s : List Char} (hr : Stops r) (hs : Stops s)
    (same : x.write ++ r = y.write ++ s) : x = y ∧ r = s := by
  obtain ⟨l, -, l_sign, l_denotes, l_text⟩ := x.exists_literal
  obtain ⟨m, -, m_sign, m_denotes, m_text⟩ := y.exists_literal
  rw [l_text, m_text] at same
  obtain ⟨rfl, rests⟩ := Literal.text_inj hr hs same
  have ranks := eq_of_denotes l_denotes m_denotes
  have signs := l_sign.symm.trans m_sign
  cases x
  cases y
  cases ranks
  cases signs
  exact ⟨rfl, rests⟩

end Binary64
end Coalesce
