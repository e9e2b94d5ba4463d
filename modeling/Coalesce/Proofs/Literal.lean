import Coalesce.Json.Reading
import Coalesce.Json.Writing

/-! The texts of numbers. A literal is told apart from what stands behind it, and what stands behind
it has no part in how it is read. -/
namespace Coalesce.Json

/-! Digits. -/

theorem isDigit_of_mem_digitChars {n : Nat} {c : Char} (mem : c ∈ Decimal.digitChars n) :
    isDigit c = true := by
  have digit := Nat.isDigit_of_mem_toDigits (by decide) (by decide) mem
  simpa [isDigit, Char.isDigit, Char.le_def] using digit

theorem digitChars_ne_nil (n : Nat) : Decimal.digitChars n ≠ [] := Nat.toDigits_ne_nil

theorem digitsValue_digitChars (n : Nat) : digitsValue (Decimal.digitChars n) = n :=
  Nat.ofDigitChars_ten_toDigits

theorem head_digitChars {n : Nat} (pos : n ≠ 0) : (Decimal.digitChars n).head? ≠ some '0' := by
  induction n using Nat.strongRecOn with
  | ind n ih =>
    unfold Decimal.digitChars at ih ⊢
    by_cases small : n < 10
    · have all : ∀ d < 10, d ≠ 0 → Nat.digitChar d ≠ '0' := by decide
      rw [Nat.toDigits_of_lt_base small]
      simpa using all n small pos
    · have rest := ih (n / 10) (by omega) (by omega)
      rw [Nat.toDigits_of_base_le (by decide) (by omega), List.head?_append]
      cases front : Nat.toDigits 10 (n / 10) with
      | nil => exact absurd front Nat.toDigits_ne_nil
      | cons d ds =>
        rw [front] at rest
        exact rest

/-! What stands behind. -/

def NoDigit (s : List Char) : Prop := ∀ c, s.head? = some c → isDigit c = false

/-- A text that cannot be taken for more of a number before it. -/
def Stops (s : List Char) : Prop :=
  ∀ c, s.head? = some c → isDigit c = false ∧ c ≠ '.' ∧ c ≠ 'e' ∧ c ≠ 'E'

theorem Stops.noDigit {s : List Char} (stops : Stops s) : NoDigit s :=
  fun c head => (stops c head).1

theorem stops_nil : Stops [] := by simp [Stops]

theorem stops_cons {c : Char} {s : List Char} :
    Stops (c :: s) ↔ isDigit c = false ∧ c ≠ '.' ∧ c ≠ 'e' ∧ c ≠ 'E' := by
  simp [Stops]

theorem noDigit_cons {c : Char} {s : List Char} : NoDigit (c :: s) ↔ isDigit c = false := by
  simp [NoDigit]

section
variable {ds es r s : List Char}

theorem takeWhile_digits (digits : ∀ c ∈ ds, isDigit c = true) (stop : NoDigit r) :
    (ds ++ r).takeWhile isDigit = ds := by
  rw [List.takeWhile_append_of_pos digits]
  cases r with
  | nil => simp
  | cons c r => simp [noDigit_cons.1 stop]

theorem dropWhile_digits (digits : ∀ c ∈ ds, isDigit c = true) (stop : NoDigit r) :
    (ds ++ r).dropWhile isDigit = r := by
  rw [List.dropWhile_append_of_pos digits]
  cases r with
  | nil => rfl
  | cons c r => simp [noDigit_cons.1 stop]

theorem digits_append_inj (left : ∀ c ∈ ds, isDigit c = true) (right : ∀ c ∈ es, isDigit c = true)
    (hr : NoDigit r) (hs : NoDigit s) (same : ds ++ r = es ++ s) : ds = es ∧ r = s := by
  have heads := congrArg (List.takeWhile isDigit) same
  have tails := congrArg (List.dropWhile isDigit) same
  rw [takeWhile_digits left hr, takeWhile_digits right hs] at heads
  rw [dropWhile_digits left hr, dropWhile_digits right hs] at tails
  exact ⟨heads, tails⟩

end

/-- The parts of a number's text. The exponent has a sign in any case, and `true` is the minus. -/
structure Literal where
  negative : Bool
  whole : List Char
  fraction : List Char
  exponent : Option (Bool × List Char)
  whole_digits : ∀ c ∈ whole, isDigit c = true
  whole_ne : whole ≠ []
  unpadded : whole.head? = some '0' → whole = ['0']
  fraction_digits : ∀ c ∈ fraction, isDigit c = true
  exponent_digits : ∀ e, exponent = some e → e.2 ≠ [] ∧ ∀ c ∈ e.2, isDigit c = true

namespace Literal

def exponentText : Option (Bool × List Char) → List Char → List Char
  | none, rest => rest
  | some (down, ds), rest => 'e' :: (if down then '-' else '+') :: (ds ++ rest)

def fractionText : List Char → List Char → List Char
  | [], rest => rest
  | d :: ds, rest => '.' :: (d :: ds ++ rest)

def tail (l : Literal) (rest : List Char) : List Char :=
  fractionText l.fraction (exponentText l.exponent rest)

def text (l : Literal) (rest : List Char) : List Char :=
  if l.negative then '-' :: (l.whole ++ l.tail rest) else l.whole ++ l.tail rest

def Marked (l : Literal) : Prop := l.fraction ≠ [] ∨ l.exponent ≠ none

theorem noDigit_exponentText (e : Option (Bool × List Char)) {rest : List Char}
    (stops : Stops rest) : NoDigit (exponentText e rest) := by
  cases e with
  | none => exact stops.noDigit
  | some e => exact noDigit_cons.2 rfl

theorem noDigit_tail (l : Literal) {rest : List Char} (stops : Stops rest) :
    NoDigit (l.tail rest) := by
  unfold tail
  cases l.fraction with
  | nil => exact noDigit_exponentText l.exponent stops
  | cons d ds => exact noDigit_cons.2 rfl

theorem exponentText_inj {e f : Option (Bool × List Char)} {r s : List Char}
    (he : ∀ x, e = some x → x.2 ≠ [] ∧ ∀ c ∈ x.2, isDigit c = true)
    (hf : ∀ x, f = some x → x.2 ≠ [] ∧ ∀ c ∈ x.2, isDigit c = true)
    (hr : Stops r) (hs : Stops s) (same : exponentText e r = exponentText f s) :
    e = f ∧ r = s := by
  match e, f with
  | none, none => exact ⟨rfl, same⟩
  | none, some (down, ds) =>
    have same : r = 'e' :: _ := same
    rw [same, stops_cons] at hr
    exact absurd rfl hr.2.2.1
  | some (down, ds), none =>
    have same : 'e' :: _ = s := same
    rw [← same, stops_cons] at hs
    exact absurd rfl hs.2.2.1
  | some (down, ds), some (down', ds') =>
    simp only [exponentText, List.cons.injEq, true_and] at same
    obtain ⟨sign, digits⟩ := same
    have downs : down = down' := by
      cases down <;> cases down' <;> simp at sign ⊢
    obtain ⟨rfl, rfl⟩ := digits_append_inj (he _ rfl).2 (hf _ rfl).2 hr.noDigit hs.noDigit digits
    exact ⟨by rw [downs], rfl⟩

theorem exponentText_ne_point {e : Option (Bool × List Char)} {r s : List Char} (stops : Stops r) :
    exponentText e r ≠ '.' :: s := by
  intro same
  cases e with
  | none =>
    have same : r = '.' :: s := same
    rw [same, stops_cons] at stops
    exact stops.2.1 rfl
  | some e =>
    have head := (List.cons.inj same).1
    simp at head

theorem tail_inj {l m : Literal} {r s : List Char} (hr : Stops r) (hs : Stops s)
    (same : l.tail r = m.tail s) : l.fraction = m.fraction ∧ l.exponent = m.exponent ∧ r = s := by
  have left := l.fraction_digits
  have right := m.fraction_digits
  unfold tail at same
  match hl : l.fraction, hm : m.fraction with
  | [], [] =>
    rw [hl, hm] at same
    exact ⟨rfl, exponentText_inj l.exponent_digits m.exponent_digits hr hs same⟩
  | [], d :: ds =>
    rw [hl, hm] at same
    exact absurd same (exponentText_ne_point hr)
  | d :: ds, [] =>
    rw [hl, hm] at same
    exact absurd same.symm (exponentText_ne_point hs)
  | d :: ds, e :: es =>
    rw [hl, hm] at same
    rw [hl] at left
    rw [hm] at right
    obtain ⟨digits, exponents⟩ := digits_append_inj left right
      (noDigit_exponentText l.exponent hr) (noDigit_exponentText m.exponent hs)
      (List.cons.inj same).2
    exact ⟨digits, exponentText_inj l.exponent_digits m.exponent_digits hr hs exponents⟩

theorem exists_head (l : Literal) : ∃ c ds, l.whole = c :: ds ∧ isDigit c = true := by
  cases h : l.whole with
  | nil => exact absurd h l.whole_ne
  | cons c ds => exact ⟨c, ds, rfl, l.whole_digits c (h ▸ List.mem_cons_self)⟩

theorem whole_ne_minus (l : Literal) (r s : List Char) : l.whole ++ r ≠ '-' :: s := by
  obtain ⟨c, ds, whole, digit⟩ := l.exists_head
  intro same
  rw [whole] at same
  cases (List.cons.inj same).1
  simp [isDigit] at digit

theorem text_inj {l m : Literal} {r s : List Char} (hr : Stops r) (hs : Stops s)
    (same : l.text r = m.text s) : l = m ∧ r = s := by
  have unsigned : l.negative = m.negative ∧ l.whole ++ l.tail r = m.whole ++ m.tail s := by
    unfold text at same
    cases hl : l.negative <;> cases hm : m.negative <;>
      simp only [hl, hm, if_true, Bool.false_eq_true, if_false] at same
    · exact ⟨rfl, same⟩
    · exact absurd same (whole_ne_minus l _ _)
    · exact absurd same.symm (whole_ne_minus m _ _)
    · exact ⟨rfl, (List.cons.inj same).2⟩
  obtain ⟨wholes, tails⟩ := digits_append_inj l.whole_digits m.whole_digits (l.noDigit_tail hr)
    (m.noDigit_tail hs) unsigned.2
  obtain ⟨fractions, exponents, rests⟩ := tail_inj hr hs tails
  cases l
  cases m
  cases unsigned.1
  cases wholes
  cases fractions
  cases exponents
  exact ⟨rfl, rests⟩

end Literal

/-! Reading. -/

/-- A reading that takes exactly what stands before `rest`, if it comes to a value at all. -/
def Leads (rest : List Char) (v : Option Json) (x : Except Fault (Json × List Char)) : Prop :=
  match v with
  | some v => x = .ok (v, rest)
  | none => ∃ fault, x = .error fault

theorem Leads.rest_eq {rest r : List Char} {v : Option Json} {u : Json}
    {x : Except Fault (Json × List Char)} (leads : Leads rest v x) (ok : x = .ok (u, r)) :
    v = some u ∧ r = rest := by
  subst ok
  cases v with
  | none =>
    obtain ⟨fault, wrong⟩ := leads
    cases wrong
  | some v =>
    cases leads
    exact ⟨rfl, rfl⟩

theorem floatOf_leads (negative : Bool) (digits : Nat) (exponent : Int) (rest : List Char) :
    Leads rest ((Binary64.ofLiteral? negative digits exponent).map .float)
      (floatOf negative digits exponent rest) := by
  unfold floatOf
  cases Binary64.ofLiteral? negative digits exponent with
  | none => exact ⟨_, rfl⟩
  | some x => rfl

theorem isSome_exponentPasses (value : Nat) (rest : List Char) (ds : List Char) :
    (exponentPasses value rest ds).isSome = (exponentPasses value [] ds).isSome := by
  induction ds generalizing value with
  | nil => rfl
  | cons d ds ih =>
    simp only [exponentPasses]
    split
    · rfl
    · exact ih _

def withExponent (negative : Bool) (digits : Nat) (scale : Int) (down : Bool) (ds : List Char) :
    Option Binary64 :=
  if (exponentPasses 0 [] ds).isSome then
    if digits ≠ 0 ∧ down = false then none else some (.zero negative)
  else
    let value : Int := digitsValue ds
    Binary64.ofLiteral? negative digits (scale + if down then -value else value)

theorem readExponent_leads (negative : Bool) (digits : Nat) (scale : Int) (down : Bool)
    {ds rest : List Char} (ne : ds ≠ []) (all : ∀ c ∈ ds, isDigit c = true) (stop : NoDigit rest) :
    Leads rest ((withExponent negative digits scale down ds).map .float)
      (readExponent negative digits scale ((if down then '-' else '+') :: (ds ++ rest))) := by
  obtain ⟨d, ds, rfl⟩ := List.exists_cons_of_ne_nil ne
  have digit := all d List.mem_cons_self
  have front := takeWhile_digits all stop
  have back := dropWhile_digits all stop
  rw [List.cons_append] at front back
  have passes := isSome_exponentPasses 0 rest (d :: ds)
  unfold withExponent
  rw [← passes]
  cases found : exponentPasses 0 rest (d :: ds) with
  | some left =>
    by_cases zero : digits = 0
    · cases down <;> simp [readExponent, digit, front, back, found, zero, Leads]
    · cases down <;> simp [readExponent, digit, front, back, found, zero, Leads]
  | none =>
    have leads := floatOf_leads negative digits
      (scale + if down then -(digitsValue (d :: ds) : Int) else digitsValue (d :: ds)) rest
    cases down <;> simpa [readExponent, digit, front, back, found] using leads

section
variable (negative : Bool) {whole ds rest : List Char}

theorem readFraction_integer (stops : Stops rest) :
    readFraction negative whole rest =
      if negative ∧ digitsValue whole = 0 then .ok (.float (.zero true), rest)
      else match Integer.ofInt?
          (if negative then -(digitsValue whole : Int) else digitsValue whole) with
        | some i => .ok (.int i, rest)
        | none => floatOf negative (gather 0 whole).1 (gather 0 whole).2 rest := by
  unfold readFraction
  generalize gather 0 whole = gathered
  obtain ⟨digits, surplus⟩ := gathered
  cases rest with
  | nil => rfl
  | cons c s =>
    obtain ⟨-, point, lower, upper⟩ := stops_cons.1 stops
    dsimp only
    split
    · next h => exact absurd (List.cons.inj h).1 point
    · next h => exact absurd (List.cons.inj h).1 lower
    · next h => exact absurd (List.cons.inj h).1 upper
    · rfl

theorem readFraction_letter {letter : Char} (e : letter = 'e' ∨ letter = 'E') (s : List Char)
    (digits : ∀ c ∈ ds, isDigit c = true) :
    readFraction negative whole (Literal.fractionText ds (letter :: s)) =
      readExponent negative (gather (gather 0 whole).1 ds).1
        ((gather 0 whole).2 + (gather (gather 0 whole).1 ds).2 - ds.length) s := by
  have stop : NoDigit (letter :: s) := noDigit_cons.2 (by obtain rfl | rfl := e <;> decide)
  have front := takeWhile_digits digits stop
  have back := dropWhile_digits digits stop
  cases ds with
  | nil => obtain rfl | rfl := e <;> simp [Literal.fractionText, readFraction, gather]
  | cons d ds =>
    rw [List.cons_append] at front back
    obtain rfl | rfl := e <;> simp [Literal.fractionText, readFraction, front, back]

theorem readFraction_point (ne : ds ≠ []) (digits : ∀ c ∈ ds, isDigit c = true)
    (stop : NoDigit rest) (plain : ∀ c, rest.head? = some c → c ≠ 'e' ∧ c ≠ 'E') :
    readFraction negative whole ('.' :: (ds ++ rest)) =
      floatOf negative (gather (gather 0 whole).1 ds).1
        ((gather 0 whole).2 + (gather (gather 0 whole).1 ds).2 - ds.length) rest := by
  have front := takeWhile_digits digits stop
  have back := dropWhile_digits digits stop
  cases rest with
  | nil =>
    rw [List.append_nil] at front back ⊢
    simp [readFraction, front, back, ne]
  | cons c s =>
    obtain ⟨lower, upper⟩ := plain c rfl
    simp [readFraction, front, back, ne, lower, upper]

end

namespace Literal

variable (l : Literal)

theorem readMagnitude_whole (negative : Bool) {s : List Char} (stop : NoDigit s) :
    readMagnitude negative (l.whole ++ s) = readFraction negative l.whole s := by
  obtain ⟨c, ds, whole, digit⟩ := l.exists_head
  by_cases zero : c = '0'
  · rw [zero] at whole
    rw [l.unpadded (by rw [whole]; rfl)]
    cases s with
    | nil => rfl
    | cons d s => simp [readMagnitude, noDigit_cons.1 stop]
  · have front := takeWhile_digits l.whole_digits stop
    have back := dropWhile_digits l.whole_digits stop
    rw [whole, List.cons_append] at front back ⊢
    simp [readMagnitude, digit, front, back]

theorem readNumber_whole {s : List Char} (stop : NoDigit s) :
    readNumber (if l.negative then '-' :: (l.whole ++ s) else l.whole ++ s) =
      readFraction l.negative l.whole s := by
  have magnitude := l.readMagnitude_whole l.negative stop
  cases negative : l.negative with
  | true =>
    rw [negative] at magnitude
    exact magnitude
  | false =>
    rw [negative] at magnitude
    simp only [Bool.false_eq_true, if_false]
    unfold readNumber
    split
    · next h => exact absurd h (l.whole_ne_minus _ _)
    · exact magnitude

def value? : Option Binary64 :=
  let (digits, surplus) := gather 0 l.whole
  let (digits, dropped) := gather digits l.fraction
  let scale : Int := surplus + dropped - l.fraction.length
  match l.exponent with
  | none => Binary64.ofLiteral? l.negative digits scale
  | some (down, ds) => withExponent l.negative digits scale down ds

/-! Integers. -/

def ofInteger (n : Int) : Literal where
  negative := decide (n < 0)
  whole := Decimal.digitChars n.natAbs
  fraction := []
  exponent := none
  whole_digits := fun _ => isDigit_of_mem_digitChars
  whole_ne := digitChars_ne_nil n.natAbs
  unpadded := by
    intro head
    by_cases zero : n.natAbs = 0
    · rw [zero]
      exact Nat.toDigits_zero 10
    · exact absurd head (head_digitChars zero)
  fraction_digits := by simp
  exponent_digits := by simp

theorem ofInteger_text (n : Int) (rest : List Char) :
    (ofInteger n).text rest = writeInt n rest := by
  by_cases negative : n < 0 <;> simp [text, writeInt, ofInteger, tail, fractionText, exponentText,
    negative]

theorem ofInteger_inj {n m : Int} (same : ofInteger n = ofInteger m) : n = m := by
  have signs : decide (n < 0) = decide (m < 0) := congrArg negative same
  have wholes : Decimal.digitChars n.natAbs = Decimal.digitChars m.natAbs := congrArg whole same
  have sizes := congrArg digitsValue wholes
  rw [digitsValue_digitChars, digitsValue_digitChars] at sizes
  have signs := decide_eq_decide.1 signs
  omega

end Literal

end Coalesce.Json
