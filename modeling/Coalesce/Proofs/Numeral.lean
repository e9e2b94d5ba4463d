import Coalesce.Proofs.Literal

/-! The texts that are numbers, and the value of each. Reading takes exactly these texts, as far as
what stands behind them does not go on as a number. -/
namespace Coalesce.Json

inductive Mark : List Char → Bool → Prop where
  | none : Mark [] false
  | plus : Mark ['+'] false
  | minus : Mark ['-'] true

inductive Exponent : Option (Bool × List Char) → List Char → List Char → Prop where
  | none (rest : List Char) : Exponent none rest rest
  | some {letter : Char} {mark ds : List Char} {down : Bool} (e : letter = 'e' ∨ letter = 'E')
      (marked : Mark mark down) (rest : List Char) :
      Exponent (some (down, ds)) (letter :: (mark ++ (ds ++ rest))) rest

namespace Literal

def Heads (l : Literal) (s rest : List Char) : Prop :=
  ∃ tail, Exponent l.exponent tail rest ∧
    s = if l.negative then '-' :: (l.whole ++ fractionText l.fraction tail)
      else l.whole ++ fractionText l.fraction tail

/-- The number with these parts, if it is within the range of numbers. An integer that no word of 64
bits can hold is a number like those with a point or an exponent, and so is the negative zero. -/
def number? (l : Literal) : Option Json :=
  match l.fraction, l.exponent with
  | [], none =>
    let n := digitsValue l.whole
    if l.negative ∧ n = 0 then some (.float (.zero true))
    else match Integer.ofInt? (if l.negative then -n else n) with
      | some i => some (.int i)
      | none => l.value?.map .float
  | _, _ => l.value?.map .float

theorem number?_of_marked {l : Literal} (marked : l.Marked) : l.number? = l.value?.map .float := by
  unfold number?
  split
  · next fraction exponent => exact absurd marked (by simp [Marked, fraction, exponent])
  · rfl

end Literal

structure Ends (fraction : List Char) (exponent : Option (Bool × List Char)) (rest : List Char) :
    Prop where
  digit : NoDigit rest
  letter : exponent = none → ∀ c, rest.head? = some c → c ≠ 'e' ∧ c ≠ 'E'
  point : exponent = none → fraction = [] → rest.head? ≠ some '.'

theorem Stops.ends {rest : List Char} (stops : Stops rest) (fraction : List Char)
    (exponent : Option (Bool × List Char)) : Ends fraction exponent rest where
  digit := stops.noDigit
  letter _ c head := (stops c head).2.2
  point _ _ head := (stops '.' head).2.1 rfl

theorem Ends.stops {rest : List Char} (ends : Ends [] none rest) : Stops rest := by
  intro c head
  obtain ⟨lower, upper⟩ := ends.letter rfl c head
  refine ⟨ends.digit c head, ?_, lower, upper⟩
  rintro rfl
  exact ends.point rfl rfl head

/-! What is a number is read as its value. -/

section
variable {negative down : Bool} {digits n : Nat} {scale : Int}
  {mark ds whole s rest : List Char} {p : Json × List Char}

theorem ne_sign {d : Char} (digit : isDigit d = true) : d ≠ '+' ∧ d ≠ '-' := by
  constructor <;> rintro rfl <;> cases digit

theorem readExponent_unsigned {d : Char} (digit : isDigit d = true) (s : List Char) :
    readExponent negative digits scale (d :: s) =
      readExponent negative digits scale ('+' :: d :: s) := by
  obtain ⟨plus, minus⟩ := ne_sign digit
  unfold readExponent
  split
  next down t h =>
    split at h
    · next same => exact absurd (List.cons.inj same).1 plus
    · next same => exact absurd (List.cons.inj same).1 minus
    · cases h
      rfl

theorem readExponent_marked (marked : Mark mark down) (ne : ds ≠ [])
    (all : ∀ c ∈ ds, isDigit c = true) (stop : NoDigit rest) :
    Leads rest ((withExponent negative digits scale down ds).map .float)
      (readExponent negative digits scale (mark ++ (ds ++ rest))) := by
  cases marked with
  | plus => exact readExponent_leads negative digits scale false ne all stop
  | minus => exact readExponent_leads negative digits scale true ne all stop
  | none =>
    have leads := readExponent_leads negative digits scale false ne all stop
    obtain ⟨d, ds, rfl⟩ := List.exists_cons_of_ne_nil ne
    rw [List.nil_append, List.cons_append, readExponent_unsigned (all d List.mem_cons_self)]
    exact leads

theorem Exponent.noDigit {e : Option (Bool × List Char)} (exponent : Exponent e s rest)
    (stop : NoDigit rest) : NoDigit s := by
  cases exponent with
  | none => exact stop
  | some e => exact noDigit_cons.2 (by obtain rfl | rfl := e <;> decide)

namespace Literal

variable {l : Literal}

theorem leads_integer (fraction : l.fraction = []) (parts : l.exponent = none)
    (stops : Stops rest) : Leads rest l.number? (readFraction l.negative l.whole rest) := by
  have value : l.value? = Binary64.ofLiteral? l.negative (gather 0 l.whole).1
      (gather 0 l.whole).2 := by
    simp [value?, fraction, parts, gather]
  rw [readFraction_integer _ stops, number?, fraction, parts]
  dsimp only
  split
  · rfl
  · cases Integer.ofInt? (if l.negative then -(digitsValue l.whole : Int) else digitsValue l.whole)
      with
    | some i => rfl
    | none =>
      rw [value]
      exact floatOf_leads ..

theorem leads_fraction {d : Char} {ds : List Char} (fraction : l.fraction = d :: ds)
    (parts : l.exponent = none) (stop : NoDigit rest)
    (plain : ∀ c, rest.head? = some c → c ≠ 'e' ∧ c ≠ 'E') :
    Leads rest l.number? (readFraction l.negative l.whole (fractionText l.fraction rest)) := by
  have marked : l.Marked := .inl (by rw [fraction]; exact List.cons_ne_nil d ds)
  have digits := l.fraction_digits
  have value : l.value? = Binary64.ofLiteral? l.negative
      (gather (gather 0 l.whole).1 l.fraction).1 ((gather 0 l.whole).2 +
        (gather (gather 0 l.whole).1 l.fraction).2 - l.fraction.length) := by
    simp [value?, parts]
  rw [number?_of_marked marked, value]
  rw [fraction] at digits ⊢
  rw [fractionText, readFraction_point _ (List.cons_ne_nil d ds) digits stop plain]
  exact floatOf_leads ..

theorem leads_exponent {down : Bool} {ds tail : List Char} (parts : l.exponent = some (down, ds))
    (exponent : Exponent (some (down, ds)) tail rest) (stop : NoDigit rest) :
    Leads rest l.number? (readFraction l.negative l.whole (fractionText l.fraction tail)) := by
  have marked : l.Marked := .inr (by rw [parts]; exact Option.some_ne_none _)
  obtain ⟨ne, all⟩ := l.exponent_digits _ parts
  have value : l.value? = withExponent l.negative (gather (gather 0 l.whole).1 l.fraction).1
      ((gather 0 l.whole).2 + (gather (gather 0 l.whole).1 l.fraction).2 - l.fraction.length)
      down ds := by
    simp [value?, parts]
  cases exponent with
  | some e signed =>
    rw [number?_of_marked marked, value, readFraction_letter _ e _ l.fraction_digits]
    exact readExponent_marked signed ne all stop

theorem Heads.leads (heads : l.Heads s rest) (ends : Ends l.fraction l.exponent rest) :
    Leads rest l.number? (readNumber s) := by
  obtain ⟨tail, exponent, rfl⟩ := heads
  have stop : NoDigit (fractionText l.fraction tail) := by
    cases l.fraction with
    | nil => exact exponent.noDigit ends.digit
    | cons d ds => exact noDigit_cons.2 rfl
  rw [l.readNumber_whole stop]
  match fraction : l.fraction, parts : l.exponent with
  | [], none =>
    rw [fraction, parts] at ends
    rw [parts] at exponent
    cases exponent
    exact leads_integer fraction parts ends.stops
  | d :: ds, none =>
    rw [parts] at exponent ends
    cases exponent
    rw [← fraction]
    exact leads_fraction fraction parts ends.digit (ends.letter rfl)
  | fractions, some (down, ds) =>
    rw [parts] at exponent
    rw [← fraction]
    exact leads_exponent parts exponent ends.digit

end Literal

/-! What is read as a number is one. -/

theorem noDigit_dropWhile (s : List Char) : NoDigit (s.dropWhile isDigit) := by
  intro c head
  have first := List.head?_dropWhile_not isDigit s
  rw [head] at first
  simpa using first

theorem exists_digits {c : Char} (digit : isDigit c = true) (s : List Char) :
    ∃ ds rest, c :: s = ds ++ rest ∧ ds ≠ [] ∧ (∀ d ∈ ds, isDigit d = true) ∧ NoDigit rest :=
  ⟨(c :: s).takeWhile isDigit, (c :: s).dropWhile isDigit,
    List.takeWhile_append_dropWhile.symm, by simp [digit],
    List.all_eq_true.1 List.all_takeWhile, noDigit_dropWhile _⟩

theorem exists_of_readExponent (read : readExponent negative digits scale s = .ok p) :
    ∃ mark down ds rest, Mark mark down ∧ s = mark ++ (ds ++ rest) ∧ ds ≠ [] ∧
      (∀ d ∈ ds, isDigit d = true) ∧ NoDigit rest := by
  unfold readExponent at read
  split at read
  next down t sign =>
    obtain ⟨mark, marked, rfl⟩ : ∃ mark, Mark mark down ∧ s = mark ++ t := by
      split at sign
      · cases sign
        exact ⟨_, .plus, rfl⟩
      · cases sign
        exact ⟨_, .minus, rfl⟩
      · cases sign
        exact ⟨_, .none, rfl⟩
    split at read
    · cases read
    · next c u =>
      split at read
      · next digit =>
        obtain ⟨ds, rest, split, ne, all, stop⟩ := exists_digits digit u
        exact ⟨mark, down, ds, rest, marked, by rw [split], ne, all, stop⟩
      · cases read

structure Behind (fraction : List Char) (exponent : Option (Bool × List Char))
    (s rest : List Char) : Prop where
  split : ∃ tail, Exponent exponent tail rest ∧ s = Literal.fractionText fraction tail
  fraction_digits : ∀ c ∈ fraction, isDigit c = true
  exponent_digits : ∀ e, exponent = some e → e.2 ≠ [] ∧ ∀ c ∈ e.2, isDigit c = true
  ends : Ends fraction exponent rest

theorem behind_of_letter {letter : Char} {r fraction : List Char} (e : letter = 'e' ∨ letter = 'E')
    (digits : ∀ c ∈ fraction, isDigit c = true)
    (split : s = Literal.fractionText fraction (letter :: r))
    (read : readExponent negative n scale r = .ok p) :
    ∃ exponent rest, Behind fraction exponent s rest := by
  obtain ⟨mark, down, ds, rest, marked, rfl, ne, all, stop⟩ := exists_of_readExponent read
  refine ⟨some (down, ds), rest, ⟨_, .some e marked rest, split⟩, digits, ?_, stop, nofun, nofun⟩
  rintro _ ⟨⟩
  exact ⟨ne, all⟩

theorem fractionText_of_ne (ne : ds ≠ []) (rest : List Char) :
    Literal.fractionText ds rest = '.' :: (ds ++ rest) := by
  cases ds with
  | nil => exact absurd rfl ne
  | cons d ds => rfl

theorem ne_head {d : Char} (other : ∀ r, s = d :: r → False) : s.head? ≠ some d := by
  intro head
  obtain ⟨r, same⟩ := List.head?_eq_some_iff.1 head
  exact other r same

theorem plain_of_ne (lower : ∀ r, s = 'e' :: r → False) (upper : ∀ r, s = 'E' :: r → False) :
    ∀ c, s.head? = some c → c ≠ 'e' ∧ c ≠ 'E' := by
  intro c head
  exact ⟨fun same => ne_head lower (same ▸ head), fun same => ne_head upper (same ▸ head)⟩

theorem exists_of_readFraction (read : readFraction negative whole s = .ok p) (stop : NoDigit s) :
    ∃ fraction exponent rest, Behind fraction exponent s rest := by
  unfold readFraction at read
  generalize gather 0 whole = gathered at read
  obtain ⟨n, surplus⟩ := gathered
  dsimp only at read
  split at read
  · next t =>
    split at read
    · split at read <;> cases read
    · next ne =>
      generalize gather n _ = gathered at read
      obtain ⟨n, dropped⟩ := gathered
      have digits : ∀ d ∈ t.takeWhile isDigit, isDigit d = true :=
        List.all_eq_true.1 List.all_takeWhile
      have whole : '.' :: t = Literal.fractionText (t.takeWhile isDigit) (t.dropWhile isDigit) := by
        rw [fractionText_of_ne ne, List.takeWhile_append_dropWhile]
      dsimp only at read
      split at read
      · next r tail =>
        rw [tail] at whole
        exact ⟨_, behind_of_letter (.inl rfl) digits whole read⟩
      · next r tail =>
        rw [tail] at whole
        exact ⟨_, behind_of_letter (.inr rfl) digits whole read⟩
      · next lower upper =>
        exact ⟨_, none, _, ⟨_, .none _, whole⟩, digits, nofun, noDigit_dropWhile t,
          fun _ => plain_of_ne lower upper, fun _ none => absurd none ne⟩
  · next r => exact ⟨[], behind_of_letter (.inl rfl) nofun rfl read⟩
  · next r => exact ⟨[], behind_of_letter (.inr rfl) nofun rfl read⟩
  · next point lower upper =>
    exact ⟨[], none, s, ⟨_, .none _, rfl⟩, nofun, nofun, stop,
      fun _ => plain_of_ne lower upper, fun _ _ => ne_head point⟩

def Magnitude (negative : Bool) (s : List Char) : Prop :=
  ∃ (l : Literal) (rest : List Char), l.negative = negative ∧
    (∃ tail, Exponent l.exponent tail rest ∧
      s = l.whole ++ Literal.fractionText l.fraction tail) ∧
    Ends l.fraction l.exponent rest

theorem magnitude_of_readFraction {t : List Char} (split : s = whole ++ t)
    (digits : ∀ c ∈ whole, isDigit c = true) (ne : whole ≠ [])
    (unpadded : whole.head? = some '0' → whole = ['0']) (stop : NoDigit t)
    (read : readFraction negative whole t = .ok p) : Magnitude negative s := by
  obtain ⟨fraction, exponent, rest, behind⟩ := exists_of_readFraction read stop
  obtain ⟨tail, parts, text⟩ := behind.split
  have whole_split : s = whole ++ Literal.fractionText fraction tail := split.trans (text ▸ rfl)
  exact ⟨⟨negative, whole, fraction, exponent, digits, ne, unpadded, behind.fraction_digits,
    behind.exponent_digits⟩, rest, rfl, ⟨tail, parts, whole_split⟩, behind.ends⟩

theorem magnitude_of_zero {t : List Char} (stop : NoDigit t)
    (read : readFraction negative ['0'] t = .ok p) : Magnitude negative ('0' :: t) :=
  magnitude_of_readFraction rfl (List.forall_mem_singleton.2 (by decide)) nofun (fun _ => rfl) stop
    read

theorem magnitude_of_readMagnitude (read : readMagnitude negative s = .ok p) :
    Magnitude negative s := by
  unfold readMagnitude at read
  split at read
  · cases read
  · next r =>
    split at read
    · next c u =>
      split at read
      · cases read
      · next other =>
        exact magnitude_of_zero (noDigit_cons.2 (Bool.eq_false_iff.2 other)) read
    · exact magnitude_of_zero stops_nil.noDigit read
  · next c u nonzero =>
    split at read
    · next digit =>
      refine magnitude_of_readFraction List.takeWhile_append_dropWhile.symm
        (List.all_eq_true.1 List.all_takeWhile) (by simp [digit]) ?_ (noDigit_dropWhile _) read
      intro head
      simp [digit] at head
      exact absurd head nonzero
    · cases read

/-- What is read as a number begins with one, and reading gives its value. -/
theorem heads_of_readNumber {v : Json} {r : List Char} (read : readNumber s = .ok (v, r)) :
    ∃ l : Literal, l.Heads s r ∧ l.number? = some v := by
  obtain ⟨l, rest, heads, ends⟩ : ∃ (l : Literal) (rest : List Char), l.Heads s rest ∧
      Ends l.fraction l.exponent rest := by
    unfold readNumber at read
    split at read
    · obtain ⟨l, rest, negative, ⟨tail, exponent, rfl⟩, ends⟩ := magnitude_of_readMagnitude read
      exact ⟨l, rest, ⟨tail, exponent, by rw [negative]; rfl⟩, ends⟩
    · obtain ⟨l, rest, negative, ⟨tail, exponent, rfl⟩, ends⟩ := magnitude_of_readMagnitude read
      exact ⟨l, rest, ⟨tail, exponent, by rw [negative]; rfl⟩, ends⟩
  obtain ⟨value, rfl⟩ := (heads.leads ends).rest_eq read
  exact ⟨l, heads, value⟩

theorem Literal.Heads.readNumber_eq {l : Literal} {v : Json} (heads : l.Heads s rest)
    (stops : Stops rest) (value : l.number? = some v) : readNumber s = .ok (v, rest) := by
  have leads := heads.leads (stops.ends l.fraction l.exponent)
  rw [value] at leads
  exact leads

/-! What is written as a number is one. -/

theorem exponent_exponentText (e : Option (Bool × List Char)) (rest : List Char) :
    Exponent e (Literal.exponentText e rest) rest := by
  match e with
  | none => exact .none rest
  | some (true, _) => exact .some (.inl rfl) .minus rest
  | some (false, _) => exact .some (.inl rfl) .plus rest

namespace Literal

variable (l : Literal)

theorem heads_text (rest : List Char) : l.Heads (l.text rest) rest :=
  ⟨exponentText l.exponent rest, exponent_exponentText l.exponent rest, rfl⟩

theorem readNumber_leads (marked : l.Marked) (stops : Stops rest) :
    Leads rest (l.value?.map .float) (readNumber (l.text rest)) := by
  rw [← number?_of_marked marked]
  exact (l.heads_text rest).leads (stops.ends l.fraction l.exponent)

end Literal

theorem number?_ofInteger (n : Integer) : (Literal.ofInteger n.val).number? = some (.int n) := by
  have size := digitsValue_digitChars n.val.natAbs
  have fits : Integer.ofInt? n.val = some n := by simp [Integer.ofInt?, n.lower, n.upper]
  simp only [Literal.number?, Literal.ofInteger, size]
  by_cases negative : n.val < 0
  · have value : -(n.val.natAbs : Int) = n.val := by omega
    have pos : n.val.natAbs ≠ 0 := by omega
    simp only [negative, decide_true, if_true, true_and, pos, if_false, value, fits]
  · have value : (n.val.natAbs : Int) = n.val := by omega
    simp only [negative, decide_false, Bool.false_eq_true, false_and, if_false, value, fits]

theorem readNumber_writeInt (n : Integer) (stops : Stops rest) :
    readNumber (writeInt n.val rest) = .ok (.int n, rest) := by
  rw [← Literal.ofInteger_text]
  exact ((Literal.ofInteger n.val).heads_text rest).readNumber_eq stops (number?_ofInteger n)

theorem Literal.Heads.exists_cons {l : Literal} (heads : l.Heads s rest) :
    ∃ c t, s = c :: t ∧ (c = '-' ∨ isDigit c = true) := by
  obtain ⟨tail, -, rfl⟩ := heads
  obtain ⟨c, ds, whole, digit⟩ := l.exists_head
  cases l.negative with
  | true => exact ⟨_, _, rfl, .inl rfl⟩
  | false => exact ⟨_, _, by rw [whole]; rfl, .inr digit⟩

end

end Coalesce.Json
