import Mathlib.Data.String.Basic
import Coalesce.Proofs.Numeral
import Coalesce.Proofs.Shortest

/-! JSON texts. What is written reads back as the same value, as far as its numbers do and as deep
as containers may be nested, and two values never have the same text. -/
namespace Coalesce.Json

/-! Strings. -/

theorem hexValue?_hexDigit : ∀ n < 16, hexValue? (Text.hexDigit n) = some n := by decide

theorem readHex4_padHex {n : Nat} (small : n < 0x20) (s : List Char) :
    readHex4 ('0' :: '0' :: padHex n ++ s) = .ok (n, s) := by
  have zero : hexValue? '0' = some 0 := rfl
  have high := hexValue?_hexDigit (n / 16 % 16) (Nat.mod_lt _ (by decide))
  have low := hexValue?_hexDigit (n % 16) (Nat.mod_lt _ (by decide))
  simp only [readHex4, padHex, List.cons_append, List.nil_append, zero, high, low]
  congr 2
  omega

theorem readUnicode_padHex {c : Char} (small : c.toNat < 0x20) (s : List Char) :
    readUnicode ('0' :: '0' :: padHex c.toNat ++ s) = .ok (c, s) := by
  have low : isLowSurrogate c.toNat = false := by simp [isLowSurrogate]; omega
  have high : isHighSurrogate c.toNat = false := by simp [isHighSurrogate]; omega
  simp only [readUnicode, readHex4_padHex small, bind, Except.bind, low, high, Char.ofNat_toNat,
    Bool.false_eq_true, if_false]

theorem readChars_escape {fuel : Nat} {rest : List Char} {c : Char} {s : List Char}
    (h : readEscape rest = .ok (c, s)) :
    readChars (fuel + 1) ('\\' :: rest) = (readChars fuel s).map fun p => (c :: p.1, p.2) := by
  simp only [readChars, h, bind, Except.bind, Except.map]

theorem readChars_escapeChar (fuel : Nat) (c : Char) (s : List Char) :
    readChars (fuel + 1) (escapeChar c ++ s) =
      (readChars fuel s).map fun p => (c :: p.1, p.2) := by
  unfold escapeChar
  split
  · next h =>
    subst h
    exact readChars_escape rfl
  split
  · next h =>
    subst h
    exact readChars_escape rfl
  split
  · next h =>
    subst h
    exact readChars_escape rfl
  split
  · next h =>
    subst h
    exact readChars_escape rfl
  split
  · next h =>
    subst h
    exact readChars_escape rfl
  split
  · next h =>
    subst h
    exact readChars_escape rfl
  split
  · next h =>
    subst h
    exact readChars_escape rfl
  split
  · next small => exact readChars_escape (readUnicode_padHex small s)
  · next large => simp [readChars, large, bind, Except.bind, Except.map]

theorem readChars_writeChars (cs rest : List Char) {fuel : Nat} (enough : cs.length < fuel) :
    readChars fuel (writeChars cs rest) = .ok (cs, rest) := by
  induction cs generalizing fuel with
  | nil =>
    obtain ⟨fuel, rfl⟩ := Nat.exists_eq_succ_of_ne_zero (Nat.ne_of_gt enough)
    rfl
  | cons c cs ih =>
    obtain ⟨fuel, rfl⟩ := Nat.exists_eq_succ_of_ne_zero (Nat.ne_of_gt (Nat.zero_lt_of_lt enough))
    have tail := ih (Nat.lt_of_succ_lt_succ enough)
    rw [writeChars, readChars_escapeChar, tail]
    rfl

theorem escapeChar_ne_nil (c : Char) : escapeChar c ≠ [] := by
  unfold escapeChar
  repeat' split
  all_goals simp

theorem length_writeChars (cs rest : List Char) :
    cs.length + rest.length < (writeChars cs rest).length := by
  induction cs with
  | nil => simp [writeChars]
  | cons c cs ih =>
    have one := List.length_pos_of_ne_nil (escapeChar_ne_nil c)
    simp only [writeChars, List.length_append, List.length_cons]
    omega

theorem readString_writeChars (s : String) (rest : List Char) :
    readString (writeChars s.toList rest) = .ok (s, rest) := by
  have length := length_writeChars s.toList rest
  have enough : s.toList.length < (writeChars s.toList rest).length + 1 := by omega
  have read := readChars_writeChars s.toList rest enough
  simp only [readString, read, bind, Except.bind, String.ofList_toList]

theorem writeChars_inj {s t : String} {r u : List Char}
    (same : writeChars s.toList r = writeChars t.toList u) : s = t ∧ r = u := by
  have left := readString_writeChars s r
  rw [same, readString_writeChars t u] at left
  cases left
  exact ⟨rfl, rfl⟩

/-! The first character of a text. -/

def Opens : Json → Char → Prop
  | .null, c => c = 'n'
  | .bool true, c => c = 't'
  | .bool false, c => c = 'f'
  | .int _, c => c = '-' ∨ isDigit c = true
  | .float _, c => c = '-' ∨ isDigit c = true
  | .str _, c => c = '"'
  | .arr _, c => c = '['
  | .obj _, c => c = '{'

theorem Literal.text_head (l : Literal) (rest : List Char) :
    ∃ c s, l.text rest = c :: s ∧ (c = '-' ∨ isDigit c = true) ∧ rest.length ≤ s.length := by
  have tail : rest.length ≤ (l.tail rest).length := by
    unfold tail fractionText exponentText
    grind
  obtain ⟨c, ds, whole, digit⟩ := l.exists_head
  unfold text
  split
  · exact ⟨_, _, rfl, .inl rfl, by simp; omega⟩
  · rw [whole]
    exact ⟨_, _, rfl, .inr digit, by simp; omega⟩

theorem write_head (v : Json) (rest : List Char) :
    ∃ c s, write v rest = c :: s ∧ Opens v c := by
  match v with
  | .null => exact ⟨_, _, rfl, rfl⟩
  | .bool true => exact ⟨_, _, rfl, rfl⟩
  | .bool false => exact ⟨_, _, rfl, rfl⟩
  | .int n =>
    obtain ⟨c, s, text, opens, -⟩ := (Literal.ofInteger n.val).text_head rest
    rw [Literal.ofInteger_text] at text
    exact ⟨c, s, text, opens⟩
  | .float x =>
    obtain ⟨l, -, -, -, same⟩ := x.exists_literal
    obtain ⟨c, s, text, opens, -⟩ := l.text_head rest
    rw [← same] at text
    exact ⟨c, s, text, opens⟩
  | .str s => exact ⟨_, _, rfl, rfl⟩
  | .arr [] => exact ⟨_, _, rfl, rfl⟩
  | .arr (v :: vs) => exact ⟨_, _, rfl, rfl⟩
  | .obj [] => exact ⟨_, _, rfl, rfl⟩
  | .obj ((k, v) :: ms) => exact ⟨_, _, rfl, rfl⟩

mutual

theorem length_write : ∀ (v : Json) (rest : List Char), rest.length < (write v rest).length
  | .null, rest => by simp [write]; omega
  | .bool true, rest => by simp [write]; omega
  | .bool false, rest => by simp [write]; omega
  | .int n, rest => by
    obtain ⟨c, s, text, -, le⟩ := (Literal.ofInteger n.val).text_head rest
    rw [write, ← Literal.ofInteger_text, text]
    exact Nat.lt_succ_of_le le
  | .float x, rest => by
    obtain ⟨l, -, -, -, same⟩ := x.exists_literal
    obtain ⟨c, s, text, -, le⟩ := l.text_head rest
    rw [write, same, text]
    exact Nat.lt_succ_of_le le
  | .str s, rest => by
    have chars := length_writeChars s.toList rest
    simp only [write, writeString, List.length_cons]
    omega
  | .arr [], rest => by
    simp only [write, List.length_cons]
    omega
  | .arr (v :: vs), rest => by
    have item := length_write v (writeItems vs rest)
    have items := length_writeItems vs rest
    simp only [write, List.length_cons]
    omega
  | .obj [], rest => by
    simp only [write, List.length_cons]
    omega
  | .obj ((k, v) :: ms), rest => by
    have key := length_writeChars k.toList (':' :: write v (writeMembers ms rest))
    have value := length_write v (writeMembers ms rest)
    have members := length_writeMembers ms rest
    simp only [write, writeString, List.length_cons] at key ⊢
    omega

theorem length_writeItems : ∀ (vs : List Json) (rest : List Char),
    rest.length < (writeItems vs rest).length
  | [], rest => by simp [writeItems]
  | v :: vs, rest => by
    have item := length_write v (writeItems vs rest)
    have items := length_writeItems vs rest
    simp only [writeItems, List.length_cons]
    omega

theorem length_writeMembers : ∀ (ms : List (String × Json)) (rest : List Char),
    rest.length < (writeMembers ms rest).length
  | [], rest => by simp [writeMembers]
  | (k, v) :: ms, rest => by
    have key := length_writeChars k.toList (':' :: write v (writeMembers ms rest))
    have value := length_write v (writeMembers ms rest)
    have members := length_writeMembers ms rest
    simp only [writeMembers, writeString, List.length_cons] at key ⊢
    omega

end

/-! Reading a value. -/

def Begins (s : List Char) : Prop :=
  ∃ c t, s = c :: t ∧ isSpace c = false ∧ c ≠ ']' ∧ c ≠ '}'

theorem Begins.skipSpace {s : List Char} (begins : Begins s) : skipSpace s = s := by
  obtain ⟨c, t, rfl, blank, -⟩ := begins
  simp [Json.skipSpace, blank]

theorem ne_of_isDigit {c d : Char} (digit : isDigit c = true) (other : isDigit d = false) :
    c ≠ d := by
  rintro rfl
  rw [digit] at other
  cases other

theorem isSpace_of_isDigit {c : Char} (digit : isDigit c = true) : isSpace c = false := by
  have space := ne_of_isDigit digit (by decide : isDigit ' ' = false)
  have newline := ne_of_isDigit digit (by decide : isDigit '\n' = false)
  have tab := ne_of_isDigit digit (by decide : isDigit '\t' = false)
  have carriage := ne_of_isDigit digit (by decide : isDigit '\r' = false)
  simp [isSpace, space, newline, tab, carriage]

theorem begins_number {c : Char} (opens : c = '-' ∨ isDigit c = true) :
    isSpace c = false ∧ c ≠ ']' ∧ c ≠ '}' := by
  obtain rfl | digit := opens
  · decide
  · exact ⟨isSpace_of_isDigit digit, ne_of_isDigit digit (by decide),
      ne_of_isDigit digit (by decide)⟩

theorem Opens.begins {v : Json} {c : Char} (opens : Opens v c) :
    isSpace c = false ∧ c ≠ ']' ∧ c ≠ '}' := by
  match v with
  | .null | .bool true | .bool false | .str _ | .arr _ | .obj _ =>
    cases opens
    decide
  | .int _ => exact begins_number opens
  | .float _ => exact begins_number opens

theorem begins_write (v : Json) (rest : List Char) : Begins (write v rest) := by
  obtain ⟨c, s, text, opens⟩ := write_head v rest
  exact ⟨c, s, text, opens.begins⟩

theorem stops_writeItems (vs : List Json) (rest : List Char) : Stops (writeItems vs rest) := by
  cases vs <;> exact stops_cons.2 (by decide)

theorem stops_writeMembers (ms : List (String × Json)) (rest : List Char) :
    Stops (writeMembers ms rest) := by
  obtain _ | ⟨⟨k, v⟩, ms⟩ := ms <;> exact stops_cons.2 (by decide)

section
variable {room fuel : Nat} {rest s t u w x : List Char} {k : String} {v : Json}

theorem readValue_opens {c : Char} (opens : c = '-' ∨ isDigit c = true) :
    readValue room (fuel + 1) (c :: t) = readNumber (c :: t) := by
  obtain rfl | digit := opens
  · simp [readValue, skipSpace, isSpace]
  · have skip : skipSpace (c :: t) = c :: t := by simp [skipSpace, isSpace_of_isDigit digit]
    unfold readValue
    rw [skip]
    split
    · next h => cases h
    · next h => exact absurd (List.cons.inj h).1 (ne_of_isDigit digit (by decide))
    · next h => exact absurd (List.cons.inj h).1 (ne_of_isDigit digit (by decide))
    · next h => exact absurd (List.cons.inj h).1 (ne_of_isDigit digit (by decide))
    · next h => exact absurd (List.cons.inj h).1 (ne_of_isDigit digit (by decide))
    · next h => exact absurd (List.cons.inj h).1 (ne_of_isDigit digit (by decide))
    · next h => exact absurd (List.cons.inj h).1 (ne_of_isDigit digit (by decide))
    · next h =>
      cases h
      simp [digit]

theorem readValue_number (l : Literal) :
    readValue room (fuel + 1) (l.text rest) = readNumber (l.text rest) := by
  obtain ⟨c, t, text, opens, -⟩ := l.text_head rest
  rw [text, readValue_opens opens]

theorem readValue_string (t : String) :
    readValue room (fuel + 1) ('"' :: writeChars t.toList rest) = .ok (.str t, rest) := by
  simp [readValue, skipSpace, isSpace, readString_writeChars, bind, Except.bind]

theorem readValue_full (c : Char) (container : c = '[' ∨ c = '{') :
    ∃ fault, readValue 0 (fuel + 1) (c :: s) = .error fault := by
  obtain rfl | rfl := container <;> exact ⟨_, rfl⟩

theorem readValue_list (inner : skipSpace s = t) (begins : Begins t) :
    readValue (room + 1) (fuel + 1) ('[' :: s) =
      (readItems room fuel t).map fun p => (.arr p.1, p.2) := by
  obtain ⟨c, t, rfl, -, bracket, -⟩ := begins
  have outer : skipSpace ('[' :: s) = '[' :: s := rfl
  simp only [readValue, outer, inner, bind, Except.bind, Except.map]
  cases items : readItems room fuel (c :: t) <;> simp [bracket, items]

theorem readValue_object (inner : skipSpace s = t) (begins : Begins t) :
    readValue (room + 1) (fuel + 1) ('{' :: s) =
      (readMembers room fuel t).map fun p => (.obj (Table.ofList p.1), p.2) := by
  obtain ⟨c, t, rfl, -, -, brace⟩ := begins
  have outer : skipSpace ('{' :: s) = '{' :: s := rfl
  simp only [readValue, outer, inner, bind, Except.bind, Except.map]
  cases members : readMembers room fuel (c :: t) <;> simp [brace, members]

theorem readItems_last (read : readValue room fuel s = .ok (v, t))
    (close : skipSpace t = ']' :: rest) : readItems room (fuel + 1) s = .ok ([v], rest) := by
  simp [readItems, read, bind, Except.bind, close]

theorem readItems_comma (read : readValue room fuel s = .ok (v, t))
    (comma : skipSpace t = ',' :: u) (inner : skipSpace u = w) (begins : Begins w) :
    readItems room (fuel + 1) s = (readItems room fuel w).map fun p => (v :: p.1, p.2) := by
  obtain ⟨c, x, rfl, -, bracket, -⟩ := begins
  simp only [readItems, read, bind, Except.bind, Except.map, comma, inner]
  cases items : readItems room fuel (c :: x) <;> simp [bracket, items]

theorem readMembers_last (key : readString s = .ok (k, t)) (colon : skipSpace t = ':' :: u)
    (read : readValue room fuel u = .ok (v, w)) (close : skipSpace w = '}' :: rest) :
    readMembers room (fuel + 1) ('"' :: s) = .ok ([(k, v)], rest) := by
  simp [readMembers, key, colon, read, bind, Except.bind, close]

theorem readMembers_comma {y : List Char} (key : readString s = .ok (k, t))
    (colon : skipSpace t = ':' :: u) (read : readValue room fuel u = .ok (v, w))
    (comma : skipSpace w = ',' :: x) (inner : skipSpace x = y) (begins : Begins y) :
    readMembers room (fuel + 1) ('"' :: s) =
      (readMembers room fuel y).map fun p => ((k, v) :: p.1, p.2) := by
  obtain ⟨c, y, rfl, -, -, brace⟩ := begins
  simp only [readMembers, key, colon, read, bind, Except.bind, Except.map, comma, inner]
  cases members : readMembers room fuel (c :: y) <;> simp [brace, members]

theorem readItems_error {fault : Fault} (read : readValue room fuel s = .error fault) :
    readItems room (fuel + 1) s = .error fault := by
  simp [readItems, read, bind, Except.bind]

theorem readMembers_error {k : String} {fault : Fault}
    (read : readValue room fuel s = .error fault) :
    readMembers room (fuel + 1) (writeString k (':' :: s)) = .error fault := by
  simp [readMembers, writeString, readString_writeChars, read, bind, Except.bind, skipSpace,
    isSpace]

end

theorem begins_writeString (k : String) (s : List Char) : Begins (writeString k s) :=
  ⟨_, _, rfl, by decide, by decide, by decide⟩

/-! Objects. -/

instance {α : Type} (t : Table α) : Decidable t.Sorted :=
  inferInstanceAs (Decidable (t.keys.Pairwise (· < ·)))

mutual

def decideOrdered : (v : Json) → Decidable (Ordered v)
  | .null | .bool _ | .int _ | .float _ | .str _ => inferInstanceAs (Decidable True)
  | .arr vs => decideOrderedItems vs
  | .obj ms =>
    have := decideOrderedMembers ms
    inferInstanceAs (Decidable (Table.Sorted ms ∧ OrderedMembers ms))

def decideOrderedItems : (vs : List Json) → Decidable (OrderedItems vs)
  | [] => inferInstanceAs (Decidable True)
  | v :: vs =>
    have := decideOrdered v
    have := decideOrderedItems vs
    inferInstanceAs (Decidable (Ordered v ∧ OrderedItems vs))

def decideOrderedMembers : (ms : List (String × Json)) → Decidable (OrderedMembers ms)
  | [] => inferInstanceAs (Decidable True)
  | (_, v) :: ms =>
    have := decideOrdered v
    have := decideOrderedMembers ms
    inferInstanceAs (Decidable (Ordered v ∧ OrderedMembers ms))

end

instance : DecidablePred Ordered := decideOrdered

theorem insert_of_above {k : String} {v : Json} {t : Table Json} (above : ∀ j ∈ t.keys, j < k) :
    Table.insert k v t = t ++ [(k, v)] := by
  induction t with
  | nil => rfl
  | cons p t ih =>
    obtain ⟨j, u⟩ := p
    have lt : j < k := above j List.mem_cons_self
    rw [Table.insert, if_neg lt.asymm, if_neg lt.ne',
      ih fun i mem => above i (List.mem_cons_of_mem j mem)]
    rfl

theorem ofList_of_sorted {ms : Table Json} (sorted : Table.Sorted ms) : Table.ofList ms = ms := by
  have go (ms seen : Table Json) (sorted : Table.Sorted (seen ++ ms)) :
      ms.foldl (fun t (k, v) => Table.insert k v t) seen = seen ++ ms := by
    induction ms generalizing seen with
    | nil => simp
    | cons p ms ih =>
      obtain ⟨k, v⟩ := p
      have above : ∀ j ∈ Table.keys seen, j < k := by
        intro j mem
        unfold Table.Sorted Table.keys at sorted
        rw [List.map_append, List.pairwise_append] at sorted
        exact sorted.2.2 j mem k List.mem_cons_self
      rw [List.foldl_cons]
      dsimp only
      rw [insert_of_above above, ih]
      · simp
      · simpa using sorted
  exact go ms [] sorted

/-! Whole values. -/

mutual

def floats : Json → List Binary64
  | .float x => [x]
  | .arr items => floatsItems items
  | .obj members => floatsMembers members
  | _ => []

def floatsItems : List Json → List Binary64
  | [] => []
  | v :: vs => floats v ++ floatsItems vs

def floatsMembers : List (String × Json) → List Binary64
  | [] => []
  | (_, v) :: ms => floats v ++ floatsMembers ms

end

/-- A number whose text is read as the same number, whatever stands behind it. -/
def ReadsBack (x : Binary64) : Prop :=
  ∀ rest, Stops rest → readNumber (x.write ++ rest) = .ok (.float x, rest)

mutual

theorem readValue_write : ∀ (v : Json) {room fuel : Nat} {rest : List Char}, Ordered v →
    (∀ x ∈ floats v, ReadsBack x) → depth v ≤ room → Stops rest →
    2 * (write v rest).length < fuel → readValue room fuel (write v rest) = .ok (v, rest)
  | v, room, 0, rest, _, _, _, _, enough => absurd enough (Nat.not_lt_zero _)
  | .null, room, fuel + 1, rest, _, _, _, _, _ => by
    simp [write, readValue, skipSpace, isSpace, readKeyword]
  | .bool true, room, fuel + 1, rest, _, _, _, _, _ => by
    simp [write, readValue, skipSpace, isSpace, readKeyword]
  | .bool false, room, fuel + 1, rest, _, _, _, _, _ => by
    simp [write, readValue, skipSpace, isSpace, readKeyword]
  | .int n, room, fuel + 1, rest, _, _, _, stops, _ => by
    rw [write, ← Literal.ofInteger_text, readValue_number, Literal.ofInteger_text]
    exact readNumber_writeInt n stops
  | .float x, room, fuel + 1, rest, _, back, _, stops, _ => by
    obtain ⟨l, -, -, -, text⟩ := x.exists_literal
    rw [write, text, readValue_number, ← text]
    exact back x List.mem_cons_self rest stops
  | .str s, room, fuel + 1, rest, _, _, _, _, _ => readValue_string s
  | .arr [], room, fuel + 1, rest, _, _, deep, _, _ => by
    obtain ⟨room, rfl⟩ := Nat.exists_eq_succ_of_ne_zero (Nat.ne_of_gt deep)
    simp [write, readValue, skipSpace, isSpace]
  | .arr (v :: vs), room, fuel + 1, rest, ordered, back, deep, _, enough => by
    obtain ⟨room, rfl⟩ := Nat.exists_eq_succ_of_ne_zero (Nat.ne_of_gt (Nat.lt_of_lt_of_le
      (Nat.succ_pos _) deep))
    simp only [write, List.length_cons] at enough ⊢
    rw [readValue_list (begins_write v _).skipSpace (begins_write v _),
      readItems_write v vs ordered back (Nat.le_of_succ_le_succ deep) (by omega)]
    rfl
  | .obj [], room, fuel + 1, rest, _, _, deep, _, _ => by
    obtain ⟨room, rfl⟩ := Nat.exists_eq_succ_of_ne_zero (Nat.ne_of_gt deep)
    simp [write, readValue, skipSpace, isSpace]
  | .obj ((k, v) :: ms), room, fuel + 1, rest, ordered, back, deep, _, enough => by
    obtain ⟨room, rfl⟩ := Nat.exists_eq_succ_of_ne_zero (Nat.ne_of_gt (Nat.lt_of_lt_of_le
      (Nat.succ_pos _) deep))
    simp only [write, List.length_cons] at enough ⊢
    rw [readValue_object (begins_writeString k _).skipSpace (begins_writeString k _),
      readMembers_write k v ms ordered.2 back (Nat.le_of_succ_le_succ deep) (by omega)]
    simp only [Except.map, ofList_of_sorted ordered.1]

theorem readItems_write : ∀ (v : Json) (vs : List Json) {room fuel : Nat} {rest : List Char},
    OrderedItems (v :: vs) → (∀ x ∈ floatsItems (v :: vs), ReadsBack x) →
    depthItems (v :: vs) ≤ room →
    2 * (write v (writeItems vs rest)).length + 1 < fuel →
    readItems room fuel (write v (writeItems vs rest)) = .ok (v :: vs, rest)
  | v, vs, room, 0, rest, _, _, _, enough => absurd enough (Nat.not_lt_zero _)
  | v, [], room, fuel + 1, rest, ordered, back, deep, enough => by
    refine readItems_last
      (readValue_write v ordered.1 ?_ ?_ (stops_writeItems [] rest) (by omega)) rfl
    · exact fun x mem => back x (List.mem_append_left _ mem)
    · exact Nat.le_trans (Nat.le_max_left _ _) deep
  | v, w :: ws, room, fuel + 1, rest, ordered, back, deep, enough => by
    have shorter := length_write v (writeItems (w :: ws) rest)
    simp only [writeItems, List.length_cons] at shorter enough
    have read : readValue room fuel (write v (writeItems (w :: ws) rest)) =
        .ok (v, writeItems (w :: ws) rest) :=
      readValue_write v ordered.1 (fun x mem => back x (List.mem_append_left _ mem))
        (Nat.le_trans (Nat.le_max_left _ _) deep) (stops_writeItems (w :: ws) rest)
        (by simp only [writeItems]; omega)
    have items : readItems room fuel (write w (writeItems ws rest)) = .ok (w :: ws, rest) :=
      readItems_write w ws ordered.2 (fun x mem => back x (List.mem_append_right _ mem))
        (Nat.le_trans (Nat.le_max_right _ _) deep) (by omega)
    rw [readItems_comma read rfl (begins_write w _).skipSpace (begins_write w _), items]
    rfl

theorem readMembers_write : ∀ (k : String) (v : Json) (ms : List (String × Json))
    {room fuel : Nat} {rest : List Char},
    OrderedMembers ((k, v) :: ms) → (∀ x ∈ floatsMembers ((k, v) :: ms), ReadsBack x) →
    depthMembers ((k, v) :: ms) ≤ room →
    2 * (writeString k (':' :: write v (writeMembers ms rest))).length + 1 < fuel →
    readMembers room fuel (writeString k (':' :: write v (writeMembers ms rest))) =
      .ok ((k, v) :: ms, rest)
  | k, v, ms, room, 0, rest, _, _, _, enough => absurd enough (Nat.not_lt_zero _)
  | k, v, [], room, fuel + 1, rest, ordered, back, deep, enough => by
    have chars := length_writeChars k.toList (':' :: write v (writeMembers [] rest))
    simp only [writeString, List.length_cons] at chars enough
    refine readMembers_last (readString_writeChars k _) rfl
      (readValue_write v ordered.1 ?_ ?_ (stops_writeMembers [] rest) (by omega)) rfl
    · exact fun x mem => back x (List.mem_append_left _ mem)
    · exact Nat.le_trans (Nat.le_max_left _ _) deep
  | k, v, (j, w) :: ws, room, fuel + 1, rest, ordered, back, deep, enough => by
    have chars := length_writeChars k.toList (':' :: write v (writeMembers ((j, w) :: ws) rest))
    have shorter := length_write v (writeMembers ((j, w) :: ws) rest)
    have read : readValue room fuel (write v (writeMembers ((j, w) :: ws) rest)) =
        .ok (v, writeMembers ((j, w) :: ws) rest) :=
      readValue_write v ordered.1 (fun x mem => back x (List.mem_append_left _ mem))
        (Nat.le_trans (Nat.le_max_left _ _) deep) (stops_writeMembers ((j, w) :: ws) rest)
        (by simp only [writeString, List.length_cons] at chars enough; omega)
    have members : readMembers room fuel (writeString j (':' :: write w (writeMembers ws rest))) =
        .ok ((j, w) :: ws, rest) := by
      simp only [writeString, writeMembers, List.length_cons] at chars shorter enough
      refine readMembers_write j w ws ordered.2 (fun x mem => back x (List.mem_append_right _ mem))
        (Nat.le_trans (Nat.le_max_right _ _) deep) ?_
      simp only [writeString, List.length_cons]
      omega
    rw [writeString, readMembers_comma (readString_writeChars k _) rfl read rfl
      (begins_writeString j _).skipSpace (begins_writeString j _), members]
    rfl

end

theorem bind_eq_ok {ε α β : Type} {x : Except ε α} {f : α → Except ε β} {b : β} :
    x >>= f = .ok b ↔ ∃ a, x = .ok a ∧ f a = .ok b := by
  cases x with
  | error e => simp [bind, Except.bind]
  | ok a => simp [bind, Except.bind]

theorem exists_of_map_eq_ok {ε α β : Type} {f : α → β} {x : Except ε α} {b : β}
    (mapped : x.map f = .ok b) : ∃ a, x = .ok a ∧ f a = b := by
  cases x with
  | error e => cases mapped
  | ok a =>
    cases mapped
    exact ⟨a, rfl, rfl⟩

/-! A text is either read to its end or not at all, and a value that is nested too deep is not read.
Which numbers come out has no part in that. -/

mutual

theorem rest_of_readValue : ∀ (v : Json) {room fuel : Nat} {rest : List Char} {u : Json}
    {r : List Char}, Stops rest → readValue room fuel (write v rest) = .ok (u, r) →
    r = rest ∧ depth v ≤ room
  | v, room, 0, rest, u, r, _, read => by cases read
  | .null, room, fuel + 1, rest, u, r, _, read => by
    simp [write, readValue, skipSpace, isSpace, readKeyword] at read
    exact ⟨read.2.symm, Nat.zero_le _⟩
  | .bool true, room, fuel + 1, rest, u, r, _, read => by
    simp [write, readValue, skipSpace, isSpace, readKeyword] at read
    exact ⟨read.2.symm, Nat.zero_le _⟩
  | .bool false, room, fuel + 1, rest, u, r, _, read => by
    simp [write, readValue, skipSpace, isSpace, readKeyword] at read
    exact ⟨read.2.symm, Nat.zero_le _⟩
  | .int n, room, fuel + 1, rest, u, r, stops, read => by
    rw [write, ← Literal.ofInteger_text, readValue_number, Literal.ofInteger_text,
      readNumber_writeInt n stops] at read
    cases read
    exact ⟨rfl, Nat.zero_le _⟩
  | .float x, room, fuel + 1, rest, u, r, stops, read => by
    obtain ⟨l, marked, -, -, text⟩ := x.exists_literal
    rw [write, text, readValue_number] at read
    exact ⟨((l.readNumber_leads marked stops).rest_eq read).2, Nat.zero_le _⟩
  | .str s, room, fuel + 1, rest, u, r, _, read => by
    have whole : readValue room (fuel + 1) (write (.str s) rest) = .ok (.str s, rest) :=
      readValue_string s
    rw [whole] at read
    cases read
    exact ⟨rfl, Nat.zero_le _⟩
  | .arr vs, 0, fuel + 1, rest, u, r, _, read => by
    obtain ⟨c, s, text, opens⟩ := write_head (.arr vs) rest
    obtain ⟨fault, full⟩ := readValue_full c (.inl opens)
    rw [text, full] at read
    cases read
  | .obj ms, 0, fuel + 1, rest, u, r, _, read => by
    obtain ⟨c, s, text, opens⟩ := write_head (.obj ms) rest
    obtain ⟨fault, full⟩ := readValue_full c (.inr opens)
    rw [text, full] at read
    cases read
  | .arr [], room + 1, fuel + 1, rest, u, r, _, read => by
    simp [write, readValue, skipSpace, isSpace] at read
    exact ⟨read.2.symm, Nat.le_add_left _ _⟩
  | .arr (v :: vs), room + 1, fuel + 1, rest, u, r, _, read => by
    rw [write, readValue_list (begins_write v _).skipSpace (begins_write v _)] at read
    obtain ⟨p, items, same⟩ := exists_of_map_eq_ok read
    cases same
    obtain ⟨rests, deep⟩ := rest_of_readItems v vs items
    exact ⟨rests, Nat.succ_le_succ deep⟩
  | .obj [], room + 1, fuel + 1, rest, u, r, _, read => by
    simp [write, readValue, skipSpace, isSpace] at read
    exact ⟨read.2.symm, Nat.le_add_left _ _⟩
  | .obj ((k, v) :: ms), room + 1, fuel + 1, rest, u, r, _, read => by
    rw [write, readValue_object (begins_writeString k _).skipSpace (begins_writeString k _)] at read
    obtain ⟨p, members, same⟩ := exists_of_map_eq_ok read
    cases same
    obtain ⟨rests, deep⟩ := rest_of_readMembers k v ms members
    exact ⟨rests, Nat.succ_le_succ deep⟩

theorem rest_of_readItems : ∀ (v : Json) (vs : List Json) {room fuel : Nat} {rest : List Char}
    {us : List Json} {r : List Char},
    readItems room fuel (write v (writeItems vs rest)) = .ok (us, r) →
    r = rest ∧ depthItems (v :: vs) ≤ room
  | v, vs, room, 0, rest, us, r, read => by cases read
  | v, vs, room, fuel + 1, rest, us, r, read => by
    cases value : readValue room fuel (write v (writeItems vs rest)) with
    | error fault =>
      rw [readItems_error value] at read
      cases read
    | ok p =>
      obtain ⟨u, s⟩ := p
      obtain ⟨rfl, deep⟩ := rest_of_readValue v (stops_writeItems vs rest) value
      match vs with
      | [] =>
        rw [readItems_last value rfl] at read
        cases read
        exact ⟨rfl, Nat.max_le.2 ⟨deep, Nat.zero_le _⟩⟩
      | w :: ws =>
        rw [readItems_comma value rfl (begins_write w _).skipSpace (begins_write w _)] at read
        obtain ⟨p, items, same⟩ := exists_of_map_eq_ok read
        cases same
        obtain ⟨rests, deeper⟩ := rest_of_readItems w ws items
        exact ⟨rests, Nat.max_le.2 ⟨deep, deeper⟩⟩

theorem rest_of_readMembers : ∀ (k : String) (v : Json) (ms : List (String × Json))
    {room fuel : Nat} {rest : List Char} {us : List (String × Json)} {r : List Char},
    readMembers room fuel (writeString k (':' :: write v (writeMembers ms rest))) = .ok (us, r) →
    r = rest ∧ depthMembers ((k, v) :: ms) ≤ room
  | k, v, ms, room, 0, rest, us, r, read => by cases read
  | k, v, ms, room, fuel + 1, rest, us, r, read => by
    cases value : readValue room fuel (write v (writeMembers ms rest)) with
    | error fault =>
      rw [readMembers_error value] at read
      cases read
    | ok p =>
      obtain ⟨u, s⟩ := p
      obtain ⟨rfl, deep⟩ := rest_of_readValue v (stops_writeMembers ms rest) value
      match ms with
      | [] =>
        rw [writeString, readMembers_last (readString_writeChars k _) rfl value rfl] at read
        cases read
        exact ⟨rfl, Nat.max_le.2 ⟨deep, Nat.zero_le _⟩⟩
      | (j, w) :: ws =>
        rw [writeString, readMembers_comma (readString_writeChars k _) rfl value rfl
          (begins_writeString j _).skipSpace (begins_writeString j _)] at read
        obtain ⟨p, members, same⟩ := exists_of_map_eq_ok read
        cases same
        obtain ⟨rests, deeper⟩ := rest_of_readMembers j w ws members
        exact ⟨rests, Nat.max_le.2 ⟨deep, deeper⟩⟩

end

/-! Whole texts. -/

theorem readAll_write {v : Json} (ordered : Ordered v) (back : ∀ x ∈ floats v, ReadsBack x)
    (deep : depth v ≤ maxDepth) : readAll (write v []) = .ok v := by
  have read := readValue_write v ordered back deep stops_nil
    (Nat.lt_add_of_pos_right (Nat.zero_lt_succ 1))
  simp only [readAll, read, bind, Except.bind]
  rfl

/-- A value that is nested too deep has a text that is not read. -/
theorem readAll_write_deep {v : Json} (deep : maxDepth < depth v) :
    ∃ fault, readAll (write v []) = .error fault := by
  cases read : readValue maxDepth (2 * (write v []).length + 2) (write v []) with
  | error fault => exact ⟨fault, by simp [readAll, read, bind, Except.bind]⟩
  | ok p =>
    have within := (rest_of_readValue v stops_nil read).2
    omega

def legible (x : Binary64) : Bool :=
  match readAll (write (.float x) []) with
  | .ok (.float y) => y = x
  | _ => false

theorem legible_iff {x : Binary64} :
    legible x = true ↔ parse (compact (.float x)) = .ok (.float x) := by
  unfold legible parse compact
  rw [String.toList_ofList]
  cases readAll (write (.float x) []) with
  | error fault => simp
  | ok v => cases v <;> simp

instance (x : Binary64) : Decidable (parse (compact (.float x)) = .ok (.float x)) :=
  decidable_of_iff _ legible_iff

theorem readsBack_of_parse {x : Binary64} (read : parse (compact (.float x)) = .ok (.float x)) :
    ReadsBack x := by
  obtain ⟨l, marked, -, -, text⟩ := x.exists_literal
  have alone := l.readNumber_leads marked stops_nil
  have value : l.value?.map Json.float = some (.float x) := by
    cases number : readNumber (l.text []) with
    | error fault =>
      simp [parse, compact, readAll, write, text, readValue_number, number, bind,
        Except.bind] at read
    | ok p =>
      obtain ⟨v, r⟩ := p
      obtain ⟨value, rfl⟩ := alone.rest_eq number
      simp [parse, compact, readAll, write, text, readValue_number, number, bind, Except.bind,
        skipSpace] at read
      rw [value, read]
  intro rest stops
  have leads := l.readNumber_leads marked stops
  rw [value, ← text] at leads
  exact leads

/-! Texts of different values differ, also in what stands behind them. -/

/-- The values whose texts can begin like the text of a value. -/
def Kin : Json → Json → Prop
  | .null, w => w = .null
  | .bool b, w => w = .bool b
  | .int _, w => (∃ n, w = .int n) ∨ ∃ x, w = .float x
  | .float _, w => (∃ n, w = .int n) ∨ ∃ x, w = .float x
  | .str _, w => ∃ t, w = .str t
  | .arr _, w => ∃ ws, w = .arr ws
  | .obj _, w => ∃ ms, w = .obj ms

theorem Opens.kin {v w : Json} {c : Char} (left : Opens v c) (right : Opens w c) : Kin v w := by
  have digit {d : Char} (other : isDigit d = false) (ne : d ≠ '-')
      (number : d = '-' ∨ isDigit d = true) : False := by
    obtain minus | digit := number
    · exact ne minus
    · exact ne_of_isDigit digit other rfl
  have n := digit (by decide : isDigit 'n' = false) (by decide)
  have t := digit (by decide : isDigit 't' = false) (by decide)
  have f := digit (by decide : isDigit 'f' = false) (by decide)
  have quote := digit (by decide : isDigit '"' = false) (by decide)
  have bracket := digit (by decide : isDigit '[' = false) (by decide)
  have brace := digit (by decide : isDigit '{' = false) (by decide)
  cases v with
  | bool a => cases w with
    | bool b => cases a <;> cases b <;> simp_all [Opens, Kin]
    | _ => cases a <;> simp_all [Opens, Kin]
  | _ => cases w with
    | bool b => cases b <;> simp_all [Opens, Kin]
    | _ => simp_all [Opens, Kin]

theorem kin_of_write {v w : Json} {r s : List Char} (same : write v r = write w s) : Kin v w := by
  obtain ⟨c, t, left, opens⟩ := write_head v r
  obtain ⟨d, u, right, begins⟩ := write_head w s
  rw [left, right] at same
  cases same
  exact opens.kin begins

theorem write_float_ne_writeInt (x : Binary64) (n : Int) {r s : List Char} (hr : Stops r)
    (hs : Stops s) : x.write ++ r ≠ writeInt n s := by
  intro same
  obtain ⟨l, marked, -, -, text⟩ := x.exists_literal
  rw [text, ← Literal.ofInteger_text] at same
  obtain ⟨rfl, -⟩ := Literal.text_inj hr hs same
  exact marked.elim (fun fraction => fraction rfl) (fun exponent => exponent rfl)

theorem writeInt_inj {n m : Int} {r s : List Char} (hr : Stops r) (hs : Stops s)
    (same : writeInt n r = writeInt m s) : n = m ∧ r = s := by
  rw [← Literal.ofInteger_text, ← Literal.ofInteger_text] at same
  obtain ⟨texts, rests⟩ := Literal.text_inj hr hs same
  exact ⟨Literal.ofInteger_inj texts, rests⟩

theorem close_ne_write {c : Char} (close : c = ']' ∨ c = '}') (v : Json) (r s : List Char) :
    c :: r ≠ write v s := by
  intro same
  obtain ⟨d, t, text, -, bracket, brace⟩ := begins_write v s
  rw [text] at same
  cases same
  exact close.elim bracket brace

mutual

theorem write_inj : ∀ (v w : Json) {r s : List Char}, Stops r → Stops s →
    write v r = write w s → v = w ∧ r = s
  | .null, w, r, s, _, _, same => by
    obtain rfl : w = .null := kin_of_write same
    simpa [write] using same
  | .bool b, w, r, s, _, _, same => by
    obtain rfl : w = .bool b := kin_of_write same
    cases b <;> simpa [write] using same
  | .int n, w, r, s, hr, hs, same => by
    obtain ⟨m, rfl⟩ | ⟨x, rfl⟩ : (∃ m, w = .int m) ∨ ∃ x, w = .float x := kin_of_write same
    · obtain ⟨values, rests⟩ := writeInt_inj hr hs same
      cases n
      cases m
      cases values
      exact ⟨rfl, rests⟩
    · exact absurd same.symm (write_float_ne_writeInt x n.val hs hr)
  | .float x, w, r, s, hr, hs, same => by
    obtain ⟨m, rfl⟩ | ⟨y, rfl⟩ : (∃ m, w = .int m) ∨ ∃ y, w = .float y := kin_of_write same
    · exact absurd same (write_float_ne_writeInt x m.val hr hs)
    · obtain ⟨rfl, rests⟩ := Binary64.write_append_inj hr hs same
      exact ⟨rfl, rests⟩
  | .str k, w, r, s, _, _, same => by
    obtain ⟨j, rfl⟩ : ∃ j, w = .str j := kin_of_write same
    obtain ⟨rfl, rests⟩ := writeChars_inj (List.cons.inj same).2
    exact ⟨rfl, rests⟩
  | .arr vs, w, r, s, hr, hs, same => by
    obtain ⟨ws, rfl⟩ : ∃ ws, w = .arr ws := kin_of_write same
    match vs, ws with
    | [], [] => exact ⟨rfl, (List.cons.inj (List.cons.inj same).2).2⟩
    | [], w :: ws => exact absurd (List.cons.inj same).2 (close_ne_write (.inl rfl) w _ _)
    | v :: vs, [] => exact absurd (List.cons.inj same).2.symm (close_ne_write (.inl rfl) v _ _)
    | v :: vs, w :: ws =>
      obtain ⟨rfl, tails⟩ := write_inj v w (stops_writeItems vs r) (stops_writeItems ws s)
        (List.cons.inj same).2
      obtain ⟨rfl, rests⟩ := writeItems_inj vs ws tails
      exact ⟨rfl, rests⟩
  | .obj ms, w, r, s, hr, hs, same => by
    obtain ⟨ns, rfl⟩ : ∃ ns, w = .obj ns := kin_of_write same
    match ms, ns with
    | [], [] => exact ⟨rfl, (List.cons.inj (List.cons.inj same).2).2⟩
    | [], n :: ns => simp [write, writeString] at same
    | m :: ms, [] => simp [write, writeString] at same
    | (j, v) :: ms, (k, w) :: ns =>
      obtain ⟨rfl, values⟩ := writeChars_inj (List.cons.inj (List.cons.inj same).2).2
      obtain ⟨rfl, tails⟩ := write_inj v w (stops_writeMembers ms r) (stops_writeMembers ns s)
        (List.cons.inj values).2
      obtain ⟨rfl, rests⟩ := writeMembers_inj ms ns tails
      exact ⟨rfl, rests⟩

theorem writeItems_inj : ∀ (vs ws : List Json) {r s : List Char},
    writeItems vs r = writeItems ws s → vs = ws ∧ r = s
  | [], [], r, s, same => ⟨rfl, (List.cons.inj same).2⟩
  | [], w :: ws, r, s, same => by simp [writeItems] at same
  | v :: vs, [], r, s, same => by simp [writeItems] at same
  | v :: vs, w :: ws, r, s, same => by
    obtain ⟨rfl, tails⟩ := write_inj v w (stops_writeItems vs r) (stops_writeItems ws s)
      (List.cons.inj same).2
    obtain ⟨rfl, rests⟩ := writeItems_inj vs ws tails
    exact ⟨rfl, rests⟩

theorem writeMembers_inj : ∀ (ms ns : List (String × Json)) {r s : List Char},
    writeMembers ms r = writeMembers ns s → ms = ns ∧ r = s
  | [], [], r, s, same => ⟨rfl, (List.cons.inj same).2⟩
  | [], n :: ns, r, s, same => by simp [writeMembers] at same
  | m :: ms, [], r, s, same => by simp [writeMembers] at same
  | (j, v) :: ms, (k, w) :: ns, r, s, same => by
    obtain ⟨rfl, values⟩ := writeChars_inj (List.cons.inj (List.cons.inj same).2).2
    obtain ⟨rfl, tails⟩ := write_inj v w (stops_writeMembers ms r) (stops_writeMembers ns s)
      (List.cons.inj values).2
    obtain ⟨rfl, rests⟩ := writeMembers_inj ms ns tails
    exact ⟨rfl, rests⟩

end

instance : DecidableEq Json := fun v w =>
  decidable_of_iff (write v [] = write w [])
    ⟨fun same => (write_inj v w stops_nil stops_nil same).1, fun same => same ▸ rfl⟩

end Coalesce.Json
