import Coalesce.Proofs.Maps
import Coalesce.Proofs.RoundTrip

/-! The texts that are JSON. A relation between a text and what is left of it says what the text
begins with, and with which value. -/
namespace Coalesce.Json

inductive Blanks : List Char → List Char → Prop where
  | nil (s : List Char) : Blanks s s
  | cons {c : Char} {s t : List Char} (space : isSpace c = true) (tail : Blanks s t) :
      Blanks (c :: s) t

inductive Hex4 : List Char → Nat → List Char → Prop where
  | digits {a b c d : Char} {i j k l : Nat} (first : hexValue? a = some i)
      (second : hexValue? b = some j) (third : hexValue? c = some k)
      (fourth : hexValue? d = some l) (rest : List Char) :
      Hex4 (a :: b :: c :: d :: rest) (((i * 16 + j) * 16 + k) * 16 + l) rest

def letters : List (Char × Char) :=
  [('"', '"'), ('\\', '\\'), ('/', '/'), ('b', '\x08'), ('f', '\x0c'), ('n', '\n'), ('r', '\r'),
    ('t', '\t')]

/-- What may stand behind a backslash. A surrogate by itself is no character. -/
inductive Escape : List Char → Char → List Char → Prop where
  | letter {c d : Char} (known : (c, d) ∈ letters) (rest : List Char) : Escape (c :: rest) d rest
  | unit {n : Nat} {s rest : List Char} (hex : Hex4 s n rest) (low : isLowSurrogate n = false)
      (high : isHighSurrogate n = false) : Escape ('u' :: s) (Char.ofNat n) rest
  | pair {n m : Nat} {s t rest : List Char} (first : Hex4 s n ('\\' :: 'u' :: t))
      (second : Hex4 t m rest) (high : isHighSurrogate n = true) (low : isLowSurrogate m = true) :
      Escape ('u' :: s) (Char.ofNat (0x10000 + (n - 0xd800) * 0x400 + (m - 0xdc00))) rest

inductive Spells : List Char → List Char → List Char → Prop where
  | close (rest : List Char) : Spells ('"' :: rest) [] rest
  | escape {c : Char} {s t cs rest : List Char} (escape : Escape s c t) (tail : Spells t cs rest) :
      Spells ('\\' :: s) (c :: cs) rest
  | plain {c : Char} {s cs rest : List Char} (quote : c ≠ '"') (backslash : c ≠ '\\')
      (control : 0x20 ≤ c.toNat) (tail : Spells s cs rest) : Spells (c :: s) (c :: cs) rest

mutual

/-- A text that begins with a value in which at most `room` containers are open at once. -/
inductive Denotes : Nat → List Char → Json → List Char → Prop where
  | null (room : Nat) (rest : List Char) :
      Denotes room ('n' :: 'u' :: 'l' :: 'l' :: rest) .null rest
  | true (room : Nat) (rest : List Char) :
      Denotes room ('t' :: 'r' :: 'u' :: 'e' :: rest) (.bool true) rest
  | false (room : Nat) (rest : List Char) :
      Denotes room ('f' :: 'a' :: 'l' :: 's' :: 'e' :: rest) (.bool false) rest
  | number (room : Nat) {l : Literal} {v : Json} {s rest : List Char} (heads : l.Heads s rest)
      (value : l.number? = some v) : Denotes room s v rest
  | string (room : Nat) {k : String} {s rest : List Char} (spells : Spells s k.toList rest) :
      Denotes room ('"' :: s) (.str k) rest
  | emptyList (room : Nat) {s rest : List Char} (blanks : Blanks s (']' :: rest)) :
      Denotes (room + 1) ('[' :: s) (.arr []) rest
  | list {room : Nat} {vs : List Json} {s rest : List Char} (items : Items room s vs rest) :
      Denotes (room + 1) ('[' :: s) (.arr vs) rest
  | emptyObject (room : Nat) {s rest : List Char} (blanks : Blanks s ('}' :: rest)) :
      Denotes (room + 1) ('{' :: s) (.obj []) rest
  | object {room : Nat} {ms : List (String × Json)} {s rest : List Char}
      (members : Members room s ms rest) : Denotes (room + 1) ('{' :: s) (object ms) rest

inductive Items : Nat → List Char → List Json → List Char → Prop where
  | last {room : Nat} {v : Json} {s t u rest : List Char} (blanks : Blanks s t)
      (value : Denotes room t v u) (close : Blanks u (']' :: rest)) : Items room s [v] rest
  | comma {room : Nat} {v : Json} {vs : List Json} {s t u w rest : List Char} (blanks : Blanks s t)
      (value : Denotes room t v u) (comma : Blanks u (',' :: w)) (tail : Items room w vs rest) :
      Items room s (v :: vs) rest

inductive Members : Nat → List Char → List (String × Json) → List Char → Prop where
  | last {room : Nat} {k : String} {v : Json} {s t rest : List Char}
      (member : Member room s k v t) (close : Blanks t ('}' :: rest)) : Members room s [(k, v)] rest
  | comma {room : Nat} {k : String} {v : Json} {ms : List (String × Json)} {s t u rest : List Char}
      (member : Member room s k v t) (comma : Blanks t (',' :: u)) (tail : Members room u ms rest) :
      Members room s ((k, v) :: ms) rest

inductive Member : Nat → List Char → String → Json → List Char → Prop where
  | colon {room : Nat} {k : String} {v : Json} {s t u w x rest : List Char}
      (blanks : Blanks s ('"' :: t)) (key : Spells t k.toList u) (colon : Blanks u (':' :: w))
      (space : Blanks w x) (value : Denotes room x v rest) : Member room s k v rest

end

/-- A whole text: one value with nothing but blanks around it. -/
def Document (s : List Char) (v : Json) : Prop :=
  ∃ t rest, Blanks s t ∧ Denotes maxDepth t v rest ∧ Blanks rest []

/-! Blanks. -/

section
variable {s t u : List Char}

theorem blanks_skipSpace (s : List Char) : Blanks s (skipSpace s) := by
  induction s with
  | nil => exact .nil []
  | cons c s ih =>
    unfold skipSpace
    rw [List.dropWhile_cons]
    split
    · next space => exact .cons space ih
    · exact .nil _

theorem Blanks.of_skipSpace (skip : skipSpace s = t) : Blanks s t := skip ▸ blanks_skipSpace s

theorem Blanks.skipSpace_eq (blanks : Blanks s t) : skipSpace s = skipSpace t := by
  induction blanks with
  | nil => rfl
  | cons space _ ih =>
    rw [← ih]
    simp [skipSpace, space]

theorem Blanks.skipSpace_cons {c : Char} (blanks : Blanks s (c :: t)) (solid : isSpace c = false) :
    skipSpace s = c :: t := by
  rw [blanks.skipSpace_eq]
  simp [skipSpace, solid]

theorem Blanks.skipSpace_nil (blanks : Blanks s []) : skipSpace s = [] := blanks.skipSpace_eq

theorem Blanks.skipSpace_begins (blanks : Blanks s t) (begins : Begins t) : skipSpace s = t := by
  rw [blanks.skipSpace_eq, begins.skipSpace]

theorem Blanks.length_le (blanks : Blanks s t) : t.length ≤ s.length := by
  induction blanks with
  | nil => exact le_rfl
  | cons _ _ ih => exact Nat.le_succ_of_le ih

theorem stops_of_isSpace {c : Char} (space : isSpace c = true) (s : List Char) :
    Stops (c :: s) := by
  have blank : c = ' ' ∨ c = '\n' ∨ c = '\t' ∨ c = '\r' := by
    simpa [isSpace, or_assoc] using space
  obtain rfl | rfl | rfl | rfl := blank <;> exact stops_cons.2 (by decide)

theorem Blanks.stops (blanks : Blanks s t) (stops : Stops t) : Stops s := by
  cases blanks with
  | nil => exact stops
  | cons space => exact stops_of_isSpace space _

theorem Blanks.trans (first : Blanks s t) (second : Blanks t u) : Blanks s u := by
  induction first with
  | nil => exact second
  | cons space _ ih => exact .cons space (ih second)

theorem Items.of_blanks {room : Nat} {vs : List Json} (items : Items room t vs u)
    (blanks : Blanks s t) : Items room s vs u := by
  cases items with
  | last more value close => exact .last (blanks.trans more) value close
  | comma more value comma tail => exact .comma (blanks.trans more) value comma tail

theorem Members.of_blanks {room : Nat} {ms : List (String × Json)} (members : Members room t ms u)
    (blanks : Blanks s t) : Members room s ms u := by
  have before {k : String} {v : Json} {w : List Char} (member : Member room t k v w) :
      Member room s k v w := by
    obtain ⟨more, key, colon, space, value⟩ := member
    exact .colon (blanks.trans more) key colon space value
  cases members with
  | last member close => exact .last (before member) close
  | comma member comma tail => exact .comma (before member) comma tail

end

/-! How a text begins, and how much of it is left. -/

section
variable {s r cs : List Char} {c : Char}

theorem Escape.length_lt (escape : Escape s c r) : r.length < s.length := by
  cases escape with
  | letter => exact Nat.lt_succ_self _
  | unit hex =>
    cases hex
    simp only [List.length_cons]
    omega
  | pair first second =>
    cases second
    generalize opened : '\\' :: 'u' :: _ = t at first
    cases first
    simp only [← opened, List.length_cons]
    omega

theorem Spells.length_lt (spells : Spells s cs r) : r.length < s.length := by
  induction spells with
  | close => exact Nat.lt_succ_self _
  | escape escape _ ih => exact Nat.lt_succ_of_lt (ih.trans escape.length_lt)
  | plain _ _ _ _ ih => exact Nat.lt_succ_of_lt ih

end

section
variable {room : Nat} {v : Json} {vs : List Json} {ms : List (String × Json)} {s rest : List Char}

theorem Denotes.begins (denotes : Denotes room s v rest) : Begins s := by
  cases denotes with
  | number _ heads =>
    obtain ⟨c, t, rfl, opens⟩ := heads.exists_cons
    exact ⟨c, t, rfl, begins_number opens⟩
  | _ => exact ⟨_, _, rfl, by decide, by decide, by decide⟩

theorem Items.begins (items : Items room s vs rest) : Begins (skipSpace s) := by
  cases items with
  | last blanks value | comma blanks value =>
    rw [blanks.skipSpace_begins value.begins]
    exact value.begins

theorem Member.begins {k : String} (member : Member room s k v rest) : Begins (skipSpace s) := by
  cases member with
  | colon blanks =>
    rw [blanks.skipSpace_cons rfl]
    exact ⟨_, _, rfl, by decide, by decide, by decide⟩

theorem Members.begins (members : Members room s ms rest) : Begins (skipSpace s) := by
  cases members with
  | last member | comma member => exact member.begins

theorem Literal.Heads.length_le {l : Literal} (heads : l.Heads s rest) :
    rest.length ≤ s.length := by
  obtain ⟨tail, exponent, rfl⟩ := heads
  have behind : rest.length ≤ tail.length := by
    generalize l.exponent = e at exponent
    cases exponent with
    | none => exact le_rfl
    | some e marked =>
      simp only [List.length_cons, List.length_append]
      omega
  have fraction : tail.length ≤ (fractionText l.fraction tail).length := by
    unfold fractionText
    split
    · exact le_rfl
    · simp only [List.length_cons, List.length_append]
      omega
  split <;> simp only [List.length_cons, List.length_append] <;> omega

mutual

theorem Denotes.length_le : ∀ {room s v rest}, Denotes room s v rest → rest.length ≤ s.length
  | _, _, _, _, .null .. => by simp only [List.length_cons]; omega
  | _, _, _, _, .true .. => by simp only [List.length_cons]; omega
  | _, _, _, _, .false .. => by simp only [List.length_cons]; omega
  | _, _, _, _, .number _ heads _ => heads.length_le
  | _, _, _, _, .string _ spells => Nat.le_succ_of_le spells.length_lt.le
  | _, _, _, _, .emptyList _ blanks => Nat.le_succ_of_le (Nat.le_of_succ_le blanks.length_le)
  | _, _, _, _, .list items => Nat.le_succ_of_le items.length_le
  | _, _, _, _, .emptyObject _ blanks => Nat.le_succ_of_le (Nat.le_of_succ_le blanks.length_le)
  | _, _, _, _, .object members => Nat.le_succ_of_le members.length_le

theorem Items.length_le : ∀ {room s vs rest}, Items room s vs rest → rest.length ≤ s.length
  | _, _, _, _, .last blanks value close => by
    have inside := Nat.le_of_succ_le close.length_le
    exact inside.trans (value.length_le.trans blanks.length_le)
  | _, _, _, _, .comma blanks value comma tail => by
    have inside := Nat.le_of_succ_le comma.length_le
    exact tail.length_le.trans (inside.trans (value.length_le.trans blanks.length_le))

theorem Members.length_le : ∀ {room s ms rest}, Members room s ms rest → rest.length ≤ s.length
  | _, _, _, _, .last member close =>
    (Nat.le_of_succ_le close.length_le).trans member.length_le
  | _, _, _, _, .comma member comma tail =>
    tail.length_le.trans ((Nat.le_of_succ_le comma.length_le).trans member.length_le)

theorem Member.length_le : ∀ {room s k v rest}, Member room s k v rest → rest.length ≤ s.length
  | _, _, _, _, _, .colon blanks key colon space value => by
    have before := Nat.le_of_succ_le blanks.length_le
    have behind := Nat.le_of_succ_le colon.length_le
    exact value.length_le.trans (space.length_le.trans
      (behind.trans (key.length_lt.le.trans before)))

end

end

/-! What a text denotes can be written again. -/

theorem orderedMembers_iff {ms : List (String × Json)} :
    OrderedMembers ms ↔ ∀ p ∈ ms, Ordered p.2 := by
  induction ms with
  | nil => simp [OrderedMembers]
  | cons p ms ih => simp [OrderedMembers, ih]

theorem depthMembers_le_iff {n : Nat} {ms : List (String × Json)} :
    depthMembers ms ≤ n ↔ ∀ p ∈ ms, depth p.2 ≤ n := by
  induction ms with
  | nil => simp [depthMembers]
  | cons p ms ih => simp [depthMembers, ih]

theorem Literal.kind_of_number? {l : Literal} {v : Json} (value : l.number? = some v) :
    (∃ n, v = .int n) ∨ ∃ x, v = .float x := by
  have float {x : Option Binary64} (value : x.map Json.float = some v) : ∃ x, v = .float x := by
    obtain ⟨x, -, same⟩ := Option.map_eq_some_iff.1 value
    exact ⟨x, same.symm⟩
  unfold number? at value
  split at value
  · dsimp only at value
    split at value
    · cases value
      exact .inr ⟨_, rfl⟩
    · split at value
      · cases value
        exact .inl ⟨_, rfl⟩
      · exact .inr (float value)
  · exact .inr (float value)

mutual

theorem Denotes.kept : ∀ {room s v rest}, Denotes room s v rest → Ordered v ∧ depth v ≤ room
  | _, _, _, _, .null .. => ⟨trivial, Nat.zero_le _⟩
  | _, _, _, _, .true .. => ⟨trivial, Nat.zero_le _⟩
  | _, _, _, _, .false .. => ⟨trivial, Nat.zero_le _⟩
  | _, _, _, _, .number _ _ value => by
    obtain ⟨n, rfl⟩ | ⟨x, rfl⟩ := Literal.kind_of_number? value
    · exact ⟨trivial, Nat.zero_le _⟩
    · exact ⟨trivial, Nat.zero_le _⟩
  | _, _, _, _, .string .. => ⟨trivial, Nat.zero_le _⟩
  | _, _, _, _, .emptyList .. => ⟨trivial, Nat.le_add_left 1 _⟩
  | _, _, _, _, .list items => by
    obtain ⟨ordered, shallow⟩ := items.kept
    exact ⟨ordered, Nat.succ_le_succ shallow⟩
  | _, _, _, _, .emptyObject .. => ⟨⟨Table.sorted_nil, trivial⟩, Nat.le_add_left 1 _⟩
  | _, _, _, _, .object members => by
    obtain ⟨ordered, shallow⟩ := members.kept
    rw [orderedMembers_iff] at ordered
    rw [depthMembers_le_iff] at shallow
    refine ⟨⟨Table.sorted_ofList _, orderedMembers_iff.2 fun p mem => ?_⟩,
      Nat.succ_le_succ (depthMembers_le_iff.2 fun p mem => ?_)⟩
    · exact ordered p (Table.mem_of_mem_ofList mem)
    · exact shallow p (Table.mem_of_mem_ofList mem)

theorem Items.kept : ∀ {room s vs rest}, Items room s vs rest →
    OrderedItems vs ∧ depthItems vs ≤ room
  | _, _, _, _, .last _ value _ => by
    obtain ⟨ordered, shallow⟩ := value.kept
    exact ⟨⟨ordered, trivial⟩, Nat.max_le.2 ⟨shallow, Nat.zero_le _⟩⟩
  | _, _, _, _, .comma _ value _ tail => by
    obtain ⟨ordered, shallow⟩ := value.kept
    obtain ⟨others, deep⟩ := tail.kept
    exact ⟨⟨ordered, others⟩, Nat.max_le.2 ⟨shallow, deep⟩⟩

theorem Members.kept : ∀ {room s ms rest}, Members room s ms rest →
    OrderedMembers ms ∧ depthMembers ms ≤ room
  | _, _, _, _, .last member _ => by
    obtain ⟨ordered, shallow⟩ := member.kept
    exact ⟨⟨ordered, trivial⟩, Nat.max_le.2 ⟨shallow, Nat.zero_le _⟩⟩
  | _, _, _, _, .comma member _ tail => by
    obtain ⟨ordered, shallow⟩ := member.kept
    obtain ⟨others, deep⟩ := tail.kept
    exact ⟨⟨ordered, others⟩, Nat.max_le.2 ⟨shallow, deep⟩⟩

theorem Member.kept : ∀ {room s k v rest}, Member room s k v rest →
    Ordered v ∧ depth v ≤ room
  | _, _, _, _, _, .colon _ _ _ _ value => value.kept

end

end Coalesce.Json
