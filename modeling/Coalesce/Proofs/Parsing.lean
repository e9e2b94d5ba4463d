import Coalesce.Proofs.Grammar
import Coalesce.Json.Listing

/-! Reading JSON texts finds the value that a text denotes, if there is one, and finds nothing
else. -/
namespace Coalesce.Json

/-! Strings. -/

section
variable {s r cs : List Char} {n fuel : Nat} {c : Char}

theorem readHex4_eq_ok : readHex4 s = .ok (n, r) ↔ Hex4 s n r := by
  constructor
  · intro read
    unfold readHex4 at read
    split at read
    · split at read
      · next first second third fourth =>
        cases read
        exact .digits first second third fourth r
      · cases read
    · split at read <;> cases read
  · rintro ⟨first, second, third, fourth⟩
    simp only [readHex4, first, second, third, fourth]

theorem isLowSurrogate_of_high (high : isHighSurrogate n = true) : isLowSurrogate n = false := by
  simp only [isHighSurrogate, isLowSurrogate, Bool.and_eq_true, Bool.and_eq_false_iff,
    decide_eq_true_eq, decide_eq_false_iff_not] at high ⊢
  omega

theorem escape_of_readUnicode (read : readUnicode s = .ok (c, r)) : Escape ('u' :: s) c r := by
  obtain ⟨⟨n, t⟩, hex, read⟩ := bind_eq_ok.1 read
  have hex := readHex4_eq_ok.1 hex
  dsimp only at read
  split at read
  · cases read
  · next low =>
    split at read
    · next high =>
      split at read
      · cases read
      · split at read
        · cases read
        · obtain ⟨⟨m, w⟩, second, read⟩ := bind_eq_ok.1 read
          dsimp only at read
          split at read
          · next trail =>
            obtain ⟨same, rfl⟩ := Prod.mk.inj (Except.ok.inj read)
            rw [← same]
            exact .pair hex (readHex4_eq_ok.1 second) high trail
          · cases read
        · cases read
      · cases read
    · next high =>
      cases read
      exact .unit hex (Bool.eq_false_iff.2 low) (Bool.eq_false_iff.2 high)

theorem readEscape_eq_ok : readEscape s = .ok (c, r) ↔ Escape s c r := by
  constructor
  · intro read
    unfold readEscape at read
    split at read
    any_goals
      cases read
      exact .letter (by decide) r
    · cases read
    · exact escape_of_readUnicode read
    · cases read
  · intro escape
    cases escape with
    | letter known =>
      simp only [letters, List.mem_cons, Prod.mk.injEq, List.not_mem_nil, or_false] at known
      obtain ⟨rfl, rfl⟩ | ⟨rfl, rfl⟩ | ⟨rfl, rfl⟩ | ⟨rfl, rfl⟩ | ⟨rfl, rfl⟩ | ⟨rfl, rfl⟩ |
        ⟨rfl, rfl⟩ | ⟨rfl, rfl⟩ := known <;> rfl
    | unit hex low high =>
      simp only [readEscape, readUnicode, readHex4_eq_ok.2 hex, bind, Except.bind, low, high,
        Bool.false_eq_true, if_false]
    | pair first second high low =>
      simp only [readEscape, readUnicode, readHex4_eq_ok.2 first, bind, Except.bind,
        isLowSurrogate_of_high high, high, readHex4_eq_ok.2 second, low, Bool.false_eq_true,
        if_false, if_true]

theorem spells_of_readChars (read : readChars fuel s = .ok (cs, r)) : Spells s cs r := by
  induction fuel generalizing s cs with
  | zero => cases read
  | succ fuel ih =>
    unfold readChars at read
    split at read
    · cases read
    · cases read
      exact .close r
    · obtain ⟨⟨c, t⟩, escape, read⟩ := bind_eq_ok.1 read
      obtain ⟨⟨ds, u⟩, tail, read⟩ := bind_eq_ok.1 read
      cases read
      exact .escape (readEscape_eq_ok.1 escape) (ih tail)
    · next quote backslash =>
      split at read
      · cases read
      · next control =>
        obtain ⟨⟨ds, u⟩, tail, read⟩ := bind_eq_ok.1 read
        cases read
        exact .plain quote backslash (Nat.le_of_not_lt control) (ih tail)

theorem Spells.readChars_eq (spells : Spells s cs r) (enough : s.length < fuel) :
    readChars fuel s = .ok (cs, r) := by
  induction spells generalizing fuel with
  | close =>
    obtain ⟨fuel, rfl⟩ := Nat.exists_eq_succ_of_ne_zero (Nat.ne_of_gt (Nat.zero_lt_of_lt enough))
    rfl
  | escape escape _ ih =>
    obtain ⟨fuel, rfl⟩ := Nat.exists_eq_succ_of_ne_zero (Nat.ne_of_gt (Nat.zero_lt_of_lt enough))
    have shorter := escape.length_lt
    rw [List.length_cons] at enough
    rw [readChars_escape (readEscape_eq_ok.2 escape), ih (by omega)]
    rfl
  | plain quote backslash control _ ih =>
    obtain ⟨fuel, rfl⟩ := Nat.exists_eq_succ_of_ne_zero (Nat.ne_of_gt (Nat.zero_lt_of_lt enough))
    have tail := ih (Nat.lt_of_succ_lt_succ enough)
    simp [readChars, Nat.not_lt.2 control, tail, bind, Except.bind]

theorem readString_eq_ok {k : String} : readString s = .ok (k, r) ↔ Spells s k.toList r := by
  constructor
  · intro read
    obtain ⟨⟨cs, t⟩, chars, read⟩ := bind_eq_ok.1 read
    cases read
    rw [String.toList_ofList]
    exact spells_of_readChars chars
  · intro spells
    have chars := spells.readChars_eq (Nat.lt_succ_self s.length)
    simp only [readString, chars, bind, Except.bind, String.ofList_toList]

end

/-! What is in the grammar is read. -/

section
variable {room fuel : Nat} {v : Json} {s t rest : List Char}

theorem readValue_blanks {p : Json × List Char} (blanks : Blanks s t)
    (read : readValue room fuel t = .ok p) : readValue room fuel s = .ok p := by
  cases fuel with
  | zero => cases read
  | succ fuel =>
    rw [← read]
    unfold readValue
    rw [blanks.skipSpace_eq]

theorem readValue_emptyList (inner : skipSpace s = ']' :: rest) :
    readValue (room + 1) (fuel + 1) ('[' :: s) = .ok (.arr [], rest) := by
  have outer : skipSpace ('[' :: s) = '[' :: s := rfl
  simp only [readValue, outer, inner]

theorem readValue_emptyObject (inner : skipSpace s = '}' :: rest) :
    readValue (room + 1) (fuel + 1) ('{' :: s) = .ok (.obj [], rest) := by
  have outer : skipSpace ('{' :: s) = '{' :: s := rfl
  simp only [readValue, outer, inner]

theorem Member.reads {k : String} (member : Member room s k v rest) (fuel : Nat)
    (value : ∀ x, Denotes room x v rest → x.length < s.length →
      readValue room fuel x = .ok (v, rest)) :
    ∃ t u w, skipSpace s = '"' :: t ∧ readString t = .ok (k, u) ∧ skipSpace u = ':' :: w ∧
      readValue room fuel w = .ok (v, rest) := by
  obtain ⟨blanks, key, colon, space, denotes⟩ := member
  have before := blanks.length_le
  have keys := key.length_lt
  have behind := colon.length_le
  have start := space.length_le
  rw [List.length_cons] at before behind
  exact ⟨_, _, _, blanks.skipSpace_cons rfl, readString_eq_ok.2 key, colon.skipSpace_cons rfl,
    readValue_blanks space (value _ denotes (by omega))⟩

theorem stops_close : Stops (']' :: rest) := stops_cons.2 (by decide)

theorem stops_brace : Stops ('}' :: rest) := stops_cons.2 (by decide)

theorem stops_comma : Stops (',' :: rest) := stops_cons.2 (by decide)

mutual

theorem Denotes.readValue_eq : ∀ {fuel room : Nat} {v : Json} {s rest : List Char},
    Denotes room s v rest → Stops rest → 2 * s.length < fuel →
    readValue room fuel s = .ok (v, rest)
  | 0, _, _, _, _, _, _, enough => absurd enough (Nat.not_lt_zero _)
  | fuel + 1, room, v, s, rest, denotes, stops, enough => by
    cases denotes with
    | null => simp [readValue, skipSpace, isSpace, readKeyword]
    | true => simp [readValue, skipSpace, isSpace, readKeyword]
    | false => simp [readValue, skipSpace, isSpace, readKeyword]
    | number _ heads value =>
      have read := heads.readNumber_eq stops value
      obtain ⟨c, t, rfl, opens⟩ := heads.exists_cons
      rw [readValue_opens opens, read]
    | string _ spells =>
      simp [readValue, skipSpace, isSpace, readString_eq_ok.2 spells, bind, Except.bind]
    | emptyList _ blanks => exact readValue_emptyList (blanks.skipSpace_cons rfl)
    | list items =>
      rw [List.length_cons] at enough
      rw [readValue_list rfl items.begins, items.readItems_eq (by omega)]
      rfl
    | emptyObject _ blanks => exact readValue_emptyObject (blanks.skipSpace_cons rfl)
    | object members =>
      rw [List.length_cons] at enough
      rw [readValue_object rfl members.begins, members.readMembers_eq (by omega)]
      rfl

theorem Items.readItems_eq : ∀ {fuel room : Nat} {vs : List Json} {s rest : List Char},
    Items room s vs rest → 2 * s.length + 1 < fuel →
    readItems room fuel (skipSpace s) = .ok (vs, rest)
  | 0, _, _, _, _, _, enough => absurd enough (Nat.not_lt_zero _)
  | fuel + 1, room, vs, s, rest, items, enough => by
    cases items with
    | last blanks value close =>
      have shorter := blanks.length_le
      have read : readValue room fuel _ = _ :=
        value.readValue_eq (close.stops stops_close) (by omega)
      rw [blanks.skipSpace_begins value.begins]
      exact readItems_last read (close.skipSpace_cons rfl)
    | comma blanks value comma tail =>
      have shorter := blanks.length_le
      have consumed := value.length_le
      have behind := comma.length_le
      rw [List.length_cons] at behind
      have read : readValue room fuel _ = _ :=
        value.readValue_eq (comma.stops stops_comma) (by omega)
      rw [blanks.skipSpace_begins value.begins,
        readItems_comma read (comma.skipSpace_cons rfl) rfl tail.begins,
        tail.readItems_eq (by omega)]
      rfl

theorem Members.readMembers_eq : ∀ {fuel room : Nat} {ms : List (String × Json)}
    {s rest : List Char}, Members room s ms rest → 2 * s.length + 1 < fuel →
    readMembers room fuel (skipSpace s) = .ok (ms, rest)
  | 0, _, _, _, _, _, enough => absurd enough (Nat.not_lt_zero _)
  | fuel + 1, room, ms, s, rest, members, enough => by
    cases members with
    | last member close =>
      obtain ⟨t, u, w, start, key, colon, read⟩ := member.reads fuel fun x value shorter =>
        value.readValue_eq (close.stops stops_brace) (by omega)
      rw [start]
      exact readMembers_last key colon read (close.skipSpace_cons rfl)
    | comma member comma tail =>
      have consumed := member.length_le
      have behind := comma.length_le
      rw [List.length_cons] at behind
      obtain ⟨t, u, w, start, key, colon, read⟩ := member.reads fuel fun x value shorter =>
        value.readValue_eq (comma.stops stops_comma) (by omega)
      rw [start, readMembers_comma key colon read (comma.skipSpace_cons rfl) rfl tail.begins,
        tail.readMembers_eq (by omega)]
      rfl

end

end

/-! What is read is in the grammar. -/

theorem readKeyword_eq_ok {value v : Json} {ks s r : List Char}
    (read : readKeyword value ks s = .ok (v, r)) : v = value ∧ s = ks ++ r := by
  induction ks generalizing s with
  | nil =>
    cases read
    exact ⟨rfl, rfl⟩
  | cons k ks ih =>
    cases s with
    | nil => cases read
    | cons c s =>
      unfold readKeyword at read
      split at read
      · next same =>
        obtain ⟨value, text⟩ := ih read
        exact ⟨value, by rw [same, text]; rfl⟩
      · cases read

mutual

theorem denotes_of_readValue : ∀ {fuel room : Nat} {s : List Char} {v : Json} {r : List Char},
    readValue room fuel s = .ok (v, r) → Denotes room (skipSpace s) v r
  | 0, _, _, _, _, read => by cases read
  | fuel + 1, room, s, v, r, read => by
    unfold readValue at read
    generalize skipSpace s = t at read ⊢
    split at read
    · cases read
    · obtain ⟨rfl, rfl⟩ := readKeyword_eq_ok read
      exact .null room r
    · obtain ⟨rfl, rfl⟩ := readKeyword_eq_ok read
      exact .true room r
    · obtain ⟨rfl, rfl⟩ := readKeyword_eq_ok read
      exact .false room r
    · obtain ⟨⟨k, u⟩, text, read⟩ := bind_eq_ok.1 read
      cases read
      exact .string room (readString_eq_ok.1 text)
    · split at read
      · cases read
      · split at read
        · cases read
        · next inner =>
          cases read
          exact .emptyList _ (.of_skipSpace inner)
        · obtain ⟨⟨vs, u⟩, items, read⟩ := bind_eq_ok.1 read
          cases read
          exact .list ((items_of_readItems items).of_blanks (blanks_skipSpace _))
    · split at read
      · cases read
      · split at read
        · cases read
        · next inner =>
          cases read
          exact .emptyObject _ (.of_skipSpace inner)
        · obtain ⟨⟨ms, u⟩, members, read⟩ := bind_eq_ok.1 read
          cases read
          exact .object ((members_of_readMembers members).of_blanks (blanks_skipSpace _))
    · split at read
      · obtain ⟨l, heads, value⟩ := heads_of_readNumber read
        exact .number room heads value
      · cases read

theorem items_of_readItems : ∀ {fuel room : Nat} {s : List Char} {vs : List Json} {r : List Char},
    readItems room fuel s = .ok (vs, r) → Items room s vs r
  | 0, _, _, _, _, read => by cases read
  | fuel + 1, room, s, vs, r, read => by
    unfold readItems at read
    obtain ⟨⟨v, u⟩, value, read⟩ := bind_eq_ok.1 read
    have value := denotes_of_readValue value
    dsimp only at read
    split at read
    · cases read
    · next close =>
      cases read
      exact .last (blanks_skipSpace s) value (.of_skipSpace close)
    · next comma =>
      split at read
      · cases read
      · obtain ⟨⟨ws, w⟩, tail, read⟩ := bind_eq_ok.1 read
        cases read
        exact .comma (blanks_skipSpace s) value (.of_skipSpace comma)
          ((items_of_readItems tail).of_blanks (blanks_skipSpace _))
    · cases read

theorem members_of_readMembers : ∀ {fuel room : Nat} {s : List Char} {ms : List (String × Json)}
    {r : List Char}, readMembers room fuel s = .ok (ms, r) → Members room s ms r
  | 0, _, _, _, _, read => by cases read
  | fuel + 1, room, s, ms, r, read => by
    unfold readMembers at read
    split at read
    · cases read
    · obtain ⟨⟨k, t⟩, key, read⟩ := bind_eq_ok.1 read
      have key := readString_eq_ok.1 key
      dsimp only at read
      split at read
      · cases read
      · next colon =>
        obtain ⟨⟨v, u⟩, value, read⟩ := bind_eq_ok.1 read
        have member : Member room _ k v u := .colon (.nil _) key (.of_skipSpace colon)
          (blanks_skipSpace _) (denotes_of_readValue value)
        dsimp only at read
        split at read
        · cases read
        · next close =>
          cases read
          exact .last member (.of_skipSpace close)
        · next comma =>
          split at read
          · cases read
          · obtain ⟨⟨ns, w⟩, tail, read⟩ := bind_eq_ok.1 read
            cases read
            exact .comma member (.of_skipSpace comma)
              ((members_of_readMembers tail).of_blanks (blanks_skipSpace _))
        · cases read
      · cases read
    · cases read

end

/-! Whole texts. -/

section
variable {s : List Char} {v : Json}

/-- A text is read as a value just if it is a text of it. -/
theorem readAll_eq_ok : readAll s = .ok v ↔ Document s v := by
  constructor
  · intro read
    obtain ⟨⟨u, rest⟩, value, read⟩ := bind_eq_ok.1 read
    dsimp only at read
    split at read
    · next behind =>
      cases read
      exact ⟨_, rest, blanks_skipSpace s, denotes_of_readValue value, .of_skipSpace behind⟩
    · cases read
  · rintro ⟨t, rest, blanks, denotes, behind⟩
    have shorter := blanks.length_le
    have value : readValue maxDepth (2 * s.length + 2) s = _ :=
      readValue_blanks blanks (denotes.readValue_eq (behind.stops stops_nil) (by omega))
    simp only [readAll, value, bind, Except.bind, behind.skipSpace_nil]

/-- A text denotes one value at most. -/
theorem Document.unique {w : Json} (left : Document s v) (right : Document s w) : v = w := by
  have read := readAll_eq_ok.2 left
  rw [readAll_eq_ok.2 right] at read
  exact (Except.ok.inj read).symm

theorem Denotes.ne_brace {room : Nat} {vs : List Json} {rest : List Char}
    (denotes : Denotes room ('{' :: s) (.arr vs) rest) : False := by
  cases denotes with
  | number _ heads =>
    obtain ⟨c, t, text, opens⟩ := heads.exists_cons
    cases text
    obtain minus | digit := opens
    · cases minus
    · cases digit

theorem readList_eq_ok {vs : List Json} : readList s = .ok vs ↔ readAll s = .ok (.arr vs) := by
  unfold readList
  split
  · next brace =>
    refine ⟨nofun, fun read => ?_⟩
    obtain ⟨⟨u, rest⟩, value, read⟩ := bind_eq_ok.1 read
    have denotes := denotes_of_readValue value
    rw [brace] at denotes
    dsimp only at read
    split at read
    · cases read
      exact denotes.ne_brace.elim
    · cases read
  · unfold readAll
    split
    · next fault read => simp [read, bind, Except.bind]
    · next items rest read =>
      simp only [read, bind, Except.bind]
      cases skipSpace rest with
      | nil => simp
      | cons c t => simp [failInto]
    · next u rest other read =>
      simp only [read, bind, Except.bind]
      split
      · simpa using fun same => other vs same
      · simp [failInto]

end

/-- The value of a text has a text of its own, with the same value, as far as the texts of its
numbers are read as these numbers. -/
theorem Document.write {s : List Char} {v : Json} (document : Document s v)
    (numbers : ∀ x ∈ floats v, parse (compact (.float x)) = .ok (.float x)) :
    Document (write v []) v := by
  obtain ⟨t, rest, -, denotes, -⟩ := document
  obtain ⟨ordered, shallow⟩ := denotes.kept
  exact readAll_eq_ok.1
    (readAll_write ordered (fun x mem => readsBack_of_parse (numbers x mem)) shallow)

end Coalesce.Json
