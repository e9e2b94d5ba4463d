import Mathlib.Data.List.TakeWhile
import Coalesce.Proofs.RoundTrip
import Coalesce.Identity

/-! Lock names. A task name holds no separator, so a lock name falls apart into the task and the
text of the arguments again. That text is read as the arguments it was made of, and it is the text
of no other arguments. -/
namespace Coalesce

namespace Json

def zeroSigns (xs : List Binary64) : List Bool :=
  (xs.filter fun x => x.rank = 0).map Binary64.negative

theorem zeroSigns_append (xs ys : List Binary64) :
    zeroSigns (xs ++ ys) = zeroSigns xs ++ zeroSigns ys := by
  simp [zeroSigns]

theorem zeroSigns_single (x : Binary64) :
    zeroSigns [x] = if x.rank = 0 then [x.negative] else [] := by
  by_cases zero : x.rank = 0 <;> simp [zeroSigns, zero]

theorem same_float_iff {x y : Binary64} :
    x.same y = true ↔ x.rank = y.rank ∧ (x.rank = 0 ∨ x.negative = y.negative) := by
  simp [Binary64.same]

/-- What is said of two values that are the same: they have equally many zeros, and only the signs
of these can tell them apart. -/
def Apart {α : Type} (xs ys : List Binary64) (v w : α) : Prop :=
  (zeroSigns xs).length = (zeroSigns ys).length ∧ (zeroSigns xs = zeroSigns ys → v = w)

theorem Apart.of_eq {α : Type} {xs : List Binary64} (v : α) : Apart xs xs v v :=
  ⟨rfl, fun _ => rfl⟩

theorem Apart.append {α β γ : Type} {xs ys us ws : List Binary64} {v w : α} {p q : β}
    (f : α → β → γ) (first : Apart xs ys v w) (second : Apart us ws p q) :
    Apart (xs ++ us) (ys ++ ws) (f v p) (f w q) := by
  unfold Apart
  rw [zeroSigns_append, zeroSigns_append, List.length_append, List.length_append]
  refine ⟨congrArg₂ _ first.1 second.1, fun signs => ?_⟩
  obtain ⟨left, right⟩ := List.append_inj signs first.1
  rw [first.2 left, second.2 right]

theorem Apart.map {α β : Type} {xs ys : List Binary64} {v w : α} (f : α → β)
    (h : Apart xs ys v w) : Apart xs ys (f v) (f w) :=
  ⟨h.1, fun signs => congrArg f (h.2 signs)⟩

theorem apart_float {x y : Binary64} (same : x.same y = true) : Apart [x] [y] x y := by
  obtain ⟨ranks, signs⟩ := same_float_iff.1 same
  unfold Apart
  rw [zeroSigns_single, zeroSigns_single, ← ranks]
  obtain ⟨xs, xr, xf⟩ := x
  obtain ⟨ys, yr, yf⟩ := y
  cases ranks
  by_cases zero : xr = 0
  · subst zero
    simp
  · obtain rfl : xs = ys := signs.resolve_left zero
    simp

mutual

theorem apart_of_same : ∀ v w : Json, same v w = true → Apart (floats v) (floats w) v w
  | .null, w, h => by
    cases w with
    | null => exact .of_eq _
    | _ => cases h
  | .bool a, w, h => by
    cases w with
    | bool b =>
      obtain rfl : a = b := by simpa [same] using h
      exact .of_eq _
    | _ => cases h
  | .int a, w, h => by
    cases w with
    | int b =>
      have values : a.val = b.val := by simpa [same] using h
      obtain rfl : a = b := by
        cases a
        cases b
        cases values
        rfl
      exact .of_eq _
    | _ => cases h
  | .float x, w, h => by
    cases w with
    | float y => exact (apart_float h).map Json.float
    | _ => cases h
  | .str a, w, h => by
    cases w with
    | str b =>
      obtain rfl : a = b := by simpa [same] using h
      exact .of_eq _
    | _ => cases h
  | .arr vs, w, h => by
    cases w with
    | arr ws => exact (apart_of_sameItems vs ws h).map Json.arr
    | _ => cases h
  | .obj ms, w, h => by
    cases w with
    | obj ns => exact (apart_of_sameMembers ms ns h).map Json.obj
    | _ => cases h

theorem apart_of_sameItems : ∀ vs ws : List Json, sameItems vs ws = true →
    Apart (floatsItems vs) (floatsItems ws) vs ws
  | [], [], _ => .of_eq _
  | [], _ :: _, h => by cases h
  | _ :: _, [], h => by cases h
  | v :: vs, w :: ws, h => by
    obtain ⟨head, tail⟩ := Bool.and_eq_true_iff.1 h
    exact (apart_of_same v w head).append List.cons (apart_of_sameItems vs ws tail)

theorem apart_of_sameMembers : ∀ ms ns : List (String × Json), sameMembers ms ns = true →
    Apart (floatsMembers ms) (floatsMembers ns) ms ns
  | [], [], _ => .of_eq _
  | [], _ :: _, h => by cases h
  | _ :: _, [], h => by cases h
  | (j, v) :: ms, (k, w) :: ns, h => by
    obtain ⟨head, tail⟩ := Bool.and_eq_true_iff.1 h
    obtain ⟨keys, values⟩ := Bool.and_eq_true_iff.1 head
    obtain rfl : j = k := by simpa using keys
    exact (apart_of_same v w values).append (fun u us => (j, u) :: us)
      (apart_of_sameMembers ms ns tail)

end

end Json

theorem of_validateTaskName {name : String} (valid : validateTaskName name = .ok ()) :
    name.toList ≠ [] ∧ separator ∉ name.toList := by
  unfold validateTaskName checkTaskName at valid
  split at valid
  · cases valid
  · next ne =>
    split at valid
    · cases valid
    · next free => exact ⟨ne, fun mem => free (List.contains_iff_mem.2 mem)⟩

namespace Identity

def rawArgs (id : Identity) : Option (List Char) :=
  match id.args with
  | [] => none
  | args => some (Json.write (.arr args) [])

theorem ne_separator {name : List Char} (free : separator ∉ name) :
    ∀ c ∈ name, decide (c ≠ separator) = true := by
  intro c mem
  refine decide_eq_true fun same => free ?_
  rwa [← same]

theorem splitName_alone {name : List Char} (free : separator ∉ name) :
    splitName name = (name, none) := by
  rw [splitName, List.takeWhile_eq_self_iff.2 (ne_separator free),
    List.dropWhile_eq_nil_iff.2 (ne_separator free)]

theorem splitName_append {name : List Char} (free : separator ∉ name) (raw : List Char) :
    splitName (name ++ separator :: raw) = (name, some raw) := by
  rw [splitName, List.takeWhile_append_of_pos (ne_separator free),
    List.dropWhile_append_of_pos (ne_separator free)]
  simp

theorem splitName_lockChars {id : Identity} (free : separator ∉ id.task.toList) :
    splitName id.lockChars = (id.task.toList, id.rawArgs) := by
  obtain ⟨task, args⟩ := id
  cases args with
  | nil => exact splitName_alone free
  | cons v vs => exact splitName_append free _

theorem toList_lockName (id : Identity) : id.lockName.toList = id.lockChars :=
  String.toList_ofList

theorem lockName_inj {a b : Identity} (ha : validateTaskName a.task = .ok ())
    (hb : validateTaskName b.task = .ok ()) (same : a.lockName = b.lockName) : a = b := by
  have chars : a.lockChars = b.lockChars := by rw [← toList_lockName, same, toList_lockName]
  have parts := congrArg splitName chars
  rw [splitName_lockChars (of_validateTaskName ha).2,
    splitName_lockChars (of_validateTaskName hb).2] at parts
  obtain ⟨tasks, raws⟩ := Prod.mk.inj parts
  have task := String.toList_inj.1 tasks
  obtain ⟨s, vs⟩ := a
  obtain ⟨t, ws⟩ := b
  cases task
  match vs, ws, raws with
  | [], [], _ => rfl
  | v :: vs, w :: ws, raws =>
    obtain ⟨args, -⟩ := Json.write_inj _ _ Json.stops_nil Json.stops_nil (Option.some.inj raws)
    cases args
    rfl

theorem ofLockName_cons {id : Identity} (valid : validateTaskName id.task = .ok ())
    {v : Json} {vs : List Json} (args : id.args = v :: vs) :
    ofLockName id.lockName =
      match Json.readAll (Json.write (.arr id.args) []) with
      | .ok (.arr args) => .ok ⟨id.task, args⟩
      | .ok value => .error (.malformedLockName id.lockName (.notList value))
      | .error fault => .error (.malformedLockName id.lockName
          (.notJson (fault.message (Json.write (.arr id.args) [])))) := by
  obtain ⟨ne, free⟩ := of_validateTaskName valid
  obtain ⟨c, cs, task⟩ := List.exists_cons_of_ne_nil ne
  have name : String.ofList (c :: cs) = id.task := by rw [← task, String.ofList_toList]
  rw [ofLockName, toList_lockName, readChars, splitName_lockChars free, rawArgs, args, task]
  dsimp only
  rw [name]
  cases Json.readAll (Json.write (.arr (v :: vs)) []) with
  | error fault => rfl
  | ok value => cases value <;> rfl

theorem ofLockName_nil {id : Identity} (valid : validateTaskName id.task = .ok ())
    (args : id.args = []) : ofLockName id.lockName = .ok id := by
  obtain ⟨ne, free⟩ := of_validateTaskName valid
  obtain ⟨c, cs, task⟩ := List.exists_cons_of_ne_nil ne
  have name : String.ofList (c :: cs) = id.task := by rw [← task, String.ofList_toList]
  rw [ofLockName, toList_lockName, readChars, splitName_lockChars free, rawArgs, args, task]
  obtain ⟨task, items⟩ := id
  cases args
  exact congrArg (fun name => Except.ok (Identity.mk name [])) name

section
variable {id : Identity} (valid : validateTaskName id.task = .ok ())
include valid

theorem ofLockName_of_shallow (ordered : Json.Ordered (.arr id.args))
    (numbers : ∀ x ∈ Json.floats (.arr id.args),
      Json.parse (Json.compact (.float x)) = .ok (.float x))
    (shallow : Json.depth (.arr id.args) ≤ Json.maxDepth) : ofLockName id.lockName = .ok id := by
  cases args : id.args with
  | nil => exact ofLockName_nil valid args
  | cons v vs =>
    have read := Json.readAll_write ordered
      (fun x mem => Json.readsBack_of_parse (numbers x mem)) shallow
    rw [ofLockName_cons valid args, read]

theorem ofLockName_of_deep (deep : Json.maxDepth < Json.depth (.arr id.args)) :
    ∃ flaw, ofLockName id.lockName = .error (.malformedLockName id.lockName flaw) := by
  cases args : id.args with
  | nil => simp [args, Json.depth, Json.depthItems, Json.maxDepth] at deep
  | cons v vs =>
    obtain ⟨fault, refused⟩ := Json.readAll_write_deep deep
    rw [ofLockName_cons valid args, refused]
    exact ⟨_, rfl⟩

/-- A lock name that is read at all is read as the identity that it was made of. -/
theorem eq_of_ofLockName (ordered : Json.Ordered (.arr id.args))
    (numbers : ∀ x ∈ Json.floats (.arr id.args),
      Json.parse (Json.compact (.float x)) = .ok (.float x))
    {id' : Identity} (read : ofLockName id.lockName = .ok id') : id' = id := by
  by_cases shallow : Json.depth (.arr id.args) ≤ Json.maxDepth
  · rw [ofLockName_of_shallow valid ordered numbers shallow] at read
    exact (Except.ok.inj read).symm
  · obtain ⟨flaw, refused⟩ := ofLockName_of_deep valid (Nat.lt_of_not_le shallow)
    rw [refused] at read
    cases read

end

theorem task_of_ofLockName {id read : Identity} (valid : validateTaskName id.task = .ok ())
    (parsed : ofLockName id.lockName = .ok read) : read.task = id.task := by
  cases args : id.args with
  | nil =>
    rw [ofLockName_nil valid args] at parsed
    cases parsed
    rfl
  | cons v vs =>
    rw [ofLockName_cons valid args] at parsed
    split at parsed <;> cases parsed
    rfl

/-- The lock name of an identity is read as that identity, if its arguments are nested no deeper
than texts may be and the texts of its numbers are read as these numbers; nested deeper it is
refused. -/
theorem ofLockName_lockName (id : Identity) (valid : validateTaskName id.task = .ok ())
    (ordered : Json.Ordered (.arr id.args)) :
    ((id.args = [] ∨ Json.depth (.arr id.args) ≤ 127) →
      (∀ x ∈ Json.floats (.arr id.args),
        Json.parse (Json.compact (.float x)) = .ok (.float x)) →
      ofLockName id.lockName = .ok id) ∧
    (127 < Json.depth (.arr id.args) →
      ∃ flaw, ofLockName id.lockName = .error (.malformedLockName id.lockName flaw)) := by
  refine ⟨fun within numbers => ?_, fun deep => ofLockName_of_deep valid deep⟩
  obtain none | shallow := within
  · exact ofLockName_nil valid none
  · exact ofLockName_of_shallow valid ordered numbers shallow

/-- A name with arguments of every kind, and one with arguments that are nested too deep. -/
theorem ofLockName_lockName_kinds :
    let kinds : Identity := ⟨"app.send", [.int ⟨-7, by decide, by decide⟩, .str "a:b \"c\"\n",
      .obj [("at", .arr [.null, .bool true]),
        ("rate", .float ⟨false, 0x3ff8000000000000, by decide⟩)],
      .float (.zero true)]⟩
    let deep : Identity := ⟨"app.send", [Nat.repeat (fun v => .arr [v]) 127 .null]⟩
    kinds.lockName =
        "app.send:[-7,\"a:b \\\"c\\\"\\n\",\x7b\"at\":[null,true],\"rate\":1.5\x7d,-0.0]" ∧
      ofLockName kinds.lockName = .ok kinds ∧
      ∃ flaw, ofLockName deep.lockName = .error (.malformedLockName deep.lockName flaw) := by
  intro kinds deep
  have valid : validateTaskName "app.send" = .ok () := by rfl
  refine ⟨by decide +kernel, ?_, ?_⟩
  · exact (ofLockName_lockName kinds valid (by decide +kernel)).1 (.inr (by decide +kernel))
      (by decide +kernel)
  · exact (ofLockName_lockName deep valid (by decide +kernel)).2 (by decide +kernel)

/-- Two identities have the same lock name just if they are the same and the zeros among their
numbers have the same signs. -/
theorem lockName_eq_iff (a b : Identity) (ha : validateTaskName a.task = .ok ())
    (hb : validateTaskName b.task = .ok ()) :
    a.lockName = b.lockName ↔ a.same b = true ∧
      Json.zeroSigns (Json.floats (.arr a.args)) = Json.zeroSigns (Json.floats (.arr b.args)) := by
  constructor
  · intro names
    cases lockName_inj ha hb names
    simp [same, Json.sameItems_refl]
  · rintro ⟨equal, signs⟩
    obtain ⟨tasks, args⟩ := Bool.and_eq_true_iff.1 equal
    have task : a.task = b.task := by simpa using tasks
    have items := (Json.apart_of_sameItems a.args b.args args).2 signs
    cases a
    cases b
    cases task
    cases items
    rfl

/-- Identities that are the same, with zeros of different signs and so with different lock names. -/
theorem lockName_eq_iff_zeros :
    let a : Identity := ⟨"app.send", [.arr [.float (.zero false)], .bool true]⟩
    let b : Identity := ⟨"app.send", [.arr [.float (.zero true)], .bool true]⟩
    a.same b = true ∧ a.lockName ≠ b.lockName := by
  intro a b
  have valid : validateTaskName "app.send" = .ok () := by rfl
  refine ⟨rfl, fun names => ?_⟩
  have signs := ((lockName_eq_iff a b valid valid).1 names).2
  exact absurd signs (by decide)

/-- Identities can be the same and have different lock names. -/
theorem not_lockName_eq_of_same :
    validateTaskName "t" = .ok () ∧
      ¬((⟨"t", [.float (.zero false)]⟩ : Identity).same ⟨"t", [.float (.zero true)]⟩ = true ↔
        (⟨"t", [.float (.zero false)]⟩ : Identity).lockName =
          (⟨"t", [.float (.zero true)]⟩ : Identity).lockName) := by
  refine ⟨rfl, fun alike => ?_⟩
  exact absurd (alike.1 rfl) (by decide +kernel)

end Identity
end Coalesce
