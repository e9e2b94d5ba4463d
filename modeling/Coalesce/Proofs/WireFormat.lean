import Coalesce.Message
import Coalesce.Proofs.Maps
import Coalesce.Proofs.RoundTrip

/-! Messages as JSON objects. The extra members of a message share the object with its core fields,
so a message is read back as it was written just if it has no extra member in the place of a core
field; and whatever is read as a message is written back with nothing lost, the fields that may be
left out filled in. -/
namespace Coalesce

namespace Json

variable {α β : Type}

theorem required_eq_ok {name : String} {a? : Option α} {a : α} :
    required name a? = .ok a ↔ a? = some a := by
  cases a? <;> simp [required]

theorem member_eq_ok {key : String} {decode : Json → Decoded α} {members : Table Json}
    {a? : Option α} :
    member key decode members = .ok a? ↔
      members.get? key = none ∧ a? = none ∨
        ∃ v a, members.get? key = some v ∧ decode v = .ok a ∧ a? = some a := by
  unfold member
  cases members.get? key with
  | none => simp [eq_comm]
  | some v => cases read : decode v <;> simp [read, Except.map, eq_comm]

theorem member_getD (key : String) {decode : Json → Decoded α} {wrap : α → Json}
    (reads : ∀ v a, decode v = .ok a ↔ v = wrap a) (members : Table Json) (default a : α) :
    (∃ a?, member key decode members = .ok a? ∧ a?.getD default = a) ↔
      (members.get? key).getD (wrap default) = wrap a := by
  have wrap_inj {a b : α} (same : wrap a = wrap b) : a = b := by
    have read := (reads _ a).2 rfl
    rw [same, (reads _ b).2 rfl] at read
    exact (Except.ok.inj read).symm
  simp only [member_eq_ok, reads]
  cases members.get? key with
  | none =>
    simp only [true_and, Option.getD_none]
    constructor
    · rintro ⟨_, rfl | ⟨v, b, missing, -⟩, rfl⟩
      · rfl
      · cases missing
    · intro same
      exact ⟨none, .inl rfl, wrap_inj same⟩
  | some v =>
    simp only [Option.getD_some]
    constructor
    · rintro ⟨_, ⟨missing, -⟩ | ⟨u, b, found, same, rfl⟩, rfl⟩
      · cases missing
      · exact (Option.some.inj found).trans same
    · rintro rfl
      exact ⟨some a, .inr ⟨_, a, rfl, rfl, rfl⟩, rfl⟩

theorem asString_eq_ok (v : Json) (s : String) : asString v = .ok s ↔ v = .str s := by
  cases v <;> simp [asString]

theorem asList_eq_ok (v : Json) (items : List Json) : asList v = .ok items ↔ v = .arr items := by
  cases v <;> simp [asList]

theorem asMap_eq_ok (v : Json) (members : Table Json) :
    asMap v = .ok members ↔ v = .obj members := by
  cases v <;> simp [asMap]

theorem member_asString {key s : String} {members : Table Json} :
    member key asString members = .ok (some s) ↔ members.get? key = some (.str s) := by
  simp [member_eq_ok, asString_eq_ok]

end Json

namespace Message

theorem decode_obj_iff {members : Table Json} {m : Message} :
    decode (.obj members) = .ok m ↔
      members.get? "id" = some (.str m.id) ∧ members.get? "task" = some (.str m.task) ∧
        (members.get? "args").getD (.arr []) = .arr m.args ∧
        (members.get? "kwargs").getD (.obj []) = .obj m.kwargs ∧
        m.extra = withoutCore members := by
  have args := Json.member_getD "args" Json.asList_eq_ok members [] m.args
  have kwargs := Json.member_getD "kwargs" Json.asMap_eq_ok members [] m.kwargs
  rw [← Json.member_asString, ← Json.member_asString, ← args, ← kwargs]
  constructor
  · intro read
    obtain ⟨args?, args_read, read⟩ := Json.bind_eq_ok.1 read
    obtain ⟨id?, id_read, read⟩ := Json.bind_eq_ok.1 read
    obtain ⟨kwargs?, kwargs_read, read⟩ := Json.bind_eq_ok.1 read
    obtain ⟨task?, task_read, read⟩ := Json.bind_eq_ok.1 read
    obtain ⟨id, id_there, read⟩ := Json.bind_eq_ok.1 read
    obtain ⟨task, task_there, read⟩ := Json.bind_eq_ok.1 read
    rw [Json.required_eq_ok] at id_there task_there
    subst id_there task_there
    cases Except.ok.inj read
    exact ⟨id_read, task_read, ⟨args?, args_read, rfl⟩, ⟨kwargs?, kwargs_read, rfl⟩, rfl⟩
  · rintro ⟨id_read, task_read, ⟨args?, args_read, args⟩, ⟨kwargs?, kwargs_read, kwargs⟩, extra⟩
    simp only [decode, args_read, id_read, kwargs_read, task_read, Json.required, args, kwargs,
      ← extra, bind, Except.bind]

/-! Core fields and extra members. -/

/-- No extra member stands in the place of a core field. -/
def Unreserved (extra : Table Json) : Prop := ∀ key ∈ coreFields, extra.contains key = false

theorem get?_withoutCore (members : Table Json) (key : String) :
    (withoutCore members).get? key =
      if coreFields.contains key then none else members.get? key := by
  have kept : (withoutCore members).get? key =
      if !coreFields.contains key then members.get? key else none :=
    Table.get?_filter (fun key => !coreFields.contains key) members key
  rw [kept]
  cases coreFields.contains key <;> rfl

theorem unreserved_withoutCore (members : Table Json) : Unreserved (withoutCore members) := by
  intro key core
  simp [Table.contains, get?_withoutCore, core]

theorem Unreserved.get?_eq_none {extra : Table Json} (apart : Unreserved extra) {key : String}
    (core : key ∈ coreFields) : extra.get? key = none := by
  simpa [Table.contains] using apart key core

theorem contains_of_sameMembers {s t : Table Json} (same : Json.sameMembers s t = true)
    (key : String) : s.contains key = t.contains key := by
  have keys : s.keys = t.keys := by
    induction s generalizing t with
    | nil => cases t <;> simp_all [Json.sameMembers]
    | cons p s ih =>
      cases t with
      | nil => simp [Json.sameMembers] at same
      | cons q t =>
        obtain ⟨j, a⟩ := p
        obtain ⟨k, b⟩ := q
        simp only [Json.sameMembers, Bool.and_eq_true, beq_iff_eq] at same
        simp [same.1.1, ih same.2]
  rw [Bool.eq_iff_iff, Table.contains_iff_mem_keys, Table.contains_iff_mem_keys, keys]

theorem Unreserved.of_same {extra extra' : Table Json} (apart : Unreserved extra)
    (same : Json.sameMembers extra extra' = true) : Unreserved extra' := by
  intro key core
  rw [← contains_of_sameMembers same, apart key core]

theorem sorted_core (m : Message) : m.core.Sorted := by
  simp only [core, Table.Sorted, Table.keys, List.map]
  decide

theorem get?_core (m : Message) {key : String} (other : key ∉ coreFields) :
    m.core.get? key = none := by
  simp only [coreFields, List.mem_cons, List.not_mem_nil, or_false, not_or] at other
  simp [core, other, Table.get?]

theorem toJson_get? (m : Message) (sorted : m.extra.Sorted) (key : String) :
    (m.core.merge m.extra).get? key = (m.extra.get? key).or (m.core.get? key) :=
  Table.get?_merge sorted key m.core

/-! Written, then read. -/

theorem decode_toJson {m : Message} (sorted : m.extra.Sorted) (apart : Unreserved m.extra) :
    decode m.toJson = .ok m := by
  have found (key : String) (core : key ∈ coreFields) :
      (m.core.merge m.extra).get? key = m.core.get? key := by
    rw [toJson_get? m sorted, apart.get?_eq_none core, Option.none_or]
  refine decode_obj_iff.2 ⟨?id, ?task, ?args, ?kwargs, ?extra⟩
  case id => exact found "id" (by decide)
  case task => exact found "task" (by decide)
  case args => rw [found "args" (by decide)]; rfl
  case kwargs => rw [found "kwargs" (by decide)]; rfl
  case extra =>
    refine Table.Sorted.ext sorted (((sorted_core m).merge m.extra).filter _) fun key => ?_
    rw [get?_withoutCore, toJson_get? m sorted]
    by_cases core : key ∈ coreFields
    · rw [if_pos (by simpa using core), apart.get?_eq_none core]
    · rw [if_neg (by simpa using core), get?_core m core, Option.or_none]

theorem unreserved_of_decode {v : Json} {m : Message} (read : decode v = .ok m) :
    Unreserved m.extra := by
  cases v with
  | obj members =>
    obtain ⟨-, -, -, -, extra⟩ := decode_obj_iff.1 read
    rw [extra]
    exact unreserved_withoutCore members
  | _ => cases read

/-! Read, then written. -/

/-- What is read as a message: an object with texts for `id` and `task`, an array for `args` and an
object for `kwargs`, the last two if they are there at all. -/
def Readable (v : Json) : Prop :=
  ∃ members : Table Json, v = .obj members ∧
    (∃ id, members.get? "id" = some (.str id)) ∧
    (∃ task, members.get? "task" = some (.str task)) ∧
    (members.get? "args" = none ∨ ∃ args, members.get? "args" = some (.arr args)) ∧
    (members.get? "kwargs" = none ∨ ∃ kwargs, members.get? "kwargs" = some (.obj kwargs))

def supply (key : String) (v : Json) (members : Table Json) : Table Json :=
  if members.contains key then members else members.insert key v

def filled : Json → Json
  | .obj members => .obj (supply "args" (.arr []) (supply "kwargs" (.obj []) members))
  | v => v

theorem get?_supply (key : String) (v : Json) (members : Table Json) (other : String) :
    (supply key v members).get? other =
      if other = key then some ((members.get? key).getD v) else members.get? other := by
  unfold supply Table.contains
  by_cases same : other = key
  · subst same
    cases found : members.get? other <;> simp [found, Table.get?_insert_self]
  · cases members.get? key <;> simp [same, Table.get?_insert_of_ne same]

theorem sorted_supply {members : Table Json} (sorted : members.Sorted) (key : String) (v : Json) :
    (supply key v members).Sorted := by
  unfold supply
  split
  · exact sorted
  · exact sorted.insert key v

theorem getD_arr_iff {v? : Option Json} :
    (∃ items, v?.getD (.arr []) = .arr items) ↔ v? = none ∨ ∃ items, v? = some (.arr items) := by
  cases v? <;> simp

theorem getD_obj_iff {v? : Option Json} :
    (∃ members, v?.getD (.obj []) = .obj members) ↔
      v? = none ∨ ∃ members, v? = some (.obj members) := by
  cases v? <;> simp

theorem decode_iff_readable (v : Json) : (∃ m, decode v = .ok m) ↔ Readable v := by
  unfold Readable
  constructor
  · rintro ⟨m, read⟩
    cases v with
    | obj members =>
      obtain ⟨id, task, args, kwargs, -⟩ := decode_obj_iff.1 read
      exact ⟨members, rfl, ⟨_, id⟩, ⟨_, task⟩, getD_arr_iff.1 ⟨_, args⟩, getD_obj_iff.1 ⟨_, kwargs⟩⟩
    | _ => cases read
  · rintro ⟨members, rfl, ⟨id, id_there⟩, ⟨task, task_there⟩, args, kwargs⟩
    obtain ⟨args, args_there⟩ := getD_arr_iff.2 args
    obtain ⟨kwargs, kwargs_there⟩ := getD_obj_iff.2 kwargs
    exact ⟨⟨id, task, args, kwargs, withoutCore members⟩,
      decode_obj_iff.2 ⟨id_there, task_there, args_there, kwargs_there, rfl⟩⟩

theorem toJson_of_decode {members : Table Json} {m : Message} (sorted : members.Sorted)
    (read : decode (.obj members) = .ok m) : m.toJson = filled (.obj members) := by
  obtain ⟨id, task, args, kwargs, extra⟩ := decode_obj_iff.1 read
  have kept : m.extra.Sorted := by
    rw [extra]
    exact sorted.filter _
  refine congrArg Json.obj (Table.Sorted.ext ((sorted_core m).merge m.extra)
    (sorted_supply (sorted_supply sorted _ _) _ _) fun key => ?_)
  rw [toJson_get? m kept, extra, get?_withoutCore, get?_supply, get?_supply, get?_supply]
  by_cases core : key ∈ coreFields
  · rw [if_pos (by simpa using core), Option.none_or]
    simp only [coreFields, List.mem_cons, List.not_mem_nil, or_false] at core
    obtain rfl | rfl | rfl | rfl := core
    · exact id.symm
    · exact task.symm
    · exact congrArg some args.symm
    · exact congrArg some kwargs.symm
  · rw [if_neg (by simpa using core), get?_core m core, Option.or_none]
    simp only [coreFields, List.mem_cons, List.not_mem_nil, or_false, not_or] at core
    rw [if_neg core.2.2.1, if_neg core.2.2.2]

/-- A message is read back as it was written just if none of its extra members takes the place of a
core field, and what is read as a message is written back whole. -/
theorem decodes_exactly (m : Message) (v : Json) (sorted : m.extra.Sorted) (ordered : v.Ordered) :
    (decode m.toJson = .ok m ↔ Unreserved m.extra) ∧
      (∀ m', decode m.toJson = .ok m' → m'.same m = true → Unreserved m.extra) ∧
      ((∃ m', decode v = .ok m') ↔ Readable v) ∧
      ∀ m', decode v = .ok m' → Unreserved m'.extra ∧ m'.toJson = filled v := by
  refine ⟨⟨unreserved_of_decode, decode_toJson sorted⟩, ?told, decode_iff_readable v, ?back⟩
  case told =>
    intro m' read same
    simp only [Message.same, Bool.and_eq_true] at same
    exact (unreserved_of_decode read).of_same same.2
  case back =>
    intro m' read
    refine ⟨unreserved_of_decode read, ?_⟩
    cases v with
    | obj members =>
      unfold Json.Ordered at ordered
      exact toJson_of_decode ordered.1 read
    | _ => cases read

/-- A message with a deadline beside its core fields, and an object without `args` or `kwargs` that
has another member under a name of its own. -/
theorem decodes_exactly_deadline :
    let m : Message := ⟨"a", "f", [.ofNat 1], [], [("time_limit", .ofNat 30)]⟩
    let v : Json := .obj [("id", .str "b"), ("reason", .null), ("task", .str "g")]
    m.extra.Sorted ∧ v.Ordered ∧ decode m.toJson = .ok m ∧
      ∃ m', decode v = .ok m' ∧
        m'.toJson = .obj [("args", .arr []), ("id", .str "b"), ("kwargs", .obj []),
          ("reason", .null), ("task", .str "g")] := by
  intro m v
  have sorted : m.extra.Sorted := by decide
  have ordered : v.Ordered := by decide
  obtain ⟨back, -, reads, whole⟩ := decodes_exactly m v sorted ordered
  have apart : Unreserved m.extra := by unfold Unreserved; decide
  obtain ⟨m', read⟩ := reads.2 ⟨_, rfl, ⟨"b", rfl⟩, ⟨"g", rfl⟩, .inl rfl, .inl rfl⟩
  exact ⟨sorted, ordered, back.2 apart, m', read, (whole m' read).2⟩

end Message
end Coalesce
