import Coalesce.Proofs.Parsing
import Coalesce.Proofs.WireFormat
import Coalesce.Server.Tables

/-! What is read back from a column of JSON. A column keeps the document that it is given, but it
prints numbers in its own way, so a message comes back with its texts and integers and perhaps with
other floating-point numbers. -/
namespace Coalesce

namespace Json

variable (f : Binary64 → Json)

mutual

def mapFloats : Json → Json
  | .null => .null
  | .bool b => .bool b
  | .int n => .int n
  | .float x => f x
  | .str s => .str s
  | .arr items => .arr (mapFloatsItems items)
  | .obj members => .obj (mapFloatsMembers members)

def mapFloatsItems : List Json → List Json
  | [] => []
  | v :: vs => mapFloats v :: mapFloatsItems vs

def mapFloatsMembers : List (String × Json) → List (String × Json)
  | [] => []
  | (k, v) :: ms => (k, mapFloats v) :: mapFloatsMembers ms

end

mutual

theorem same_mapFloats_iff : ∀ v, same (mapFloats f v) v = true ↔
    ∀ x ∈ floats v, same (f x) (.float x) = true
  | .null => by simp [mapFloats, same, floats]
  | .bool b => by simp [mapFloats, same, floats]
  | .int n => by simp [mapFloats, same, floats]
  | .float x => by simp [mapFloats, floats]
  | .str s => by simp [mapFloats, same, floats]
  | .arr items => by simp only [mapFloats, same, floats, sameItems_mapFloats_iff items]
  | .obj members => by simp only [mapFloats, same, floats, sameMembers_mapFloats_iff members]

theorem sameItems_mapFloats_iff : ∀ vs, sameItems (mapFloatsItems f vs) vs = true ↔
    ∀ x ∈ floatsItems vs, same (f x) (.float x) = true
  | [] => by simp [mapFloatsItems, sameItems, floatsItems]
  | v :: vs => by
    simp only [mapFloatsItems, sameItems, floatsItems, Bool.and_eq_true, List.forall_mem_append,
      same_mapFloats_iff v, sameItems_mapFloats_iff vs]

theorem sameMembers_mapFloats_iff : ∀ ms, sameMembers (mapFloatsMembers f ms) ms = true ↔
    ∀ x ∈ floatsMembers ms, same (f x) (.float x) = true
  | [] => by simp [mapFloatsMembers, sameMembers, floatsMembers]
  | (k, v) :: ms => by
    simp only [mapFloatsMembers, sameMembers, floatsMembers, Bool.and_eq_true, beq_self_eq_true,
      true_and, List.forall_mem_append, same_mapFloats_iff v, sameMembers_mapFloats_iff ms]

end

theorem mapFloatsMembers_eq_mapValues (ms : Table Json) :
    mapFloatsMembers f ms = ms.mapValues (mapFloats f) := by
  induction ms with
  | nil => rfl
  | cons p ms ih => rw [mapFloatsMembers, ih]; rfl

end Json

namespace Message

variable {f : Binary64 → Json} {m : Message}

def mapFloats (f : Binary64 → Json) (m : Message) : Message :=
  ⟨m.id, m.task, Json.mapFloatsItems f m.args, Json.mapFloatsMembers f m.kwargs,
    Json.mapFloatsMembers f m.extra⟩

def floats (m : Message) : List Binary64 :=
  Json.floatsItems m.args ++ Json.floatsMembers m.kwargs ++ Json.floatsMembers m.extra

theorem same_mapFloats_iff (f : Binary64 → Json) (m : Message) :
    (m.mapFloats f).same m = true ↔ ∀ x ∈ m.floats, (f x).same (.float x) = true := by
  simp only [same, mapFloats, floats, beq_self_eq_true, Bool.true_and, Bool.and_eq_true,
    List.forall_mem_append, Json.sameItems_mapFloats_iff, Json.sameMembers_mapFloats_iff]

theorem toJson_mapFloats (f : Binary64 → Json) (m : Message) :
    (m.mapFloats f).toJson = m.toJson.mapFloats f := by
  have core : (m.mapFloats f).core = m.core.mapValues (Json.mapFloats f) := rfl
  rw [toJson, toJson, Json.mapFloats, Json.mapFloatsMembers_eq_mapValues, Table.mapValues_merge,
    ← core, ← Json.mapFloatsMembers_eq_mapValues]
  rfl

theorem decode_mapFloats (f : Binary64 → Json) (sorted : m.extra.Sorted)
    (apart : Unreserved m.extra) : decode (m.toJson.mapFloats f) = .ok (m.mapFloats f) := by
  have extra : (m.mapFloats f).extra = m.extra.mapValues (Json.mapFloats f) :=
    Json.mapFloatsMembers_eq_mapValues f m.extra
  rw [← toJson_mapFloats]
  refine decode_toJson ?_ fun key core => ?_
  · rw [extra, Table.Sorted, Table.keys_mapValues]
    exact sorted
  · rw [extra, Table.contains_mapValues]
    exact apart key core

end Message

namespace Server

/-- The column gives a payload back as a text of the same document, in which floating-point numbers
are to be read as `f` says. -/
def Column.Gives (column : Column) (f : Binary64 → Json) (payload : Json) : Prop :=
  Json.Document (column.giveBack payload.compact).toList (payload.mapFloats f)

theorem Column.Gives.received {column : Column} {f : Binary64 → Json} {payload : Json}
    (gives : column.Gives f payload) {e : Entry} (text : e.text = column.giveBack payload.compact) :
    e.received = .ok ⟨e.id, e.readCount, payload.mapFloats f⟩ := by
  have read : Json.parse e.text = .ok (payload.mapFloats f) := by
    rw [text, Json.parse, Json.readAll_eq_ok.2 gives]
  rw [Entry.received, read]

end Server

/-- An entry that holds what the column makes of a message. Where the column gives the document
back, and no extra member stands in the place of a core field, the entry is read as the message with
its floating-point numbers as they are read; and that is the same message just if each of them is
the same number. -/
structure Message.Copy (column : Server.Column) (m : Message) (e : Server.Entry) : Prop where
  text : e.text = column.giveBack m.toJson.compact
  back : ∀ f, column.Gives f m.toJson → Unreserved m.extra →
    ∃ r, e.received = .ok r ∧ decode r.payload = .ok (m.mapFloats f) ∧
      ((m.mapFloats f).same m = true ↔ ∀ x ∈ m.floats, (f x).same (.float x) = true)

theorem Message.copy_of_text {column : Server.Column} {m : Message} (sorted : m.extra.Sorted)
    {e : Server.Entry} (text : e.text = column.giveBack m.toJson.compact) : m.Copy column e where
  text := text
  back f gives apart :=
    ⟨_, gives.received text, decode_mapFloats f sorted apart, same_mapFloats_iff f m⟩

end Coalesce
