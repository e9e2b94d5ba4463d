import Coalesce.CommandLine.Run
import Coalesce.Proofs.LockName
import Coalesce.Proofs.Parsing

/-! Which texts are lock names. Such a text is a task alone, or a task and the text of a list behind
it. The identity that it names has a lock name of its own, which names the same identity and is the
text that the command line prints. -/
namespace Coalesce

namespace Identity

theorem separator_cases (s : List Char) :
    separator ∉ s ∨ ∃ t raw, separator ∉ t ∧ s = t ++ separator :: raw := by
  by_cases mem : separator ∈ s
  · obtain ⟨t, raw, split, free⟩ := List.eq_append_cons_of_mem mem
    exact .inr ⟨t, raw, free, split⟩
  · exact .inl mem

section
variable {name : List Char} {id : Identity} (ne : name ≠ []) (free : separator ∉ name)
include ne free

theorem readChars_alone : readChars name = .ok ⟨String.ofList name, []⟩ := by
  obtain ⟨c, cs, rfl⟩ := List.exists_cons_of_ne_nil ne
  rw [readChars, splitName_alone free]

theorem readChars_append {raw : List Char} : readChars (name ++ separator :: raw) = .ok id ↔
    ∃ args, Json.readAll raw = .ok (.arr args) ∧ id = ⟨String.ofList name, args⟩ := by
  obtain ⟨c, cs, rfl⟩ := List.exists_cons_of_ne_nil ne
  rw [readChars, splitName_append free]
  dsimp only
  split
  · next args read => simp [read, eq_comm]
  · next v other read =>
    rw [read]
    simpa using fun args same => (other args same).elim
  · next fault read => simp [read]

end

theorem not_readChars_nil {id : Identity} : readChars [] ≠ .ok id := nofun

theorem not_readChars_separator {raw : List Char} {id : Identity} :
    readChars (separator :: raw) ≠ .ok id := by
  rw [← List.nil_append (separator :: raw), readChars, splitName_append List.not_mem_nil]
  intro read
  cases read

theorem ofLockName_eq_ok {name : String} {id : Identity} :
    ofLockName name = .ok id ↔ readChars name.toList = .ok id := by
  unfold ofLockName
  cases readChars name.toList <;> simp [Except.mapError]

/-- A text that names an identity: a task without arguments, or a task and the text of a list. -/
inductive Names : String → Identity → Prop where
  | alone {task : String} (ne : task ≠ "") (free : separator ∉ task.toList) : Names task ⟨task, []⟩
  | arguments {task text : String} {args : List Json} (ne : task ≠ "")
      (free : separator ∉ task.toList) (document : Json.Document text.toList (.arr args)) :
      Names (task ++ ":" ++ text) ⟨task, args⟩

theorem toList_ne_nil {task : String} (ne : task ≠ "") : task.toList ≠ [] :=
  fun none => ne (String.toList_eq_nil_iff.1 none)

theorem toList_colon (task text : String) :
    (task ++ ":" ++ text).toList = task.toList ++ separator :: text.toList := by
  simp [separator]

section
variable {task text : String} {id : Identity} (ne : task ≠ "") (free : separator ∉ task.toList)
include ne free

theorem ofLockName_alone : ofLockName task = .ok ⟨task, []⟩ := by
  rw [ofLockName_eq_ok, readChars_alone (toList_ne_nil ne) free, String.ofList_toList]

theorem ofLockName_append : ofLockName (task ++ ":" ++ text) = .ok id ↔
    ∃ args, Json.Document text.toList (.arr args) ∧ id = ⟨task, args⟩ := by
  simp only [ofLockName_eq_ok, toList_colon, readChars_append (toList_ne_nil ne) free,
    Json.readAll_eq_ok, String.ofList_toList]

end

theorem ofLockName_iff_names {name : String} {id : Identity} :
    ofLockName name = .ok id ↔ Names name id := by
  constructor
  · intro read
    rw [ofLockName_eq_ok] at read
    obtain free | ⟨t, raw, free, split⟩ := separator_cases name.toList
    · have ne : name ≠ "" := by
        rintro rfl
        exact not_readChars_nil read
      rw [readChars_alone (toList_ne_nil ne) free, String.ofList_toList] at read
      cases read
      exact .alone ne free
    · have ne : t ≠ [] := by
        rintro rfl
        rw [split] at read
        exact not_readChars_separator read
      rw [split, readChars_append ne free] at read
      obtain ⟨args, document, rfl⟩ := read
      obtain rfl : name = String.ofList t ++ ":" ++ String.ofList raw := by
        rw [← String.toList_inj, split]
        simp [separator]
      rw [Json.readAll_eq_ok] at document
      exact .arguments (by simpa using ne) (by simpa using free) (by simpa using document)
  · intro names
    cases names with
    | alone ne free => exact ofLockName_alone ne free
    | arguments ne free document => exact (ofLockName_append ne free).2 ⟨_, document, rfl⟩

theorem lockName_nil (task : String) : lockName ⟨task, []⟩ = task := String.ofList_toList

theorem lockName_cons (task : String) (v : Json) (vs : List Json) :
    lockName ⟨task, v :: vs⟩ = task ++ ":" ++ Json.compact (.arr (v :: vs)) := by
  rw [← String.toList_inj, toList_lockName, toList_colon, Json.compact, String.toList_ofList]
  rfl

theorem Names.lockName {name : String} {id : Identity} (names : Names name id)
    (numbers : ∀ x ∈ Json.floats (.arr id.args),
      Json.parse (Json.compact (.float x)) = .ok (.float x)) : Names id.lockName id := by
  cases names with
  | alone ne free =>
    rw [lockName_nil]
    exact .alone ne free
  | @arguments task text args ne free document =>
    cases args with
    | nil =>
      rw [lockName_nil]
      exact .alone ne free
    | cons v vs =>
      have written : Json.Document (Json.compact (.arr (v :: vs))).toList (.arr (v :: vs)) := by
        rw [Json.compact, String.toList_ofList]
        exact document.write numbers
      rw [lockName_cons]
      exact .arguments ne free written

end Identity

namespace CommandLine

theorem printLockName_eq_ok {task text out : String} (valid : validateTaskName task = .ok ()) :
    printLockName task (some text) = .ok out ↔
      ∃ args, Json.Document text.toList (.arr args) ∧
        out = Identity.lockName ⟨task, args⟩ ++ "\n" := by
  simp only [printLockName, valid, bind, Except.bind, Json.parseList, ← Json.readAll_eq_ok,
    ← Json.readList_eq_ok]
  cases Json.readList text.toList with
  | error fault => simp [Except.mapError]
  | ok args => simp [Except.mapError, eq_comm]

end CommandLine

namespace Identity

/-- A text is read as a lock name just if it is one, the lock name of what it names is a normal form
of it, and the command line prints this form of what it is given. -/
theorem lock_names_normalised :
    (∀ name id, ofLockName name = .ok id ↔ Names name id) ∧
    (∀ name id, ofLockName name = .ok id →
      (∀ x ∈ Json.floats (.arr id.args), Json.parse (Json.compact (.float x)) = .ok (.float x)) →
      ofLockName id.lockName = .ok id) ∧
    (∀ task text out, validateTaskName task = .ok () →
      (CommandLine.printLockName task (some text) = .ok out ↔
        ∃ id, ofLockName (task ++ ":" ++ text) = .ok id ∧ out = id.lockName ++ "\n")) := by
  refine ⟨fun name id => ofLockName_iff_names, fun name id read numbers => ?_,
    fun task text out valid => ?_⟩
  · exact ofLockName_iff_names.2 ((ofLockName_iff_names.1 read).lockName numbers)
  · obtain ⟨ne, free⟩ := of_validateTaskName valid
    have named : task ≠ "" := by
      rintro rfl
      exact ne rfl
    rw [CommandLine.printLockName_eq_ok valid]
    simp only [ofLockName_append named free]
    constructor
    · rintro ⟨args, document, rfl⟩
      exact ⟨_, ⟨args, document, rfl⟩, rfl⟩
    · rintro ⟨id, ⟨args, document, rfl⟩, rfl⟩
      exact ⟨args, document, rfl⟩

instance (read : Except Error Identity) (id : Identity) : Decidable (read = .ok id) :=
  match read with
  | .ok found => decidable_of_iff (found.task = id.task ∧ found.args = id.args) (by
      cases found
      cases id
      simp)
  | .error _ => .isFalse nofun

/-- A name with blanks, an escape, a key that stands twice and a negative zero. -/
theorem lock_names_normalised_members :
    let text := " [1.50 , \x7b\"b\":2, \"a\":\"\\u0041\", \"b\":-0\x7d]"
    let normal := "app.send:[1.5,\x7b\"a\":\"A\",\"b\":-0.0\x7d]"
    let id : Identity := ⟨"app.send", [.float ⟨false, 0x3ff8000000000000, by decide⟩,
      .obj [("a", .str "A"), ("b", .float (.zero true))]]⟩
    Names ("app.send" ++ ":" ++ text) id ∧ id.lockName = normal ∧ ofLockName normal = .ok id ∧
      CommandLine.printLockName "app.send" (some text) = .ok (normal ++ "\n") := by
  intro text normal id
  obtain ⟨grammar, fixed, printed⟩ := lock_names_normalised
  have valid : validateTaskName "app.send" = .ok () := by rfl
  have read : ofLockName ("app.send" ++ ":" ++ text) = .ok id := by decide +kernel
  have written : id.lockName = normal := by decide +kernel
  have again := fixed _ id read (by decide +kernel)
  rw [written] at again
  exact ⟨(grammar _ id).1 read, written, again,
    (printed "app.send" text _ valid).2 ⟨id, read, by rw [written]⟩⟩

end Identity
end Coalesce
