/-! The words of the command line and the command they ask for. Words are taken from left to right,
and the first one that is wrong or asks for help decides. -/
namespace Coalesce.CommandLine

/-- A word that is not text can be read up to its first fault only. -/
structure Word where
  text : String
  whole : Bool
  deriving DecidableEq

def Word.ofText (text : String) : Word := ⟨text, true⟩

inductive Command where
  | serve (queues : List String) (sweeping : Bool)
  | sweep
  | listFlags
  | clearFlag (name : String)
  | lockName (task : String) (args : Option String)
  deriving DecidableEq

inductive Refusal where
  | help
  | misuse
  deriving DecidableEq

inductive OptionKind where
  | switch
  | value
  | values
  deriving DecidableEq

structure Form where
  options : List (String × OptionKind)
  operands : Nat

structure Gathered where
  options : List (String × String)
  operands : List String

namespace Gathered

def empty : Gathered := ⟨[], []⟩

variable (g : Gathered)

def has (name : String) : Bool := g.options.any (·.1 == name)

def values (name : String) : List String := (g.options.filter (·.1 == name)).map (·.2)

/-- Only an option of many values may come twice. -/
def addOption (name : String) (kind : OptionKind) (value : String) : Except Refusal Gathered :=
  if kind ≠ .values ∧ g.has name then .error .misuse
  else .ok { g with options := g.options ++ [(name, value)] }

def addOperand (form : Form) (word : Word) : Except Refusal Gathered :=
  if word.whole ∧ g.operands.length < form.operands then
    .ok { g with operands := g.operands ++ [word.text] }
  else .error .misuse

end Gathered

inductive Word.Shape where
  | operand
  | long (name : String) (value : Option String)
  | short
  | shortHelp
  | endOfOptions

def Word.shape (w : Word) : Word.Shape :=
  match w.text.toList with
  | '-' :: '-' :: [] => if w.whole then .endOfOptions else .short
  | '-' :: '-' :: rest =>
    .long (String.ofList (rest.takeWhile (· ≠ '=')))
      (match rest.dropWhile (· ≠ '=') with
        | _ :: value => some (String.ofList value)
        | [] => none)
  | '-' :: 'h' :: _ => .shortHelp
  | '-' :: _ :: _ => .short
  | _ => .operand

inductive Place where
  | anywhere
  | afterOption (name : String) (kind : OptionKind)
  | operandsOnly

/-- An option that takes a value has it in the same word behind an equals sign or in the next word,
which must not look like an option. -/
def gather (form : Form) : Place → Gathered → List Word → Except Refusal Gathered
  | .afterOption .., _, [] => .error .misuse
  | _, g, [] => .ok g
  | .operandsOnly, g, word :: rest => do
    gather form .operandsOnly (← g.addOperand form word) rest
  | .afterOption name kind, g, word :: rest =>
    match word.shape with
    | .operand => do
      if word.whole then gather form .anywhere (← g.addOption name kind word.text) rest
      else .error .misuse
    | _ => .error .misuse
  | .anywhere, g, word :: rest =>
    match word.shape with
    | .endOfOptions => gather form .operandsOnly g rest
    | .short => .error .misuse
    | .shortHelp => .error .help
    | .operand => do gather form .anywhere (← g.addOperand form word) rest
    | .long name value =>
      if ¬ word.whole then .error .misuse
      else if name = "help" then .error (if value = none then .help else .misuse)
      else match form.options.lookup name, value with
        | none, _ => .error .misuse
        | some .switch, none => do
          gather form .anywhere (← g.addOption name .switch "") rest
        | some .switch, some _ => .error .misuse
        | some kind, some value => do
          gather form .anywhere (← g.addOption name kind value) rest
        | some kind, none => gather form (.afterOption name kind) g rest

namespace Command

def serveForm : Form := ⟨[("queue", .values), ("no-sweep", .switch)], 0⟩

def plainForm : Form := ⟨[], 0⟩

def clearForm : Form := ⟨[], 1⟩

def lockNameForm : Form := ⟨[("args", .value)], 1⟩

def topics : List (List String) :=
  [[], ["serve"], ["sweep"], ["flags"], ["flags", "list"], ["flags", "clear"], ["flags", "help"],
    ["lock-name"], ["help"]]

def helpAbout (topic : List String) (rest : List Word) : Refusal :=
  if rest.all (·.whole) ∧ topics.contains (topic ++ rest.map (·.text)) then .help else .misuse

def refusal (word : Word) : Refusal :=
  match word.shape with
  | .shortHelp => .help
  | .long "help" none => if word.whole then .help else .misuse
  | _ => .misuse

def ofForm (form : Form) (rest : List Word) : Except Refusal Gathered :=
  gather form .anywhere .empty rest

def ofFlagWords : List Word → Except Refusal Command
  | [] => .error .misuse
  | word :: rest =>
    match word with
    | ⟨"list", true⟩ => do
      let _ ← ofForm plainForm rest
      .ok .listFlags
    | ⟨"clear", true⟩ => do
      match (← ofForm clearForm rest).operands with
      | [name] => .ok (.clearFlag name)
      | _ => .error .misuse
    | ⟨"help", true⟩ => .error (helpAbout ["flags"] rest)
    | word => .error (refusal word)

def ofWords : List Word → Except Refusal Command
  | [] => .error .misuse
  | word :: rest =>
    match word with
    | ⟨"serve", true⟩ => do
      let g ← ofForm serveForm rest
      .ok (.serve (g.values "queue") (!g.has "no-sweep"))
    | ⟨"sweep", true⟩ => do
      let _ ← ofForm plainForm rest
      .ok .sweep
    | ⟨"flags", true⟩ => ofFlagWords rest
    | ⟨"lock-name", true⟩ => do
      let g ← ofForm lockNameForm rest
      match g.operands with
      | [task] => .ok (.lockName task (g.values "args").head?)
      | _ => .error .misuse
    | ⟨"help", true⟩ => .error (helpAbout [] rest)
    | word => .error (refusal word)

end Command
end Coalesce.CommandLine
