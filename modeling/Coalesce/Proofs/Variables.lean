import Mathlib.Data.List.Induction
import Mathlib.Data.Nat.Digits.Defs
import Coalesce.Config
import Coalesce.Dispatch.SweepLoop
import Coalesce.Dispatch.Trigger

/-! Which environments a configuration is loaded from. Of the variables that can be at fault the
first one in a fixed order is told of; what is loaded holds the numbers as they are written, and
they are such that the periodic sweep starts and that the runs under a lock are bounded by them. -/
namespace Coalesce

namespace Text

def Pads (s word : List Char) : Prop :=
  ∃ before after, s = before ++ (word ++ after) ∧
    (∀ c ∈ before, isBlank c = true) ∧ ∀ c ∈ after, isBlank c = true

theorem takeWhile_append_dropBlank (s : List Char) : s.takeWhile isBlank ++ dropBlank s = s :=
  List.takeWhile_append_dropWhile

theorem pads_trim (s : List Char) : Pads s (trim s) := by
  have blank (s : List Char) : ∀ c ∈ s.takeWhile isBlank, isBlank c = true :=
    List.all_eq_true.1 List.all_takeWhile
  refine ⟨s.takeWhile isBlank, ((dropBlank s).reverse.takeWhile isBlank).reverse, ?_, blank s, ?_⟩
  · rw [trim, ← List.reverse_append, takeWhile_append_dropBlank, List.reverse_reverse,
      takeWhile_append_dropBlank]
  · intro c mem
    exact blank _ c (List.mem_reverse.1 mem)

theorem dropBlank_append {blanks word rest : List Char} (blank : ∀ c ∈ blanks, isBlank c = true)
    (clear : ∀ c ∈ word, isBlank c = false) (ne : word ≠ []) :
    dropBlank (blanks ++ (word ++ rest)) = word ++ rest := by
  obtain ⟨c, word, rfl⟩ := List.exists_cons_of_ne_nil ne
  rw [dropBlank, List.dropWhile_append_of_pos blank, List.cons_append]
  apply List.dropWhile_cons_of_neg
  simp [clear c]

theorem Pads.trim_eq {s word : List Char} (pads : Pads s word)
    (clear : ∀ c ∈ word, isBlank c = false) (ne : word ≠ []) : trim s = word := by
  obtain ⟨before, after, rfl, blank, blank'⟩ := pads
  have ends : dropBlank (after.reverse ++ (word.reverse ++ [])) = word.reverse ++ [] := by
    apply dropBlank_append
    · simpa using blank'
    · simpa using clear
    · simpa using ne
  rw [List.append_nil] at ends
  rw [trim, dropBlank_append blank clear ne, List.reverse_append, ends, List.reverse_reverse]

end Text

namespace Config

/-- A number in decimal digits with blanks around it, and maybe a plus sign before it. -/
def Numeral (raw : String) (n : Nat) : Prop :=
  ∃ ds : List Char, ds ≠ [] ∧ (∀ c ∈ ds, '0' ≤ c ∧ c ≤ '9') ∧
    (Text.Pads raw.toList ds ∨ Text.Pads raw.toList ('+' :: ds)) ∧
    n = Nat.ofDigits 10 (ds.reverse.map fun c => c.toNat - '0'.toNat)

def Spells (raw word : String) : Prop :=
  ∃ w, Text.Pads raw.toList w ∧ w.map Char.toLower = word.toList

theorem digitsValue_eq_ofDigits (ds : List Char) :
    Json.digitsValue ds = Nat.ofDigits 10 (ds.reverse.map fun c => c.toNat - '0'.toNat) := by
  induction ds using List.reverseRecOn with
  | nil => rfl
  | append_singleton ds c ih =>
    rw [List.reverse_append, List.reverse_singleton, List.singleton_append, List.map_cons,
      Nat.ofDigits_cons, ← ih, Json.digitsValue, List.foldl_append]
    simp only [Json.digitsValue, Json.digitValue, List.foldl_cons, List.foldl_nil, Char.reduceToNat]
    omega

theorem isDigit_iff {c : Char} : Json.isDigit c = true ↔ '0' ≤ c ∧ c ≤ '9' := by
  simp [Json.isDigit]

theorem isBlank_eq_false_of_isDigit {c : Char} (digit : Json.isDigit c = true) :
    Text.isBlank c = false := by
  obtain ⟨above, below⟩ := isDigit_iff.1 digit
  have range : 48 ≤ c.toNat ∧ c.toNat ≤ 57 :=
    ⟨UInt32.le_iff_toNat_le.1 above, UInt32.le_iff_toNat_le.1 below⟩
  simp only [Text.isBlank, Bool.or_eq_false_iff, Bool.and_eq_false_imp, decide_eq_true_eq,
    decide_eq_false_iff_not, beq_eq_false_iff_ne]
  omega

def unsigned : List Char → List Char
  | '+' :: ds => ds
  | ds => ds

theorem unsigned_eq_iff {s ds : List Char} (digits : ∀ c ∈ ds, Json.isDigit c = true) :
    unsigned s = ds ↔ s = ds ∨ s = '+' :: ds := by
  unfold unsigned
  split
  · next t =>
    constructor
    · rintro rfl
      exact .inr rfl
    · rintro (rfl | same)
      · exact absurd (digits '+' List.mem_cons_self) (by decide)
      · exact (List.cons.inj same).2
  · next plain =>
    constructor
    · exact .inl
    · rintro (same | same)
      · exact same
      · exact absurd same (plain ds)

theorem count?_eq (limit : Nat) (raw : String) :
    count? limit raw =
      let ds := unsigned (Text.trim raw.toList)
      if ds ≠ [] ∧ ds.all Json.isDigit ∧ Json.digitsValue ds ≤ limit then some (Json.digitsValue ds)
      else none :=
  rfl

theorem numeral_iff {raw : String} {n : Nat} :
    Numeral raw n ↔
      let ds := unsigned (Text.trim raw.toList)
      ds ≠ [] ∧ ds.all Json.isDigit ∧ Json.digitsValue ds = n := by
  constructor
  · rintro ⟨ds, ne, digits, pads, rfl⟩
    have digit : ∀ c ∈ ds, Json.isDigit c = true := fun c mem => isDigit_iff.2 (digits c mem)
    have clear : ∀ c ∈ ds, Text.isBlank c = false :=
      fun c mem => isBlank_eq_false_of_isDigit (digit c mem)
    have same : unsigned (Text.trim raw.toList) = ds := by
      apply (unsigned_eq_iff digit).2
      apply pads.imp
      · intro plain
        exact plain.trim_eq clear ne
      · intro signed
        apply signed.trim_eq _ (List.cons_ne_nil _ _)
        exact List.forall_mem_cons.2 ⟨by decide, clear⟩
    rw [same]
    exact ⟨ne, List.all_eq_true.2 digit, digitsValue_eq_ofDigits ds⟩
  · rintro ⟨ne, digits, rfl⟩
    have digit := List.all_eq_true.1 digits
    refine ⟨_, ne, fun c mem => isDigit_iff.1 (digit c mem), ?_, digitsValue_eq_ofDigits _⟩
    have pads := Text.pads_trim raw.toList
    apply ((unsigned_eq_iff digit).1 rfl).imp
    · intro plain
      rwa [plain] at pads
    · intro signed
      rwa [signed] at pads

theorem count?_eq_some_iff {limit n : Nat} {raw : String} :
    count? limit raw = some n ↔ Numeral raw n ∧ n ≤ limit := by
  rw [numeral_iff, count?_eq]
  dsimp only
  split
  · next counts =>
    obtain ⟨ne, digits, least⟩ := counts
    rw [Option.some_inj]
    constructor
    · rintro rfl
      exact ⟨⟨ne, digits, rfl⟩, least⟩
    · rintro ⟨⟨-, -, same⟩, -⟩
      exact same
  · next out =>
    constructor
    · intro some
      cases some
    · rintro ⟨⟨ne, digits, rfl⟩, least⟩
      exact absurd ⟨ne, digits, least⟩ out

def words : Bool → List String
  | true => ["1", "true", "yes", "on"]
  | false => ["0", "false", "no", "off"]

theorem toLower_of_isBlank {c : Char} (blank : Text.isBlank c = true) : c.toLower = c := by
  apply dif_neg
  rintro ⟨above, below⟩
  have range : 65 ≤ c.toNat ∧ c.toNat ≤ 90 :=
    ⟨UInt32.le_iff_toNat_le.1 above, UInt32.le_iff_toNat_le.1 below⟩
  simp only [Text.isBlank, Bool.or_eq_true, Bool.and_eq_true, decide_eq_true_eq, beq_iff_eq]
    at blank
  omega

theorem spells_iff {raw word : String} {b : Bool} (mem : word ∈ words b) :
    Spells raw word ↔ String.ofList ((Text.trim raw.toList).map Char.toLower) = word := by
  obtain ⟨ne, clear⟩ : word.toList ≠ [] ∧ ∀ c ∈ word.toList, Text.isBlank c = false := by
    cases b <;> simp only [words, List.mem_cons, List.not_mem_nil, or_false] at mem <;>
      rcases mem with rfl | rfl | rfl | rfl <;> simp [Text.isBlank]
  constructor
  · rintro ⟨w, pads, lower⟩
    have trimmed : Text.trim raw.toList = w := by
      apply pads.trim_eq
      · intro c inside
        by_contra blank
        have blank := eq_true_of_ne_false blank
        have there := clear c.toLower (lower ▸ List.mem_map_of_mem inside)
        rw [toLower_of_isBlank blank, blank] at there
        cases there
      · rintro rfl
        exact ne lower.symm
    rw [trimmed, lower, String.ofList_toList]
  · rintro rfl
    exact ⟨_, Text.pads_trim _, by simp⟩

theorem switch?_eq_some_iff {raw : String} {b : Bool} :
    switch? raw = some b ↔ ∃ word ∈ words b, Spells raw word := by
  have spelt (b : Bool) : (∃ word ∈ words b, Spells raw word) ↔
      String.ofList ((Text.trim raw.toList).map Char.toLower) ∈ words b := by
    constructor
    · rintro ⟨word, mem, spells⟩
      rwa [(spells_iff mem).1 spells]
    · intro mem
      exact ⟨_, mem, (spells_iff mem).2 rfl⟩
  have apart : ∀ word ∈ words true, word ∉ words false := by decide
  rw [spelt]
  unfold switch?
  dsimp only
  generalize String.ofList ((Text.trim raw.toList).map Char.toLower) = word
  change (if word ∈ words true then some true
    else if word ∈ words false then some false else none) = some b ↔ _
  by_cases on : word ∈ words true
  · cases b <;> simp [on, apart word on]
  · cases b <;> simp [on]

/-- What is asked of a variable: a count between one and a limit, or one of the words for on and
off, unless it is not set; or only to be set. -/
inductive Rule where
  | count (limit : Nat)
  | switch
  | required

def checked : List (String × Rule) :=
  [("DISPATCH_LOCAL_CYCLES", .count (UInt32.size - 1)),
    ("DISPATCH_SWEEP_INTERVAL_SECS", .count (UInt64.size - 1)), ("DATABASE_URL", .required),
    ("DISPATCH_STRICT", .switch), ("DISPATCH_BYPASS_BROKER", .switch)]

def Rule.Admits : Rule → Option String → Prop
  | .count limit, some raw => ∃ n, Numeral raw n ∧ 1 ≤ n ∧ n ≤ limit
  | .switch, some raw => ∃ b, ∃ word ∈ words b, Spells raw word
  | .required, none => False
  | _, _ => True

inductive Rule.Refuses (name : String) : Rule → Option String → ConfigFault → Prop where
  | malformed {limit : Nat} {raw : String} (beyond : ∀ n, Numeral raw n → limit < n) :
    Refuses name (.count limit) (some raw) (.invalidValue name raw)
  | zero {limit : Nat} {raw : String} (zero : Numeral raw 0) :
    Refuses name (.count limit) (some raw) (.belowOne name)
  | unreadable {raw : String} (foreign : ∀ b, ∀ word ∈ words b, ¬ Spells raw word) :
    Refuses name .switch (some raw) (.notBoolean name raw)
  | absent : Refuses name .required none (.notSet name)

/-- The first of some variables with something wrong; what the later ones hold does not matter. -/
inductive FirstFault (env : Environment) : List (String × Rule) → String → ConfigFault → Prop where
  | here {name : String} {rule : Rule} {later : List (String × Rule)} {fault : ConfigFault}
    (refuses : rule.Refuses name (env name) fault) :
    FirstFault env ((name, rule) :: later) name fault
  | later {v : String × Rule} {later : List (String × Rule)} {name : String} {fault : ConfigFault}
    (admits : v.2.Admits (env v.1)) (first : FirstFault env later name fault) :
    FirstFault env (v :: later) name fault

variable {env : Environment} {rule : Rule} {name name' raw : String} {held : Option String}
  {fault fault' : ConfigFault} {limit n m : Nat} {vs : List (String × Rule)}

theorem Numeral.unique (numeral : Numeral raw n) (numeral' : Numeral raw m) : n = m := by
  rw [numeral_iff] at numeral numeral'
  exact numeral.2.2.symm.trans numeral'.2.2

theorem Rule.Refuses.not_admits (refuses : rule.Refuses name held fault) : ¬ rule.Admits held := by
  intro admits
  cases refuses with
  | malformed beyond =>
    obtain ⟨n, numeral, -, least⟩ := admits
    exact absurd (beyond n numeral) (by omega)
  | zero zero =>
    obtain ⟨n, numeral, one, -⟩ := admits
    have := zero.unique numeral
    omega
  | unreadable foreign =>
    obtain ⟨b, word, mem, spells⟩ := admits
    exact foreign b word mem spells
  | absent => exact admits

theorem Rule.Refuses.unique (refuses : rule.Refuses name held fault)
    (refuses' : rule.Refuses name held fault') : fault = fault' := by
  cases refuses <;> cases refuses' <;> try rfl
  · next beyond zero => exact absurd (beyond 0 zero) (Nat.not_lt_zero _)
  · next zero beyond => exact absurd (beyond 0 zero) (Nat.not_lt_zero _)

theorem FirstFault.not_admits (first : FirstFault env vs name fault) :
    ¬ ∀ v ∈ vs, v.2.Admits (env v.1) := by
  intro all
  induction first with
  | here refuses => exact refuses.not_admits (all _ List.mem_cons_self)
  | later _ _ ih => exact ih fun v mem => all v (List.mem_cons_of_mem _ mem)

theorem FirstFault.unique (first : FirstFault env vs name fault)
    (first' : FirstFault env vs name' fault') : fault = fault' := by
  induction first with
  | here refuses =>
    cases first' with
    | here refuses' => exact refuses.unique refuses'
    | later admits _ => exact absurd admits refuses.not_admits
  | later admits _ ih =>
    cases first' with
    | here refuses' => exact absurd admits refuses'.not_admits
    | later _ first' => exact ih first'

theorem Rule.Refuses.names (refuses : rule.Refuses name held fault) :
    name.toList <:+: (Error.config fault).message.toList := by
  have text : (Error.config fault).message = "configuration error: " ++ fault.message := rfl
  rw [text, String.toList_append]
  apply List.IsInfix.trans _ (List.suffix_append _ _).isInfix
  unfold ConfigFault.message
  cases refuses with
  | absent =>
    simp only [toString, String.toList_append]
    exact List.infix_append _ _ _
  | _ =>
    simp only [toString, String.toList_append, List.append_assoc]
    exact (List.prefix_append _ _).isInfix

theorem FirstFault.names (first : FirstFault env vs name fault) :
    name.toList <:+: (Error.config fault).message.toList := by
  induction first with
  | here refuses => exact refuses.names
  | later _ _ ih => exact ih

/-! Reading one variable after the other. -/

/-- What reading some variables gives: something good where all of them are in order, or else the
first fault. -/
def Judged {α : Type} (env : Environment) (vs : List (String × Rule)) (good : α → Prop)
    (result : Except Error α) : Prop :=
  match result with
  | .ok a => (∀ v ∈ vs, v.2.Admits (env v.1)) ∧ good a
  | .error e => ∃ name fault, FirstFault env vs name fault ∧ e = .config fault

theorem judged_ok {α : Type} {good : α → Prop} {a : α} (holds : good a) :
    Judged env [] good (.ok a) :=
  ⟨nofun, holds⟩

theorem Judged.bind {α β : Type} {v : String × Rule} {good : α → Prop} {good' : β → Prop}
    {result : Except Error α} {next : α → Except Error β} (judged : Judged env [v] good result)
    (rest : ∀ a, good a → Judged env vs good' (next a)) :
    Judged env (v :: vs) good' (result >>= next) := by
  cases result with
  | error e =>
    obtain ⟨name, fault, first, same⟩ := judged
    refine ⟨name, fault, ?_, same⟩
    cases first with
    | here refuses => exact .here refuses
    | later _ first => cases first
  | ok a =>
    obtain ⟨admits, holds⟩ := judged
    have admitted : v.2.Admits (env v.1) := admits v List.mem_cons_self
    have later := rest a holds
    change Judged env (v :: vs) good' (next a)
    unfold Judged at later ⊢
    cases answer : next a with
    | ok b =>
      rw [answer] at later
      exact ⟨List.forall_mem_cons.2 ⟨admitted, later.1⟩, later.2⟩
    | error e =>
      rw [answer] at later
      obtain ⟨name, fault, first, same⟩ := later
      exact ⟨name, fault, .later admitted first, same⟩

def Counted (env : Environment) (name : String) (usual limit n : Nat) : Prop :=
  match env name with
  | none => n = usual
  | some raw => Numeral raw n ∧ 1 ≤ n ∧ n ≤ limit

def Switched (env : Environment) (name : String) (usual b : Bool) : Prop :=
  match env name with
  | none => b = usual
  | some raw => ∃ word ∈ words b, Spells raw word

theorem judged_single {α : Type} {good : α → Prop} {result : Except Error α} :
    Judged env [(name, rule)] good result ↔
      match result with
      | .ok a => rule.Admits (env name) ∧ good a
      | .error e => ∃ fault, rule.Refuses name (env name) fault ∧ e = .config fault := by
  cases result with
  | ok a => simp [Judged]
  | error e =>
    constructor
    · rintro ⟨_, fault, first, same⟩
      cases first with
      | here refuses => exact ⟨fault, refuses, same⟩
      | later _ first => cases first
    · rintro ⟨fault, refuses, same⟩
      exact ⟨name, fault, .here refuses, same⟩

theorem judged_readCount (env : Environment) (name : String) (usual limit : Nat) :
    Judged env [(name, .count limit)] (Counted env name usual limit)
      (readCount env name usual limit) := by
  rw [judged_single]
  unfold readCount Counted
  cases env name with
  | none => exact ⟨trivial, rfl⟩
  | some raw =>
    dsimp only
    cases counts : count? limit raw with
    | none =>
      refine ⟨_, .malformed fun n numeral => ?_, rfl⟩
      by_contra within
      have counted := count?_eq_some_iff.2 ⟨numeral, Nat.le_of_not_lt within⟩
      rw [counts] at counted
      cases counted
    | some n =>
      obtain ⟨numeral, least⟩ := count?_eq_some_iff.1 counts
      cases n with
      | zero => exact ⟨_, .zero numeral, rfl⟩
      | succ n => exact ⟨⟨n + 1, numeral, by omega, least⟩, numeral, by omega, least⟩

theorem judged_readSwitch (env : Environment) (name : String) (usual : Bool) :
    Judged env [(name, .switch)] (Switched env name usual) (readSwitch env name usual) := by
  rw [judged_single]
  unfold readSwitch Switched
  cases env name with
  | none => exact ⟨trivial, rfl⟩
  | some raw =>
    dsimp only
    cases reads : switch? raw with
    | none =>
      refine ⟨_, .unreadable fun b word mem spells => ?_, rfl⟩
      have read := switch?_eq_some_iff.2 ⟨word, mem, spells⟩
      rw [reads] at read
      cases read
    | some b =>
      have spelt := switch?_eq_some_iff.1 reads
      exact ⟨⟨b, spelt⟩, spelt⟩

theorem judged_readRequired (env : Environment) (name : String) :
    Judged env [(name, .required)] (fun text => env name = some text) (readRequired env name) := by
  rw [judged_single]
  unfold readRequired
  cases env name with
  | none => exact ⟨_, .absent, rfl⟩
  | some raw => exact ⟨trivial, rfl⟩

structure Loaded (env : Environment) (c : Config) : Prop where
  cycles : Counted env "DISPATCH_LOCAL_CYCLES" defaultLocalCycles (UInt32.size - 1) c.localCycles
  seconds :
    Counted env "DISPATCH_SWEEP_INTERVAL_SECS" defaultSweepSeconds (UInt64.size - 1) c.sweepSeconds
  database : env "DATABASE_URL" = some c.databaseUrl
  strict : Switched env "DISPATCH_STRICT" true c.strict
  bypass : Switched env "DISPATCH_BYPASS_BROKER" false c.bypassBroker
  traces : c.traceEndpoint = env "OTEL_ENDPOINT"
  logs : c.logLevel = (env "LOG_LEVEL").getD "info"
  queue : c.defaultQueue = (env "DISPATCH_DEFAULT_QUEUE").getD defaultQueueName
  routes : c.routesFile = env "DISPATCH_ROUTES"

theorem judged_ofEnvironment (env : Environment) :
    Judged env checked (Loaded env) (ofEnvironment env) := by
  unfold ofEnvironment
  apply (judged_readCount env _ _ largestCycles).bind
  intro cycles counted
  apply (judged_readCount env _ _ largestSeconds).bind
  intro seconds counted'
  apply (judged_readRequired env _).bind
  intro address set
  apply (judged_readSwitch env _ _).bind
  intro strict switched
  apply (judged_readSwitch env _ _).bind
  intro bypass switched'
  exact judged_ok ⟨counted, counted', set, switched, switched', rfl, rfl, rfl, rfl⟩

theorem Counted.pos {usual : Nat} (counted : Counted env name usual limit n) (pos : 1 ≤ usual) :
    1 ≤ n := by
  unfold Counted at counted
  split at counted
  · omega
  · exact counted.2.1

theorem ofInterval_of_pos {interval : Nat} (pos : 1 ≤ interval) :
    SweepLoop.ofInterval interval = .ok ⟨interval, 0⟩ :=
  if_neg (Nat.ne_of_gt pos)

theorem bound_ofTask {β : Type} {c : Config} (pos : 1 ≤ c.localCycles) (fresh : String)
    (t : Task β) (input : TaskInput) :
    (Trigger.ofTask c.settings fresh t input).bound = c.localCycles :=
  Nat.max_eq_right pos

theorem ofBytes_eq_some_iff {raw : String → Option ByteArray} {name s : String} :
    Environment.ofBytes raw name = some s ↔ raw name = some s.toUTF8 := by
  unfold Environment.ofBytes
  cases raw name with
  | none => simp
  | some bytes =>
    rw [Option.bind_some, Option.some_inj]
    unfold String.fromUTF8?
    constructor
    · intro read
      split at read
      · next valid =>
        cases read
        rfl
      · cases read
    · rintro rfl
      exact dif_pos s.isValidUTF8

/-- Whether loading from an environment succeeds, the error that it ends with otherwise, and what is
loaded. With a loaded configuration the periodic sweep can be set up, and the runs under a lock have
the configured bound. -/
structure Exactly (env : Environment) (result : Except Error Config) : Prop where
  accepts : (∃ c, result = .ok c) ↔ ∀ v ∈ checked, v.2.Admits (env v.1)
  refuses : ∀ e, result = .error e ↔
    ∃ name fault, FirstFault env checked name fault ∧ e = .config fault
  names : ∀ name fault, FirstFault env checked name fault →
    name.toList <:+: (Error.config fault).message.toList
  loaded : ∀ c, result = .ok c → Loaded env c
  sweeps : ∀ c, result = .ok c →
    SweepLoop.ofInterval (1000 * c.sweepSeconds) = .ok ⟨1000 * c.sweepSeconds, 0⟩
  bound : ∀ c, result = .ok c → ∀ (β : Type) (fresh : String) (t : Task β) (input : TaskInput),
    (Trigger.ofTask c.settings fresh t input).bound = c.localCycles

theorem exactly_of_judged {result : Except Error Config}
    (judged : Judged env checked (Loaded env) result) : Exactly env result := by
  cases result with
  | ok c =>
    obtain ⟨admits, loaded⟩ := judged
    have cycles : 1 ≤ c.localCycles := loaded.cycles.pos (by decide)
    have seconds : 1 ≤ c.sweepSeconds := loaded.seconds.pos (by decide)
    refine ⟨⟨fun _ => admits, fun _ => ⟨c, rfl⟩⟩, fun e => ⟨nofun, ?refused⟩,
      fun _ _ first => first.names, ?loaded, ?sweeps, ?bound⟩
    case refused =>
      rintro ⟨name, fault, first, -⟩
      exact absurd admits first.not_admits
    case loaded =>
      rintro _ ⟨⟩
      exact loaded
    case sweeps =>
      rintro _ ⟨⟩
      apply ofInterval_of_pos
      omega
    case bound =>
      rintro _ ⟨⟩ β
      exact bound_ofTask cycles
  | error e =>
    obtain ⟨name, fault, first, rfl⟩ := judged
    refine ⟨⟨nofun, fun admits => absurd admits first.not_admits⟩, fun e => ⟨?first, ?same⟩,
      fun _ _ first => first.names, nofun, nofun, nofun⟩
    case first =>
      rintro ⟨⟩
      exact ⟨name, fault, first, rfl⟩
    case same =>
      rintro ⟨_, _, first', rfl⟩
      rw [first.unique first']

/-- A configuration is loaded exactly where each variable that is looked at is in order, and
otherwise the first that is not is told of. A variable counts only if its bytes are a text. -/
theorem loads_exactly (raw : String → Option ByteArray) :
    (∀ name s, Environment.ofBytes raw name = some s ↔ raw name = some s.toUTF8) ∧
      Exactly (.ofBytes raw) (ofEnvironment (.ofBytes raw)) :=
  ⟨fun _ _ => ofBytes_eq_some_iff, exactly_of_judged (judged_ofEnvironment _)⟩

end Config
end Coalesce
